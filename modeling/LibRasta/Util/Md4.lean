/-
Module: LibRasta/Util/Md4.lean
source: src/c/util/rastamd4.c
digest: However its input is cut into pieces, the buffered MD4 gives the digest of all of it, and equal digests of different inputs come from a collision of the compression.
-/

import LibRasta.Factory
import LibRasta.Lib.Blocks
import LibRasta.Util.Digests

set_option autoImplicit false
set_option relaxedAutoImplicit false

namespace LibRasta.Util

open LibRasta.Lib
open LibRasta.Factory (length_store)

section Buffers

variable {mem bytes : Bytes} {offset : ℕ}

theorem take_store (h : offset + bytes.length ≤ mem.length) :
    (store mem offset bytes).take (offset + bytes.length) = mem.take offset ++ bytes := by
  have hfront : (mem.take offset ++ bytes).length = offset + bytes.length := by
    rw [List.length_append, List.length_take]
    omega
  rw [store, List.take_of_length_le (show bytes.length ≤ mem.length - offset by omega), ← hfront,
    List.take_left]

/-- What was written up to the end of the array leaves nothing behind it. -/
theorem store_full (h : offset + bytes.length = mem.length) :
    store mem offset bytes = mem.take offset ++ bytes := by
  have htake := take_store (Nat.le_of_eq h)
  rwa [h, ← length_store mem bytes offset, List.take_length] at htake

theorem store_of_fits (h : offset + bytes.length ≤ mem.length) :
    store mem offset bytes = mem.take offset ++ bytes ++ mem.drop (offset + bytes.length) := by
  rw [store, List.take_of_length_le (show bytes.length ≤ mem.length - offset by omega)]

theorem store_store {more : Bytes} (h : offset + bytes.length + more.length ≤ mem.length) :
    store (store mem offset bytes) (offset + bytes.length) more =
      store mem offset (bytes ++ more) := by
  have hfront : (mem.take offset ++ bytes).length = offset + bytes.length := by
    rw [List.length_append, List.length_take]
    omega
  have hboth : offset + (bytes ++ more).length ≤ mem.length := by
    rw [List.length_append]
    omega
  have hsecond : offset + bytes.length + more.length ≤ (store mem offset bytes).length := by
    rw [length_store]
    exact h
  have hback : (mem.drop (offset + bytes.length)).drop more.length =
      mem.drop (offset + (bytes ++ more).length) := by
    rw [List.drop_drop, List.length_append, Nat.add_assoc]
  rw [store_of_fits hsecond, store_of_fits (Nat.le_of_add_right_le h), store_of_fits hboth, ← hback]
  generalize mem.drop (offset + bytes.length) = back
  rw [← hfront, List.take_left, ← List.drop_drop, List.drop_left]
  simp only [List.append_assoc]

end Buffers

section Specification

/-- The words after a block of 64 bytes: three rounds over it, added to the words before. -/
def md4Compress (start : Md4Words) (block : Bytes) : Md4Words :=
  let words := md4Round md4F 0 [0, 1, 2, 3, 4, 5, 6, 7, 8, 9, 10, 11, 12, 13, 14, 15]
    [3, 7, 11, 19] block start
  let words := md4Round md4G 0x5a827999 [0, 4, 8, 12, 1, 5, 9, 13, 2, 6, 10, 14, 3, 7, 11, 15]
    [3, 5, 9, 13] block words
  let words := md4Round md4H 0x6ed9eba1 [0, 8, 4, 12, 2, 10, 6, 14, 1, 9, 5, 13, 3, 11, 7, 15]
    [3, 9, 11, 15] block words
  { a := words.a + start.a, b := words.b + start.b, c := words.c + start.c, d := words.d + start.d }

/-- What is appended to data of this length: a one bit, zeros until 8 bytes are left of a block,
and the length in bits. -/
def md4Padding (length : ℕ) : Bytes :=
  0x80 :: (List.replicate ((119 - length % 64) % 64) 0 ++ u64To8Le (UInt64.ofNat (8 * length)))

/-- The 16 bytes of four words. -/
def Md4Words.toBytes (words : Md4Words) : Bytes :=
  hostLongToLe words.a ++ hostLongToLe words.b ++ hostLongToLe words.c ++ hostLongToLe words.d

/-- The digest of the data for the given initial words. -/
def md4Digest (start : Md4Words) (data : Bytes) : Bytes :=
  ((blocks 64 (data ++ md4Padding data.length)).foldl md4Compress start).toBytes

-- the digest of nothing, from the words `MD4_Init_Rasta` starts with
example : md4Digest ⟨0x67452301, 0xefcdab89, 0x98badcfe, 0x10325476⟩ [] =
    [0x31, 0xd6, 0xcf, 0xe0, 0xd1, 0x6a, 0xe9, 0x31, 0xb7, 0x3c, 0x59, 0xd7, 0xe0, 0xc0, 0x89,
      0xc0] := by
  decide +kernel

end Specification

section Compression

/-- The four words of a context. -/
def Md4Ctx.words (ctx : Md4Ctx) : Md4Words where
  a := ctx.a
  b := ctx.b
  c := ctx.c
  d := ctx.d

def Md4Ctx.withWords (ctx : Md4Ctx) (words : Md4Words) : Md4Ctx :=
  { ctx with a := words.a, b := words.b, c := words.c, d := words.d }

variable {ctx : Md4Ctx}

theorem md4Block_eq (block : Bytes) :
    md4Block ctx block = ctx.withWords (md4Compress ctx.words block) := rfl

@[simp]
theorem words_withWords (words : Md4Words) : (ctx.withWords words).words = words := rfl

@[simp]
theorem withWords_withWords (first second : Md4Words) :
    (ctx.withWords first).withWords second = ctx.withWords second := rfl

theorem foldl_md4Block (pieces : List Bytes) :
    pieces.foldl md4Block ctx = ctx.withWords (pieces.foldl md4Compress ctx.words) := by
  induction pieces generalizing ctx with
  | nil => rfl
  | cons block rest ih =>
    rw [List.foldl_cons, List.foldl_cons, ih, md4Block_eq, words_withWords, withWords_withWords]

/-- `body` only works on the words. -/
theorem md4Body_eq (data : Bytes) :
    md4Body ctx data = ctx.withWords ((blocks 64 data).foldl md4Compress ctx.words) := by
  rw [← foldl_md4Block, blocks, List.foldl_map]
  rfl

theorem md4Body_frame (data : Bytes) :
    (md4Body ctx data).lo = ctx.lo ∧ (md4Body ctx data).hi = ctx.hi ∧
      (md4Body ctx data).buffer = ctx.buffer := by
  rw [md4Body_eq]
  exact ⟨rfl, rfl, rfl⟩

theorem md4UpdateBlocks_eq (data : Bytes) :
    md4UpdateBlocks ctx data =
      { ctx.withWords ((blocks 64 data).foldl md4Compress ctx.words) with
        buffer := store ctx.buffer 0 (residue 64 data) } := by
  unfold md4UpdateBlocks
  dsimp only
  by_cases hlong : 64 ≤ data.length
  · rw [if_pos hlong, md4Body_eq, blocks_whole (by omega)]
    rfl
  · rw [if_neg hlong, blocks_short (by omega)]
    rfl

end Compression

section Absorption

variable {start : Md4Words} {data : Bytes} {ctx : Md4Ctx}

/-- What a context holds once it was given the data: the words after the whole blocks, what follows
them, and the length. -/
structure Absorbed (start : Md4Words) (data : Bytes) (ctx : Md4Ctx) : Prop where
  lo : ctx.lo.toNat = data.length % 2 ^ 29
  hi : ctx.hi.toNat = data.length / 2 ^ 29 % 2 ^ 32
  words : ctx.words = (blocks 64 data).foldl md4Compress start
  room : ctx.buffer.length = 64
  buffer : ctx.buffer.take (data.length % 64) = residue 64 data

theorem md4InitContext_absorbed (a b c d : UInt32) :
    Absorbed ⟨a, b, c, d⟩ [] (md4InitContext a b c d) where
  lo := rfl
  hi := rfl
  words := rfl
  room := rfl
  buffer := rfl

/-- The bytes of the last block that are in use. -/
theorem Absorbed.used (h : Absorbed start data ctx) :
    ctx.lo.toNat &&& 0x3f = data.length % 64 := by
  rw [Nat.and_two_pow_sub_one_eq_mod ctx.lo.toNat 6, h.lo]
  omega

/-- The counter of `MD4_Update_Rasta`, which holds 29 bits in its lower word. -/
theorem md4_counts {lo hi : UInt32} {total : ℕ} (hlo : lo.toNat = total % 2 ^ 29)
    (hhi : hi.toNat = total / 2 ^ 29 % 2 ^ 32) (size : ℕ) :
    let lo' := UInt32.ofNat ((lo.toNat + size) &&& 0x1fffffff)
    lo'.toNat = (total + size) % 2 ^ 29 ∧
      ((if lo' < lo then hi + 1 else hi) + UInt32.ofNat (size >>> 29)).toNat =
        (total + size) / 2 ^ 29 % 2 ^ 32 := by
  intro lo'
  have hnext : lo'.toNat = (total + size) % 2 ^ 29 := by
    show (UInt32.ofNat ((lo.toNat + size) &&& 0x1fffffff)).toNat = _
    rw [Nat.and_two_pow_sub_one_eq_mod (lo.toNat + size) 29, hlo, UInt32.toNat_ofNat']
    omega
  refine ⟨hnext, ?_⟩
  rw [UInt32.toNat_add, UInt32.toNat_ofNat', Nat.shiftRight_eq_div_pow]
  by_cases hcarry : lo' < lo
  · have hless : (total + size) % 2 ^ 29 < total % 2 ^ 29 := by
      rw [← hnext, ← hlo]
      exact hcarry
    have hone : (1 : UInt32).toNat = 1 := rfl
    rw [if_pos hcarry, UInt32.toNat_add, hone, hhi]
    omega
  · have hless : ¬ (total + size) % 2 ^ 29 < total % 2 ^ 29 := by
      rw [← hnext, ← hlo]
      exact hcarry
    rw [if_neg hcarry, hhi]
    omega

/-- The counters after `size` more bytes. -/
def md4Counted (ctx : Md4Ctx) (size : ℕ) : Md4Ctx :=
  let lo := UInt32.ofNat ((ctx.lo.toNat + size) &&& 0x1fffffff)
  { ctx with
    lo := lo
    hi := (if lo < ctx.lo then ctx.hi + 1 else ctx.hi) + UInt32.ofNat (size >>> 29) }

/-- What `MD4_Update_Rasta` does once it has counted. -/
def md4Fill (ctx : Md4Ctx) (used : ℕ) (data : Bytes) : Md4Ctx :=
  if used = 0 then md4UpdateBlocks ctx data
  else
    let available := 64 - used
    if data.length < available then { ctx with buffer := store ctx.buffer used data }
    else
      let buffer := store ctx.buffer used (data.take available)
      md4UpdateBlocks (md4Body { ctx with buffer := buffer } buffer) (data.drop available)

theorem md4UpdateRasta_eq (data : Bytes) :
    md4UpdateRasta ctx data =
      md4Fill (md4Counted ctx data.length) (ctx.lo.toNat &&& 0x3f) data := rfl

/-- A context between two calls: the words after the whole blocks of `pending`, and in the buffer
what follows them. -/
def Pends (ctx : Md4Ctx) (pending : Bytes) (after : Md4Ctx) : Prop :=
  ∃ buffer, after = { ctx.withWords ((blocks 64 pending).foldl md4Compress ctx.words) with
      buffer := buffer } ∧
    buffer.length = 64 ∧ buffer.take (pending.length % 64) = residue 64 pending

theorem md4UpdateBlocks_pends (hroom : ctx.buffer.length = 64) (pending : Bytes) :
    Pends ctx pending (md4UpdateBlocks ctx pending) := by
  refine ⟨_, md4UpdateBlocks_eq pending, ?_, ?_⟩
  · rw [length_store, hroom]
  · have htake := @take_store ctx.buffer (residue 64 pending) 0 (by rw [length_residue]; omega)
    rwa [Nat.zero_add, length_residue, List.take_zero, List.nil_append] at htake

/-- The bytes of the buffer in use and the new ones are taken in blocks together. -/
theorem md4Fill_pends (hroom : ctx.buffer.length = 64) {used : ℕ} (hused : used < 64)
    (more : Bytes) : Pends ctx (ctx.buffer.take used ++ more) (md4Fill ctx used more) := by
  have hfront : (ctx.buffer.take used).length = used := by
    rw [List.length_take]
    omega
  unfold md4Fill
  by_cases hzero : used = 0
  · rw [if_pos hzero, hzero, List.take_zero, List.nil_append]
    exact md4UpdateBlocks_pends hroom more
  · rw [if_neg hzero]
    dsimp only
    by_cases hshort : more.length < 64 - used
    · have hpending : (ctx.buffer.take used ++ more).length = used + more.length := by
        rw [List.length_append, hfront]
      rw [if_pos hshort]
      refine ⟨store ctx.buffer used more, ?_, by rw [length_store, hroom], ?_⟩
      · rw [blocks_short (by omega)]
        rfl
      · rw [residue_short (by omega), hpending, Nat.mod_eq_of_lt (by omega)]
        apply take_store
        omega
    · rw [if_neg hshort]
      have hpiece : (more.take (64 - used)).length = 64 - used := by
        rw [List.length_take]
        omega
      have hbuffer := @store_full ctx.buffer (more.take (64 - used)) used (by omega)
      have hblock : (ctx.buffer.take used ++ more.take (64 - used)).length = 64 := by
        rw [List.length_append, hfront, hpiece]
        omega
      rw [hbuffer]
      generalize hfull : ctx.buffer.take used ++ more.take (64 - used) = block at hblock ⊢
      have hjoin : ctx.buffer.take used ++ more = block ++ more.drop (64 - used) := by
        rw [← hfull, List.append_assoc, List.take_append_drop]
      have hroom' : (md4Body { ctx with buffer := block } block).buffer.length = 64 := by
        rw [(md4Body_frame block).2.2]
        exact hblock
      obtain ⟨buffer, hafter, hlength, htake⟩ :=
        md4UpdateBlocks_pends hroom' (more.drop (64 - used))
      obtain ⟨hblocks, hresidue⟩ := @blocks_append _ 64 block (more.drop (64 - used)) (by omega) 1
        (by omega)
      refine ⟨buffer, ?_, hlength, ?_⟩
      · rw [hafter, hjoin, hblocks, List.foldl_append, md4Body_eq]
        rfl
      · rw [hjoin, hresidue, ← htake, List.length_append, hblock]
        congr 1
        omega

theorem Absorbed.update (h : Absorbed start data ctx) (more : Bytes) :
    Absorbed start (data ++ more) (md4UpdateRasta ctx more) := by
  obtain ⟨hlo, hhi⟩ := md4_counts h.lo h.hi more.length
  have hroom : (md4Counted ctx more.length).buffer.length = 64 := h.room
  obtain ⟨buffer, hafter, hlength, htake⟩ :=
    md4Fill_pends hroom (Nat.mod_lt data.length (by omega)) more
  have hpending : (md4Counted ctx more.length).buffer.take (data.length % 64) =
      residue 64 data := h.buffer
  have hcount : (residue 64 data ++ more).length % 64 = (data ++ more).length % 64 := by
    rw [List.length_append, List.length_append, length_residue]
    omega
  obtain ⟨hblocks, hresidue⟩ := @blocks_append_residue _ 64 data more (by omega)
  rw [hpending] at hafter htake
  rw [md4UpdateRasta_eq, h.used, hafter]
  rw [← List.length_append] at hlo hhi
  refine ⟨hlo, hhi, ?_, hlength, ?_⟩
  · rw [hblocks, List.foldl_append, ← h.words]
    rfl
  · rw [hresidue, ← htake, hcount]

end Absorption

section Finish

variable {start : Md4Words} {data : Bytes} {ctx : Md4Ctx}

theorem length_u64To8Le (word : UInt64) : (u64To8Le word).length = 8 := rfl

/-- The two counters, the lower one shifted, are the length in bits. -/
theorem Absorbed.lengthBytes (h : Absorbed start data ctx) :
    hostLongToLe (ctx.lo <<< 3) ++ hostLongToLe ctx.hi =
      u64To8Le (UInt64.ofNat (8 * data.length)) := by
  have hlo := h.lo
  have hhi := h.hi
  have hlower : ctx.lo <<< 3 = (UInt64.ofNat (8 * data.length)).toUInt32 := by
    have hthree : (3 : UInt32).toNat % 32 = 3 := rfl
    apply UInt32.toNat_inj.mp
    rw [UInt32.toNat_shiftLeft, hthree, Nat.shiftLeft_eq, hlo, UInt64.toNat_toUInt32,
      UInt64.toNat_ofNat']
    omega
  have hupper : ctx.hi = (UInt64.ofNat (8 * data.length) >>> 32).toUInt32 := by
    have hshift : (32 : UInt64).toNat % 64 = 32 := rfl
    apply UInt32.toNat_inj.mp
    rw [UInt64.toNat_toUInt32, UInt64.toNat_shiftRight, hshift, Nat.shiftRight_eq_div_pow, hhi,
      UInt64.toNat_ofNat']
    omega
  rw [hlower, hupper]
  rfl

/-- The last block, once the bytes in use leave room for the length. -/
theorem store_length {buffer low high : Bytes} (hroom : buffer.length = 64) {used : ℕ}
    (hused : used ≤ 56) (hlow : low.length = 4) (hhigh : high.length = 4) :
    store (store (store buffer used (List.replicate (64 - used - 8) 0)) 56 low) 60 high =
      buffer.take used ++ (List.replicate (56 - used) 0 ++ (low ++ high)) := by
  have hzeros : (List.replicate (64 - used - 8) (0 : UInt8)).length = 56 - used := by
    rw [List.length_replicate]
    omega
  generalize hz : List.replicate (64 - used - 8) (0 : UInt8) = zeros at hzeros ⊢
  have hsame : List.replicate (56 - used) (0 : UInt8) = zeros := by
    rw [← hz]
    congr 1
    omega
  have hfirst := @take_store buffer zeros used (by omega)
  have hsecond := @take_store (store buffer used zeros) low 56 (by rw [length_store]; omega)
  have hthird := @store_full (store (store buffer used zeros) 56 low) high 60 (by
    rw [length_store, length_store]
    omega)
  rw [show used + zeros.length = 56 by omega] at hfirst
  rw [hlow, hfirst] at hsecond
  rw [hthird, hsecond, hsame]
  simp only [List.append_assoc]

theorem md4Padding_short {length : ℕ} (h : length % 64 < 56) :
    md4Padding length = 0x80 :: (List.replicate (55 - length % 64) 0 ++
      u64To8Le (UInt64.ofNat (8 * length))) := by
  rw [md4Padding]
  congr 3
  omega

theorem md4Padding_long {length : ℕ} (h : 56 ≤ length % 64) :
    md4Padding length = 0x80 :: List.replicate (63 - length % 64) 0 ++
      (List.replicate 56 0 ++ u64To8Le (UInt64.ofNat (8 * length))) := by
  have hzeros : (119 - length % 64) % 64 = 63 - length % 64 + 56 := by omega
  rw [md4Padding, hzeros, List.replicate_add]
  simp only [List.cons_append, List.append_assoc]

/-- `MD4_Final_Rasta` from the bytes in use on. -/
theorem md4FinalRasta_eq :
    md4FinalRasta ctx =
      let used := ctx.lo.toNat &&& 0x3f
      let marked := store ctx.buffer used [0x80]
      let zeros := store marked (used + 1) (List.replicate (64 - (used + 1)) 0)
      let ctx' := if 64 - (used + 1) < 8 then
          md4Body { ctx with buffer := zeros } zeros else { ctx with buffer := marked }
      let used' := if 64 - (used + 1) < 8 then 0 else used + 1
      let last := store (store (store ctx'.buffer used' (List.replicate (64 - used' - 8) 0)) 56
        (hostLongToLe (ctx'.lo <<< 3))) 60 (hostLongToLe ctx'.hi)
      (md4Body ctx' last).words.toBytes := rfl

theorem Absorbed.final (h : Absorbed start data ctx) :
    md4FinalRasta ctx = md4Digest start data := by
  have hroom := h.room
  have hresidue : (residue 64 data).length = data.length % 64 := length_residue
  have hmarked := @take_store ctx.buffer [0x80] (data.length % 64) (by
    rw [List.length_singleton]
    omega)
  rw [h.buffer, List.length_singleton] at hmarked
  have hsplit := (@blocks_append_residue _ 64 data (md4Padding data.length) (by omega)).1
  rw [md4FinalRasta_eq, h.used, md4Digest, hsplit, List.foldl_append, ← h.words]
  dsimp only
  generalize hmark : store ctx.buffer (data.length % 64) [0x80] = marked at hmarked ⊢
  have hlength : marked.length = 64 := by rw [← hmark, length_store, hroom]
  by_cases hfull : 64 - (data.length % 64 + 1) < 8
  · -- no room for the length: the bytes in use get a block of their own
    have hzeros := @store_full marked (List.replicate (64 - (data.length % 64 + 1)) 0)
      (data.length % 64 + 1) (by rw [List.length_replicate]; omega)
    rw [if_pos hfull, if_pos hfull, hzeros, hmarked]
    generalize hfirst : residue 64 data ++ [0x80] ++
      List.replicate (64 - (data.length % 64 + 1)) 0 = first
    have hblock : first.length = 64 := by
      rw [← hfirst, List.length_append, List.length_append, hresidue, List.length_singleton,
        List.length_replicate]
      omega
    obtain ⟨hlo, hhi, hbuffer⟩ := @md4Body_frame { ctx with buffer := first } first
    dsimp only at hlo hhi hbuffer
    have hpadded : residue 64 data ++ md4Padding data.length =
        first ++ (List.replicate 56 0 ++ u64To8Le (UInt64.ofNat (8 * data.length))) := by
      rw [md4Padding_long (by omega), ← hfirst,
        show 63 - data.length % 64 = 64 - (data.length % 64 + 1) by omega]
      simp only [List.append_assoc, List.cons_append, List.nil_append]
    have hjoin := (@blocks_append _ 64 first
      (List.replicate 56 0 ++ u64To8Le (UInt64.ofNat (8 * data.length))) (by omega) 1
      (by omega)).1
    rw [hbuffer, hlo, hhi, store_length hblock (by omega) rfl rfl, h.lengthBytes, List.take_zero,
      List.nil_append, md4Body_eq, md4Body_eq, hpadded, hjoin, List.foldl_append]
    rfl
  · rw [if_neg hfull, if_neg hfull, store_length hlength (by omega) rfl rfl, h.lengthBytes,
      hmarked, md4Padding_short (by omega), md4Body_eq, words_withWords, List.append_assoc,
      List.singleton_append, show 55 - data.length % 64 = 56 - (data.length % 64 + 1) by omega]
    rfl

theorem md4_eq (a b c d : UInt32) (data : Bytes) :
    md4FinalRasta (md4UpdateRasta (md4InitContext a b c d) data) = md4Digest ⟨a, b, c, d⟩ data :=
  ((md4InitContext_absorbed a b c d).update data).final

/-- However the data is cut into calls of `MD4_Update_Rasta`, the result is the digest of all of
it. -/
theorem md4_streaming (a b c d : UInt32) (pieces : List Bytes) :
    md4FinalRasta (pieces.foldl md4UpdateRasta (md4InitContext a b c d)) =
      md4Digest ⟨a, b, c, d⟩ pieces.flatten := by
  have habsorbed : ∀ (data : Bytes) (ctx : Md4Ctx), Absorbed ⟨a, b, c, d⟩ data ctx →
      Absorbed ⟨a, b, c, d⟩ (data ++ pieces.flatten) (pieces.foldl md4UpdateRasta ctx) := by
    induction pieces with
    | nil =>
      intro data ctx h
      rw [List.flatten_nil, List.append_nil]
      exact h
    | cons piece rest ih =>
      intro data ctx h
      rw [List.flatten_cons, ← List.append_assoc]
      exact ih _ _ (h.update piece)
  exact (habsorbed [] _ (md4InitContext_absorbed a b c d)).final

end Finish

section Collisions

variable {start : Md4Words} {data data' : Bytes}

theorem le32_injective {v w : UInt32} (h : le32 v = le32 w) : v = w := by
  rw [← ofLe32_le32 v, ← ofLe32_le32 w]
  simp only [le32, List.cons.injEq, and_true] at h
  rw [h.1, h.2.1, h.2.2.1, h.2.2.2]

theorem u64To8Le_injective {v w : UInt64} (h : u64To8Le v = u64To8Le w) : v = w := by
  obtain ⟨hlower, hupper⟩ := List.append_inj h rfl
  have hlow := congrArg UInt32.toNat (le32_injective hlower)
  have hhigh := congrArg UInt32.toNat (le32_injective hupper)
  have hshift : (32 : UInt64).toNat % 64 = 32 := rfl
  have hv := v.toNat_lt
  have hw := w.toNat_lt
  rw [UInt64.toNat_toUInt32, UInt64.toNat_toUInt32] at hlow hhigh
  rw [UInt64.toNat_shiftRight, UInt64.toNat_shiftRight, hshift, Nat.shiftRight_eq_div_pow,
    Nat.shiftRight_eq_div_pow] at hhigh
  apply UInt64.toNat_inj.mp
  omega

theorem Md4Words.toBytes_injective {words words' : Md4Words}
    (h : words.toBytes = words'.toBytes) : words = words' := by
  obtain ⟨habc, hd⟩ := List.append_inj h rfl
  obtain ⟨hab, hc⟩ := List.append_inj habc rfl
  obtain ⟨ha, hb⟩ := List.append_inj hab rfl
  have ha := le32_injective ha
  have hb := le32_injective hb
  have hc := le32_injective hc
  have hd := le32_injective hd
  cases words
  cases words'
  simp only [Md4Words.mk.injEq]
  exact ⟨ha, hb, hc, hd⟩

theorem length_md4Padding (length : ℕ) :
    ∃ k, length + (md4Padding length).length = (k + 1) * 64 := by
  refine ⟨(length + (119 - length % 64) % 64 + 9) / 64 - 1, ?_⟩
  rw [md4Padding, List.length_cons, List.length_append, List.length_replicate, length_u64To8Le]
  omega

/-- The last eight bytes of the last block are the length in bits. -/
theorem md4_lastBlock (data : Bytes) :
    ∃ last, (blocks 64 (data ++ md4Padding data.length)).getLast? = some last ∧
      last.drop 56 = u64To8Le (UInt64.ofNat (8 * data.length)) := by
  obtain ⟨k, hk⟩ := length_md4Padding data.length
  refine ⟨_, getLast?_blocks (by omega) ((List.length_append).trans hk), ?_⟩
  have hsplit : data ++ md4Padding data.length =
      (data ++ 0x80 :: List.replicate ((119 - data.length % 64) % 64) 0) ++
        u64To8Le (UInt64.ofNat (8 * data.length)) := by
    rw [md4Padding, List.append_assoc, List.cons_append]
  have hfront : (data ++ 0x80 :: List.replicate ((119 - data.length % 64) % 64)
      (0 : UInt8)).length = k * 64 + 56 := by
    rw [md4Padding, List.length_cons, List.length_append, List.length_replicate,
      length_u64To8Le] at hk
    rw [List.length_append, List.length_cons, List.length_replicate]
    omega
  rw [List.drop_drop, hsplit, ← hfront, List.drop_left]

/-- The blocks that are compressed. -/
def md4Blocks (data : Bytes) : List Bytes := blocks 64 (data ++ md4Padding data.length)

/-- Two different inputs with one digest show a collision of the compression of a block, at a
place in each of the two chains. -/
theorem md4_collides (hdata : data.length < 2 ^ 61) (hdata' : data'.length < 2 ^ 61)
    (hne : data ≠ data') (h : md4Digest start data = md4Digest start data') :
    Collides md4Compress start start (md4Blocks data) (md4Blocks data') := by
  obtain ⟨last, hlast, hbytes⟩ := md4_lastBlock data
  obtain ⟨last', hlast', hbytes'⟩ := md4_lastBlock data'
  obtain ⟨k, hk⟩ := length_md4Padding data.length
  obtain ⟨k', hk'⟩ := length_md4Padding data'.length
  have hsame : (blocks 64 (data ++ md4Padding data.length)).getLast? =
      (blocks 64 (data' ++ md4Padding data'.length)).getLast? → data.length = data'.length := by
    intro heq
    rw [hlast, hlast', Option.some.injEq] at heq
    rw [heq, hbytes'] at hbytes
    have hbits := congrArg UInt64.toNat (u64To8Le_injective hbytes)
    rw [UInt64.toNat_ofNat', UInt64.toNat_ofNat'] at hbits
    omega
  have hwords := Md4Words.toBytes_injective h
  refine collides_of_ne ?_ ?_ ?_ ?_ hwords
  · intro heq
    rw [md4Blocks, md4Blocks, length_blocks, length_blocks, List.length_append,
      List.length_append, hsame heq]
  · intro hnone
    rw [← md4Blocks, hnone] at hlast
    cases hlast
  · intro hnone
    rw [← md4Blocks, hnone] at hlast'
    cases hlast'
  · -- equal blocks would make the data equal
    intro heq
    have hwhole := congrArg List.flatten heq
    rw [md4Blocks, md4Blocks, flatten_blocks (by omega) ((List.length_append).trans hk),
      flatten_blocks (by omega) ((List.length_append).trans hk')] at hwhole
    exact hne (List.append_inj hwhole (hsame (congrArg List.getLast? heq))).1

end Collisions

end LibRasta.Util
