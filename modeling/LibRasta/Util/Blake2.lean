/-
Module: LibRasta/Util/Blake2.lean
source: src/c/util/rastablake2.c
digest: The byte-wise BLAKE2b that holds back its last block gives the keyed digest of all its input, however the input is cut into pieces.
-/

import LibRasta.Util.Md4

set_option autoImplicit false
set_option relaxedAutoImplicit false

namespace LibRasta.Util

open LibRasta.Lib
open LibRasta.Factory (length_store)

section Specification

/-- The state after a block, where `t` bytes of input end with it. -/
def blake2bF (h : List UInt64) (block : Bytes) (t : ℕ) (last : Bool) : List UInt64 :=
  let v := h ++ blake2bIv
  let v := v.set 12 (v.getD 12 0 ^^^ UInt64.ofNat t)
  let v := v.set 13 (v.getD 13 0 ^^^ UInt64.ofNat (t / 2 ^ 64))
  let v := if last then v.set 14 (~~~(v.getD 14 0)) else v
  let m := (List.range 16).map fun i => leWordAt block 8 i
  let v := blake2bSigma.foldl (blake2bRound m) v
  (List.range 8).map fun i => h.getD i 0 ^^^ (v.getD i 0 ^^^ v.getD (i + 8) 0)

/-- The state a digest of `outlen` bytes starts with. -/
def blake2bParameters (outlen keylen : ℕ) : List UInt64 :=
  blake2bIv.set 0 (blake2bIv.getD 0 0 ^^^
    ((0x01010000 : UInt64) ^^^ (UInt64.ofNat keylen <<< 8) ^^^ UInt64.ofNat outlen))

/-- A key takes the first block of the input. -/
def blake2bInput (key data : Bytes) : Bytes :=
  if 0 < key.length then key ++ List.replicate (128 - key.length) 0 ++ data else data

/-- How many blocks are not the last one. -/
def innerBlocks (length : ℕ) : ℕ := (length - 1) / 128

/-- The state and the number of bytes after a block that is not the last one. -/
def blake2bAbsorb (s : List UInt64 × ℕ) (block : Bytes) : List UInt64 × ℕ :=
  (blake2bF s.1 block (s.2 + 128) false, s.2 + 128)

/-- The state after all blocks but the last one, and the number of bytes in them. -/
def blake2bInner (start : List UInt64) (input : Bytes) : List UInt64 × ℕ :=
  (blocks 128 (input.take (128 * innerBlocks input.length))).foldl blake2bAbsorb (start, 0)

/-- The keyed digest of the data. -/
def blake2bDigest (outlen : ℕ) (key data : Bytes) : Bytes :=
  let input := blake2bInput key data
  let last := input.drop (128 * innerBlocks input.length)
  let h := blake2bF (blake2bInner (blake2bParameters outlen key.length) input).1
    (last ++ List.replicate (128 - last.length) 0) input.length true
  (List.range outlen).map fun i =>
    (h.getD (i >>> 3) 0 >>> UInt64.ofNat (8 * (i &&& 7))).toUInt8

end Specification

section Absorption

variable {start : List UInt64} {input : Bytes} {ctx : Blake2bCtx} {t : ℕ}

/-- The two words of the counter hold the number. -/
def Counts (ctx : Blake2bCtx) (t : ℕ) : Prop :=
  ctx.t0 = UInt64.ofNat t ∧ ctx.t1 = UInt64.ofNat (t / 2 ^ 64)

theorem blake2bCompress_eq (h : Counts ctx t) (last : Bool) :
    blake2bCompress ctx last = { ctx with h := blake2bF ctx.h ctx.b t last } := by
  rw [blake2bCompress, blake2bF, h.1, h.2]

theorem blake2bCount_counts (h : Counts ctx t) (hc : ctx.c ≤ 128) :
    Counts (blake2bCount ctx) (t + ctx.c) := by
  obtain ⟨hlow, hhigh⟩ := h
  have hsum : ctx.t0 + UInt64.ofNat ctx.c = UInt64.ofNat (t + ctx.c) := by
    rw [hlow, UInt64.ofNat_add]
  refine ⟨hsum, ?_⟩
  show (if ctx.t0 + UInt64.ofNat ctx.c < UInt64.ofNat ctx.c then ctx.t1 + 1 else ctx.t1) = _
  have hone : (1 : UInt64).toNat = 1 := rfl
  rw [hsum, hhigh]
  apply UInt64.toNat_inj.mp
  by_cases hcarry : UInt64.ofNat (t + ctx.c) < UInt64.ofNat ctx.c
  · have hless := UInt64.lt_iff_toNat_lt.mp hcarry
    rw [UInt64.toNat_ofNat', UInt64.toNat_ofNat'] at hless
    rw [if_pos hcarry, UInt64.toNat_add, hone, UInt64.toNat_ofNat', UInt64.toNat_ofNat']
    omega
  · have hless : ¬ (UInt64.ofNat (t + ctx.c)).toNat < (UInt64.ofNat ctx.c).toNat :=
      fun h => hcarry (UInt64.lt_iff_toNat_lt.mpr h)
    rw [UInt64.toNat_ofNat', UInt64.toNat_ofNat'] at hless
    rw [if_neg hcarry, UInt64.toNat_ofNat', UInt64.toNat_ofNat']
    omega

/-- What a context holds once it was given the input: the state after all blocks but the last one,
which may be whole and stays in the buffer. -/
structure Blake2bAbsorbed (start : List UInt64) (input : Bytes) (ctx : Blake2bCtx) : Prop where
  state : (ctx.h, 128 * innerBlocks input.length) = blake2bInner start input
  counts : Counts ctx (128 * innerBlocks input.length)
  c : 128 * innerBlocks input.length + ctx.c = input.length
  room : ctx.b.length = 128
  buffer : ctx.b.take ctx.c = input.drop (128 * innerBlocks input.length)

theorem Blake2bAbsorbed.le (h : Blake2bAbsorbed start input ctx) : ctx.c ≤ 128 := by
  have hc := h.c
  unfold innerBlocks at hc
  omega

/-- The block held back is whole, and another byte shows that it is not the last one. -/
theorem Blake2bAbsorbed.compress (h : Blake2bAbsorbed start input ctx) (hfull : ctx.c = 128)
    (byte : UInt8) :
    innerBlocks (input ++ [byte]).length = innerBlocks input.length + 1 ∧
      ((blake2bCompress (blake2bCount ctx) false).h, 128 * (innerBlocks input.length + 1)) =
        blake2bInner start (input ++ [byte]) := by
  have hc := h.c
  have hinner : innerBlocks (input ++ [byte]).length = innerBlocks input.length + 1 := by
    rw [List.length_append, List.length_singleton]
    unfold innerBlocks at hc ⊢
    omega
  refine ⟨hinner, ?_⟩
  have hcounts := blake2bCount_counts h.counts h.le
  have hblock : ctx.b = input.drop (128 * innerBlocks input.length) := by
    rw [← h.buffer, hfull, ← h.room, List.take_length]
  have hfront : (input.take (128 * innerBlocks input.length)).length =
      innerBlocks input.length * 128 := by
    rw [List.length_take]
    omega
  have hlast : (input.drop (128 * innerBlocks input.length)).length = 128 := by
    rw [← hblock, h.room]
  have hjoin := (@blocks_append _ 128 _ (input.drop (128 * innerBlocks input.length)) (by omega) _
    hfront).1
  rw [List.take_append_drop, blocks_single (by omega) hlast] at hjoin
  have htake : (input ++ [byte]).take (128 * (innerBlocks input.length + 1)) = input := by
    rw [show 128 * (innerBlocks input.length + 1) = input.length by omega, List.take_left]
  rw [blake2bInner, hinner, htake, hjoin, List.foldl_append, ← blake2bInner, ← h.state,
    blake2bCompress_eq hcounts, hfull, ← hblock]
  rfl

theorem Blake2bAbsorbed.byte (h : Blake2bAbsorbed start input ctx) (byte : UInt8) :
    Blake2bAbsorbed start (input ++ [byte]) (blake2bByte ctx byte) := by
  have hc := h.c
  have hroom := h.room
  have hlength : (input ++ [byte]).length = input.length + 1 := List.length_append
  unfold blake2bByte
  by_cases hfull : ctx.c = 128
  · obtain ⟨hinner, hstate⟩ := h.compress hfull byte
    have hcounts := blake2bCount_counts h.counts h.le
    rw [if_pos hfull]
    constructor
    · rw [hinner]
      exact hstate
    · rw [hfull, ← Nat.mul_succ] at hcounts
      rw [hinner]
      exact hcounts
    · rw [hinner, hlength]
      show 128 * (innerBlocks input.length + 1) + 1 = input.length + 1
      omega
    · exact (length_store _ _ _).trans hroom
    · have htake := @take_store ctx.b [byte] 0 (by rw [hroom]; simp)
      rw [hinner, show 128 * (innerBlocks input.length + 1) = input.length by omega, List.drop_left]
      exact htake
  · have hle := h.le
    have hinner : innerBlocks (input ++ [byte]).length = innerBlocks input.length := by
      rw [hlength]
      unfold innerBlocks at hc ⊢
      omega
    rw [if_neg hfull]
    constructor
    · rw [hinner, blake2bInner, hinner, List.take_append_of_le_length (by omega)]
      exact h.state
    · rw [hinner]
      exact h.counts
    · rw [hinner, hlength]
      show 128 * innerBlocks input.length + (ctx.c + 1) = input.length + 1
      omega
    · exact (length_store _ _ _).trans hroom
    · have htake := @take_store ctx.b [byte] ctx.c (by rw [hroom, List.length_singleton]; omega)
      rw [hinner, List.drop_append_of_le_length (by omega), ← h.buffer]
      exact htake

theorem Blake2bAbsorbed.update (h : Blake2bAbsorbed start input ctx) (data : Bytes) :
    Blake2bAbsorbed start (input ++ data) (rastaBlake2bUpdate ctx data) := by
  induction data generalizing input ctx with
  | nil =>
    rw [List.append_nil]
    exact h
  | cons byte rest ih =>
    have hrest := ih (h.byte byte)
    rw [List.append_assoc, List.singleton_append] at hrest
    exact hrest

end Absorption

section Finish

variable {start : List UInt64} {input : Bytes} {ctx : Blake2bCtx}

theorem Blake2bAbsorbed.final (h : Blake2bAbsorbed start input ctx) :
    rastaBlake2bFinal ctx =
      let last := input.drop (128 * innerBlocks input.length)
      let state := blake2bF (blake2bInner start input).1
        (last ++ List.replicate (128 - last.length) 0) input.length true
      (List.range ctx.outlen).map fun i =>
        (state.getD (i >>> 3) 0 >>> UInt64.ofNat (8 * (i &&& 7))).toUInt8 := by
  have hle := h.le
  have hroom := h.room
  have hcounts := blake2bCount_counts h.counts hle
  have hlength : (input.drop (128 * innerBlocks input.length)).length = ctx.c := by
    rw [← h.buffer, List.length_take]
    omega
  have hfilled := @store_full ctx.b (List.replicate (128 - ctx.c) 0) ctx.c (by
    rw [List.length_replicate]
    omega)
  rw [h.c] at hcounts
  unfold rastaBlake2bFinal
  dsimp only
  rw [hlength, ← h.state, ← h.buffer, ← hfilled]
  have hfinal : Counts
      { blake2bCount ctx with
        b := store (blake2bCount ctx).b (blake2bCount ctx).c
          (List.replicate (128 - (blake2bCount ctx).c) 0) } input.length := hcounts
  rw [blake2bCompress_eq hfinal]
  rfl

/-- The context before the key and the data. -/
def blake2bBlank (outlen keylen : ℕ) : Blake2bCtx where
  b := List.replicate 128 0
  h := blake2bParameters outlen keylen
  t0 := 0
  t1 := 0
  c := 0
  outlen := outlen

theorem blake2bBlank_absorbed (outlen keylen : ℕ) :
    Blake2bAbsorbed (blake2bParameters outlen keylen) [] (blake2bBlank outlen keylen) where
  state := rfl
  counts := ⟨rfl, rfl⟩
  c := rfl
  room := List.length_replicate
  buffer := rfl

/-- Bytes that fit into the buffer are stored one behind the other. -/
theorem rastaBlake2bUpdate_fits (data : Bytes) (hroom : ctx.b.length = 128)
    (hfits : ctx.c + data.length ≤ 128) :
    rastaBlake2bUpdate ctx data =
      { ctx with b := store ctx.b ctx.c data, c := ctx.c + data.length } := by
  induction data generalizing ctx with
  | nil =>
    have hnothing : store ctx.b ctx.c [] = ctx.b := by simp [store]
    rw [hnothing]
    rfl
  | cons byte rest ih =>
    rw [List.length_cons] at hfits
    have hbyte : blake2bByte ctx byte =
        { ctx with b := store ctx.b ctx.c [byte], c := ctx.c + 1 } := by
      unfold blake2bByte
      rw [if_neg (by omega)]
    have hrest := @ih { ctx with b := store ctx.b ctx.c [byte], c := ctx.c + 1 }
      ((length_store _ _ _).trans hroom) (by dsimp only; omega)
    have hstore := @store_store ctx.b [byte] ctx.c rest (by
      rw [List.length_singleton, hroom]
      omega)
    rw [rastaBlake2bUpdate, List.foldl_cons, hbyte]
    refine hrest.trans ?_
    rw [List.length_singleton] at hstore
    rw [hstore, List.length_cons, Nat.add_assoc, Nat.add_comm 1]
    rfl

/-- A key is taken as a block of its own. -/
theorem blake2bStart_absorbed (outlen : ℕ) {key : Bytes} (hkey : key.length ≤ 64) :
    Blake2bAbsorbed (blake2bParameters outlen key.length) (blake2bInput key [])
      (blake2bStart outlen key) := by
  have hstart : blake2bStart outlen key =
      if 0 < key.length then
        { rastaBlake2bUpdate (blake2bBlank outlen key.length) key with c := 128 }
      else blake2bBlank outlen key.length := rfl
  rw [hstart, blake2bInput]
  by_cases hsome : 0 < key.length
  · have hroom : (blake2bBlank outlen key.length).b.length = 128 := List.length_replicate
    have hzero : (blake2bBlank outlen key.length).c + key.length ≤ 128 := by
      show 0 + key.length ≤ 128
      omega
    have hinner : innerBlocks 128 = 0 := rfl
    have hlength : (key ++ List.replicate (128 - key.length) 0 ++ ([] : Bytes)).length = 128 := by
      rw [List.append_nil, List.length_append, List.length_replicate]
      omega
    have hbuffer : store (List.replicate 128 (0 : UInt8)) 0 key =
        key ++ List.replicate (128 - key.length) 0 := by
      rw [store_of_fits (by rw [List.length_replicate]; omega), List.take_zero, List.nil_append,
        Nat.zero_add, List.drop_replicate]
    rw [if_pos hsome, if_pos hsome, rastaBlake2bUpdate_fits key hroom hzero]
    constructor
    · rw [blake2bInner, hlength, hinner, Nat.mul_zero, List.take_zero]
      rfl
    · rw [hlength]
      exact ⟨rfl, rfl⟩
    · rw [hlength]
      rfl
    · exact (length_store _ _ _).trans hroom
    · rw [hlength]
      show (store (List.replicate 128 0) 0 key).take 128 = _
      rw [hbuffer, List.append_nil]
      apply List.take_of_length_le
      rw [List.length_append, List.length_replicate]
      omega
  · rw [if_neg hsome, if_neg hsome]
    exact blake2bBlank_absorbed outlen key.length

theorem foldl_rastaBlake2bUpdate (ctx : Blake2bCtx) (pieces : List Bytes) :
    pieces.foldl rastaBlake2bUpdate ctx = rastaBlake2bUpdate ctx pieces.flatten := by
  induction pieces generalizing ctx with
  | nil => rfl
  | cons piece rest ih =>
    rw [List.foldl_cons, ih, List.flatten_cons]
    exact (List.foldl_append ..).symm

theorem blake2bInput_append (key data : Bytes) :
    blake2bInput key [] ++ data = blake2bInput key data := by
  unfold blake2bInput
  by_cases hsome : 0 < key.length
  · rw [if_pos hsome, if_pos hsome, List.append_nil]
  · rw [if_neg hsome, if_neg hsome, List.nil_append]

theorem rastaBlake2b_eq (outlen : ℕ) {key : Bytes} (hkey : key.length ≤ 64) (data : Bytes) :
    rastaBlake2bFinal (rastaBlake2bUpdate (blake2bStart outlen key) data) =
      blake2bDigest outlen key data := by
  have habsorbed := (blake2bStart_absorbed outlen hkey).update data
  rw [habsorbed.final, outlen_rastaBlake2bUpdate, outlen_blake2bStart, blake2bInput_append]
  rfl

/-- However the data is cut into calls of `rasta_blake2b_update`, the result is the keyed digest of
all of it. -/
theorem blake2b_streaming (outlen : ℕ) {key : Bytes} (hkey : key.length ≤ 64)
    (pieces : List Bytes) :
    rastaBlake2bFinal (pieces.foldl rastaBlake2bUpdate (blake2bStart outlen key)) =
      blake2bDigest outlen key pieces.flatten := by
  rw [foldl_rastaBlake2bUpdate]
  exact rastaBlake2b_eq outlen hkey pieces.flatten

theorem blake2b_streaming_pieces :
    rastaBlake2bFinal ([[0x61], [], List.replicate 200 0x62].foldl rastaBlake2bUpdate
        (blake2bStart 16 [1, 2, 3, 4])) =
      blake2bDigest 16 [1, 2, 3, 4] [[0x61], [], List.replicate 200 0x62].flatten :=
  blake2b_streaming 16 (by decide) _

end Finish

end LibRasta.Util
