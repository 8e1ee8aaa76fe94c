/-
Module: LibRasta/Util/Digests.lean
source: src/c/util/rastamd4.c, src/c/util/rastablake2.c, src/c/util/rastasiphash24.c
digest: The digests behind the safety code: MD4, keyed BLAKE2b and the two variants of SipHash, over the bytes they were given.
-/

import LibRasta.Util.Packet

set_option autoImplicit false
set_option relaxedAutoImplicit false

namespace LibRasta.Util

open LibRasta.Lib (ofLe32 le32)

/-- The little-endian word of up to eight bytes, as `U8TO64_LE`, `U8TO32_LE`, `B2B_GET64` and
`leLongToHost` put it together. -/
def leWord (bytes : Bytes) : UInt64 :=
  bytes.zipIdx.foldl (fun word byte => word ||| (byte.1.toUInt64 <<< UInt64.ofNat (8 * byte.2))) 0

/-- The `i`-th word of `size` bytes in an array. -/
def leWordAt (bytes : Bytes) (size i : ℕ) : UInt64 := leWord ((bytes.drop (size * i)).take size)

/-- The eight bytes `U64TO8_LE` stores. -/
def u64To8Le (word : UInt64) : Bytes :=
  hostLongToLe word.toUInt32 ++ hostLongToLe (word >>> 32).toUInt32

section Md4

/-- `MD4_CTX_RASTA`, less the block that is only used on other processors. -/
structure Md4Ctx where
  lo : UInt32
  hi : UInt32
  a : UInt32
  b : UInt32
  c : UInt32
  d : UInt32
  buffer : Bytes
deriving DecidableEq, Repr

/-- `md4InitContext`. The buffer is written before it is read. -/
def md4InitContext (a b c d : UInt32) : Md4Ctx where
  lo := 0
  hi := 0
  a := a
  b := b
  c := c
  d := d
  buffer := List.replicate 64 0

/-- `F`. -/
def md4F (x y z : UInt32) : UInt32 := z ^^^ (x &&& (y ^^^ z))

/-- `G`. -/
def md4G (x y z : UInt32) : UInt32 := (x &&& (y ||| z)) ||| (y &&& z)

/-- `H`. -/
def md4H (x y z : UInt32) : UInt32 := x ^^^ y ^^^ z

/-- The four words of the MD4 state in the order of the next step's arguments. -/
structure Md4Words where
  a : UInt32
  b : UInt32
  c : UInt32
  d : UInt32
deriving DecidableEq, Repr

/-- `STEP(f, a, b, c, d, x, s)`; the next step of every round takes the words moved by one. -/
def md4Step (f : UInt32 → UInt32 → UInt32 → UInt32) (words : Md4Words) (x s : UInt32) :
    Md4Words :=
  let sum := words.a + (f words.b words.c words.d + x)
  { a := words.d, b := (sum <<< s) ||| (sum >>> (32 - s)), c := words.b, d := words.c }

/-- A round: the words of the block in the given order, with the shifts repeated. -/
def md4Round (f : UInt32 → UInt32 → UInt32 → UInt32) (constant : UInt32) (order : List ℕ)
    (shifts : List UInt32) (block : Bytes) (words : Md4Words) : Md4Words :=
  (order.zip (List.replicate 4 shifts).flatten).foldl
    (fun words step => md4Step f words ((leWordAt block 4 step.1).toUInt32 + constant) step.2) words

/-- One pass of the loop of `body` over a block of 64 bytes. -/
def md4Block (ctx : Md4Ctx) (block : Bytes) : Md4Ctx :=
  let words := md4Round md4F 0 [0, 1, 2, 3, 4, 5, 6, 7, 8, 9, 10, 11, 12, 13, 14, 15]
    [3, 7, 11, 19] block { a := ctx.a, b := ctx.b, c := ctx.c, d := ctx.d }
  let words := md4Round md4G 0x5a827999 [0, 4, 8, 12, 1, 5, 9, 13, 2, 6, 10, 14, 3, 7, 11, 15]
    [3, 5, 9, 13] block words
  let words := md4Round md4H 0x6ed9eba1 [0, 8, 4, 12, 2, 10, 6, 14, 1, 9, 5, 13, 3, 11, 7, 15]
    [3, 9, 11, 15] block words
  { ctx with
    a := words.a + ctx.a
    b := words.b + ctx.b
    c := words.c + ctx.c
    d := words.d + ctx.d }

/-- `body` on whole blocks. -/
def md4Body (ctx : Md4Ctx) (data : Bytes) : Md4Ctx :=
  (List.range (data.length / 64)).foldl
    (fun ctx i => md4Block ctx ((data.drop (64 * i)).take 64)) ctx

/-- The end of `MD4_Update_Rasta`, once the buffer holds no incomplete block. -/
def md4UpdateBlocks (ctx : Md4Ctx) (data : Bytes) : Md4Ctx :=
  let whole := data.length / 64 * 64
  let ctx := if 64 ≤ data.length then md4Body ctx (data.take whole) else ctx
  { ctx with buffer := store ctx.buffer 0 (data.drop whole) }

/-- `MD4_Update_Rasta`. -/
def md4UpdateRasta (ctx : Md4Ctx) (data : Bytes) : Md4Ctx :=
  let savedLo := ctx.lo
  let lo := UInt32.ofNat ((savedLo.toNat + data.length) &&& 0x1fffffff)
  let hi := (if lo < savedLo then ctx.hi + 1 else ctx.hi) + UInt32.ofNat (data.length >>> 29)
  let ctx := { ctx with lo := lo, hi := hi }
  let used := savedLo.toNat &&& 0x3f
  if used = 0 then md4UpdateBlocks ctx data
  else
    let available := 64 - used
    if data.length < available then { ctx with buffer := store ctx.buffer used data }
    else
      let buffer := store ctx.buffer used (data.take available)
      md4UpdateBlocks (md4Body { ctx with buffer := buffer } buffer) (data.drop available)

/-- `MD4_Final_Rasta`: the 16 bytes it stores in its result. -/
def md4FinalRasta (ctx : Md4Ctx) : Bytes :=
  let used := ctx.lo.toNat &&& 0x3f
  let ctx := { ctx with buffer := store ctx.buffer used [0x80] }
  let used := used + 1
  let full := 64 - used < 8
  let ctx :=
    if full then
      let buffer := store ctx.buffer used (List.replicate (64 - used) 0)
      md4Body { ctx with buffer := buffer } buffer
    else ctx
  let used := if full then 0 else used
  let buffer := store ctx.buffer used (List.replicate (64 - used - 8) 0)
  let buffer := store buffer 56 (hostLongToLe (ctx.lo <<< 3))
  let buffer := store buffer 60 (hostLongToLe ctx.hi)
  let ctx := md4Body ctx buffer
  hostLongToLe ctx.a ++ hostLongToLe ctx.b ++ hostLongToLe ctx.c ++ hostLongToLe ctx.d

theorem length_md4FinalRasta (ctx : Md4Ctx) : (md4FinalRasta ctx).length = 16 := rfl

end Md4

section Blake2

/-- `rasta_blake2b_ctx`. -/
structure Blake2bCtx where
  b : Bytes
  h : List UInt64
  t0 : UInt64
  t1 : UInt64
  c : ℕ
  outlen : ℕ
deriving DecidableEq, Repr

/-- `blake2b_iv`. -/
def blake2bIv : List UInt64 :=
  [0x6A09E667F3BCC908, 0xBB67AE8584CAA73B, 0x3C6EF372FE94F82B, 0xA54FF53A5F1D36F1,
   0x510E527FADE682D1, 0x9B05688C2B3E6C1F, 0x1F83D9ABFB41BD6B, 0x5BE0CD19137E2179]

/-- `sigma`; its last two rows are the first two again. -/
def blake2bSigma : List (List ℕ) :=
  [[0, 1, 2, 3, 4, 5, 6, 7, 8, 9, 10, 11, 12, 13, 14, 15],
   [14, 10, 4, 8, 9, 15, 13, 6, 1, 12, 0, 2, 11, 7, 5, 3],
   [11, 8, 12, 0, 5, 2, 15, 13, 10, 14, 3, 6, 7, 1, 9, 4],
   [7, 9, 3, 1, 13, 12, 11, 14, 2, 6, 5, 10, 4, 0, 15, 8],
   [9, 0, 5, 7, 2, 4, 10, 15, 14, 1, 11, 12, 6, 8, 3, 13],
   [2, 12, 6, 10, 0, 11, 8, 3, 4, 13, 7, 5, 15, 14, 1, 9],
   [12, 5, 1, 15, 14, 13, 4, 10, 0, 7, 6, 3, 9, 2, 8, 11],
   [13, 11, 7, 14, 12, 1, 3, 9, 5, 0, 15, 4, 8, 6, 2, 10],
   [6, 15, 14, 9, 11, 3, 0, 8, 12, 2, 13, 7, 1, 4, 10, 5],
   [10, 2, 8, 4, 7, 6, 1, 5, 15, 11, 9, 14, 3, 12, 13, 0],
   [0, 1, 2, 3, 4, 5, 6, 7, 8, 9, 10, 11, 12, 13, 14, 15],
   [14, 10, 4, 8, 9, 15, 13, 6, 1, 12, 0, 2, 11, 7, 5, 3]]

/-- `ROTR64`. -/
def rotr64 (x y : UInt64) : UInt64 := (x >>> y) ^^^ (x <<< (64 - y))

/-- `B2B_G` on the work variables. -/
def b2bG (v : List UInt64) (a b c d : ℕ) (x y : UInt64) : List UInt64 :=
  let va := v.getD a 0 + v.getD b 0 + x
  let vd := rotr64 (v.getD d 0 ^^^ va) 32
  let vc := v.getD c 0 + vd
  let vb := rotr64 (v.getD b 0 ^^^ vc) 24
  let va := va + vb + y
  let vd := rotr64 (vd ^^^ va) 16
  let vc := vc + vd
  let vb := rotr64 (vb ^^^ vc) 63
  (((v.set a va).set b vb).set c vc).set d vd

/-- One of the twelve rounds. -/
def blake2bRound (m v : List UInt64) (sigma : List ℕ) : List UInt64 :=
  let word := fun i => m.getD (sigma.getD i 0) 0
  let v := b2bG v 0 4 8 12 (word 0) (word 1)
  let v := b2bG v 1 5 9 13 (word 2) (word 3)
  let v := b2bG v 2 6 10 14 (word 4) (word 5)
  let v := b2bG v 3 7 11 15 (word 6) (word 7)
  let v := b2bG v 0 5 10 15 (word 8) (word 9)
  let v := b2bG v 1 6 11 12 (word 10) (word 11)
  let v := b2bG v 2 7 8 13 (word 12) (word 13)
  b2bG v 3 4 9 14 (word 14) (word 15)

/-- `blake2b_compress`. -/
def blake2bCompress (ctx : Blake2bCtx) (last : Bool) : Blake2bCtx :=
  let v := ctx.h ++ blake2bIv
  let v := v.set 12 (v.getD 12 0 ^^^ ctx.t0)
  let v := v.set 13 (v.getD 13 0 ^^^ ctx.t1)
  let v := if last then v.set 14 (~~~(v.getD 14 0)) else v
  let m := (List.range 16).map fun i => leWordAt ctx.b 8 i
  let v := blake2bSigma.foldl (blake2bRound m) v
  { ctx with h := (List.range 8).map fun i => ctx.h.getD i 0 ^^^ (v.getD i 0 ^^^ v.getD (i + 8) 0) }

/-- The offset counter moves on by what the buffer holds. -/
def blake2bCount (ctx : Blake2bCtx) : Blake2bCtx :=
  let t0 := ctx.t0 + UInt64.ofNat ctx.c
  { ctx with t0 := t0, t1 := if t0 < UInt64.ofNat ctx.c then ctx.t1 + 1 else ctx.t1 }

/-- One byte of `rasta_blake2b_update`. -/
def blake2bByte (ctx : Blake2bCtx) (byte : UInt8) : Blake2bCtx :=
  let ctx :=
    if ctx.c = 128 then { blake2bCompress (blake2bCount ctx) false with c := 0 } else ctx
  { ctx with b := store ctx.b ctx.c [byte], c := ctx.c + 1 }

/-- `rasta_blake2b_update`. -/
def rastaBlake2bUpdate (ctx : Blake2bCtx) (data : Bytes) : Blake2bCtx := data.foldl blake2bByte ctx

/-- The context of `rasta_blake2b_init` for legal parameters. -/
def blake2bStart (outlen : ℕ) (key : Bytes) : Blake2bCtx :=
  let ctx : Blake2bCtx :=
    { b := List.replicate 128 0
      h := blake2bIv.set 0 (blake2bIv.getD 0 0 ^^^
        ((0x01010000 : UInt64) ^^^ (UInt64.ofNat key.length <<< 8) ^^^ UInt64.ofNat outlen))
      t0 := 0
      t1 := 0
      c := 0
      outlen := outlen }
  if 0 < key.length then { rastaBlake2bUpdate ctx key with c := 128 } else ctx

/-- `rasta_blake2b_final`: the bytes it stores in its result. -/
def rastaBlake2bFinal (ctx : Blake2bCtx) : Bytes :=
  let counted := blake2bCount ctx
  let filled := { counted with b := store counted.b counted.c (List.replicate (128 - counted.c) 0) }
  let ctx := blake2bCompress filled true
  (List.range ctx.outlen).map fun i =>
    (ctx.h.getD (i >>> 3) 0 >>> UInt64.ofNat (8 * (i &&& 7))).toUInt8

theorem length_rastaBlake2bFinal (ctx : Blake2bCtx) :
    (rastaBlake2bFinal ctx).length = ctx.outlen := by
  unfold rastaBlake2bFinal
  rw [List.length_map, List.length_range]
  rfl

theorem outlen_blake2bByte (ctx : Blake2bCtx) (byte : UInt8) :
    (blake2bByte ctx byte).outlen = ctx.outlen := by
  unfold blake2bByte
  by_cases hfull : ctx.c = 128
  · rw [if_pos hfull]
    rfl
  · rw [if_neg hfull]

theorem outlen_rastaBlake2bUpdate (ctx : Blake2bCtx) (data : Bytes) :
    (rastaBlake2bUpdate ctx data).outlen = ctx.outlen := by
  induction data generalizing ctx with
  | nil => rfl
  | cons byte rest ih => exact (ih (blake2bByte ctx byte)).trans (outlen_blake2bByte ctx byte)

theorem outlen_blake2bStart (outlen : ℕ) (key : Bytes) :
    (blake2bStart outlen key).outlen = outlen := by
  unfold blake2bStart
  dsimp only
  by_cases hkey : 0 < key.length
  · rw [if_pos hkey]
    exact outlen_rastaBlake2bUpdate _ _
  · rw [if_neg hkey]

end Blake2

section Siphash

/-- `ROTL` on a 64 bit word. -/
def rotl64 (x b : UInt64) : UInt64 := (x <<< b) ||| (x >>> (64 - b))

/-- The four words of a SipHash state. -/
structure SipWords where
  v0 : UInt64
  v1 : UInt64
  v2 : UInt64
  v3 : UInt64
deriving DecidableEq, Repr

/-- `SIPROUND`. -/
def sipRound (v : SipWords) : SipWords :=
  let v0 := v.v0 + v.v1
  let v1 := rotl64 v.v1 13 ^^^ v0
  let v0 := rotl64 v0 32
  let v2 := v.v2 + v.v3
  let v3 := rotl64 v.v3 16 ^^^ v2
  let v0 := v0 + v3
  let v3 := rotl64 v3 21 ^^^ v0
  let v2 := v2 + v1
  let v1 := rotl64 v1 17 ^^^ v2
  { v0 := v0, v1 := v1, v2 := rotl64 v2 32, v3 := v3 }

/-- A word of the message: in, two rounds, and out again. -/
def sipAbsorb (v : SipWords) (m : UInt64) : SipWords :=
  let v := sipRound (sipRound { v with v3 := v.v3 ^^^ m })
  { v with v0 := v.v0 ^^^ m }

/-- The digest `siphash` stores, from the key words and the message. -/
def siphashDigest (k0 k1 : UInt64) (data : Bytes) (outlen : ℕ) : Bytes :=
  let start : SipWords :=
    { v0 := 0x736f6d6570736575 ^^^ k0
      v1 := (0x646f72616e646f6d ^^^ k1) ^^^ (if outlen = 16 then 0xee else 0)
      v2 := 0x6c7967656e657261 ^^^ k0
      v3 := 0x7465646279746573 ^^^ k1 }
  let words := (List.range (data.length / 8)).map (leWordAt data 8)
  let b := (UInt64.ofNat data.length <<< 56) ||| leWord (data.drop (data.length / 8 * 8))
  let v := sipAbsorb (words.foldl sipAbsorb start) b
  let v := { v with v2 := v.v2 ^^^ (if outlen = 16 then 0xee else 0xff) }
  let v := sipRound (sipRound (sipRound (sipRound v)))
  let first := u64To8Le (v.v0 ^^^ v.v1 ^^^ v.v2 ^^^ v.v3)
  if outlen = 8 then first
  else
    let v := { v with v1 := v.v1 ^^^ 0xdd }
    let v := sipRound (sipRound (sipRound (sipRound v)))
    first ++ u64To8Le (v.v0 ^^^ v.v1 ^^^ v.v2 ^^^ v.v3)

/-- `ROTL` on a 32 bit word. The shift to the right has 64 bits, so nothing comes back in. -/
def rotlHalf (x : UInt32) (b : UInt32) : UInt32 :=
  ((x <<< b).toUInt64 ||| (x.toUInt64 >>> (64 - b.toUInt64))).toUInt32

/-- The four words of a state of the half width variant. -/
structure HalfSipWords where
  v0 : UInt32
  v1 : UInt32
  v2 : UInt32
  v3 : UInt32
deriving DecidableEq, Repr

/-- `SIPROUND_H`. -/
def sipRoundH (v : HalfSipWords) : HalfSipWords :=
  let v0 := v.v0 + v.v1
  let v1 := rotlHalf v.v1 5 ^^^ v0
  let v0 := rotlHalf v0 16
  let v2 := v.v2 + v.v3
  let v3 := rotlHalf v.v3 8 ^^^ v2
  let v0 := v0 + v3
  let v3 := rotlHalf v3 7 ^^^ v0
  let v2 := v2 + v1
  let v1 := rotlHalf v1 13 ^^^ v2
  { v0 := v0, v1 := v1, v2 := rotlHalf v2 16, v3 := v3 }

/-- A word of the message: in, two rounds, and out again. -/
def halfSipAbsorb (v : HalfSipWords) (m : UInt32) : HalfSipWords :=
  let v := sipRoundH (sipRoundH { v with v3 := v.v3 ^^^ m })
  { v with v0 := v.v0 ^^^ m }

/-- The digest `halfsiphash` stores, from the key words and the message. -/
def halfsiphashDigest (k0 k1 : UInt32) (data : Bytes) (outlen : ℕ) : Bytes :=
  let start : HalfSipWords :=
    { v0 := 0 ^^^ k0
      v1 := (0 ^^^ k1) ^^^ (if outlen = 8 then 0xee else 0)
      v2 := 0x6c796765 ^^^ k0
      v3 := 0x74656462 ^^^ k1 }
  let words := (List.range (data.length / 4)).map fun i => (leWordAt data 4 i).toUInt32
  let b := (UInt32.ofNat data.length <<< 24) |||
    (leWord (data.drop (data.length / 4 * 4))).toUInt32
  let v := halfSipAbsorb (words.foldl halfSipAbsorb start) b
  let v := { v with v2 := v.v2 ^^^ (if outlen = 8 then 0xee else 0xff) }
  let v := sipRoundH (sipRoundH (sipRoundH (sipRoundH v)))
  let first := hostLongToLe (v.v1 ^^^ v.v3)
  if outlen = 4 then first
  else
    let v := { v with v1 := v.v1 ^^^ 0xdd }
    let v := sipRoundH (sipRoundH (sipRoundH (sipRoundH v)))
    first ++ hostLongToLe (v.v1 ^^^ v.v3)

end Siphash

end LibRasta.Util
