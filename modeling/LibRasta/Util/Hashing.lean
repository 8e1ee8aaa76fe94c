/-
Module: LibRasta/Util/Hashing.lean
source: src/c/util/rastahashing.c, src/c/util/rastamd4.c, src/c/util/rastablake2.c, src/c/util/rastasiphash24.c
digest: The safety code computation as a program over the memory it reads and writes, and when it stays inside the buffers it was given.
-/

import LibRasta.Lib.Confinement
import LibRasta.Util.Digests

set_option autoImplicit false
set_option relaxedAutoImplicit false

namespace LibRasta.Util

open LibRasta.Lib

/-- The memory areas of a safety code computation: the bytes from `key.bytes` on, from
`data.bytes` on, the local array `MD4code` and the caller's digest buffer. -/
inductive Buffer where
  | key
  | data
  | md4code
  | hash
deriving DecidableEq, Repr

/-- A byte, by the area and its index there. An index past the end of an array is the memory
behind it. -/
abbrev Cell := Buffer × ℕ

/-- What the functions of this module are: programs over these bytes. -/
abbrev Hashing := Prog Cell UInt8

section Programs

/-- The indices from `offset` on. -/
def cells (buffer : Buffer) (offset n : ℕ) : List Cell :=
  (List.range n).map fun i => (buffer, offset + i)

/-- Reading `n` bytes from `offset` on. -/
def load (buffer : Buffer) (offset n : ℕ) : Hashing Bytes := Prog.readAll (cells buffer offset n)

/-- Writing bytes from `offset` on. -/
def save (buffer : Buffer) (offset : ℕ) (bytes : Bytes) : Hashing Unit :=
  Prog.writeAll ((cells buffer offset bytes.length).zip bytes)

/-- The `size_t` a digest function makes of a length of type `unsigned int` that is passed
to it as an `int`. -/
def sizeOfInt (length : ℕ) : ℕ := if length < 2 ^ 31 then length else 2 ^ 64 - 2 ^ 32 + length

/-- `rasta_get_md4_ctx_from_key`. -/
def rastaGetMd4CtxFromKey : Hashing Md4Ctx := do
  let a ← load .key 0 4
  let b ← load .key 4 4
  let c ← load .key 8 4
  let d ← load .key 12 4
  pure (md4InitContext (leWord a).toUInt32 (leWord b).toUInt32 (leWord c).toUInt32
    (leWord d).toUInt32)

/-- The length of the array `MD4code`. -/
def md4codeLen (type : RastaChecksumType) : ℕ := if type = .b16 then 16 else 8

/-- The `switch` of `generateMD4WithVector`. -/
def storeMd4 : RastaChecksumType → Hashing Unit
  | .none => save .hash 0 (List.replicate 8 0)
  | .b8 => load .md4code 0 8 >>= save .hash 0
  | .b16 => load .md4code 0 16 >>= save .hash 0

/-- `generateMD4WithVector`. -/
def generateMd4WithVector (length : ℕ) (type : RastaChecksumType) (context : Md4Ctx) :
    Hashing Unit := do
  let data ← load .data 0 (sizeOfInt length)
  save .md4code 0 (md4FinalRasta (md4UpdateRasta context data))
  storeMd4 type

/-- `rasta_blake2b_init`; no context stands for illegal parameters. -/
def rastaBlake2bInit (outlen keylen : ℕ) : Hashing (Option Blake2bCtx) :=
  if outlen = 0 ∨ 64 < outlen ∨ 64 < keylen then pure none
  else do
    let key ← load .key 0 keylen
    pure (some (blake2bStart outlen key))

/-- `generateBlake2`. Without a hash it sets no byte: the arguments of its `rmemset` are
exchanged. -/
def generateBlake2 (length keyLength : ℕ) (hashType : RastaChecksumType) : Hashing Unit :=
  let hashLen := hashType.toNat * 8
  if hashLen = 0 then pure ()
  else do
    let init ← rastaBlake2bInit hashLen (sizeOfInt keyLength)
    match init with
    | none => pure ()
    | some ctx => do
      let data ← load .data 0 (sizeOfInt length)
      save .hash 0 (rastaBlake2bFinal (rastaBlake2bUpdate ctx data))

/-- `siphash`. -/
def siphash (inlen outlen : ℕ) : Hashing Unit := do
  let k0 ← load .key 0 8
  let k1 ← load .key 8 8
  let input ← load .data 0 inlen
  save .hash 0 (siphashDigest (leWord k0) (leWord k1) input outlen)

/-- `halfsiphash`. -/
def halfsiphash (inlen outlen : ℕ) : Hashing Unit := do
  let k0 ← load .key 0 4
  let k1 ← load .key 4 4
  let input ← load .data 0 inlen
  save .hash 0 (halfsiphashDigest (leWord k0).toUInt32 (leWord k1).toUInt32 input outlen)

/-- `generateSiphash24`. -/
def generateSiphash24 (length : ℕ) (hashType : RastaChecksumType) : Hashing Unit :=
  match hashType with
  | .b8 => halfsiphash (sizeOfInt length) 8
  | .b16 => siphash (sizeOfInt length) 16
  | .none => save .hash 0 (List.replicate 8 0)

/-- `rasta_calculate_hash` on data of the given length. Nothing stands for `abort`. -/
def rastaCalculateHash (length : ℕ) (context : RastaHashingContext) : Option (Hashing Unit) :=
  if context.key.length = 0 then none
  else
    match context.algorithm with
    | .md4 => some (rastaGetMd4CtxFromKey >>= generateMd4WithVector length context.hashLength)
    | .blake2b => some (generateBlake2 length context.key.length context.hashLength)
    | .siphash24 => some (generateSiphash24 length context.hashLength)

/-- The safety code, as both callers take it from their digest buffer. -/
def safetyCodeProgram (length : ℕ) (context : RastaHashingContext) : Option (Hashing Bytes) :=
  (rastaCalculateHash length context).map fun calculate =>
    calculate >>= fun _ => load .hash 0 context.checksumLen

end Programs

section Memory

/-- The bytes a computation is given: the key and the data. -/
def given (context : RastaHashingContext) (data : Bytes) : Cell → Bool
  | (.key, i) => decide (i < context.key.length)
  | (.data, i) => decide (i < data.length)
  | (.md4code, _) => false
  | (.hash, _) => false

/-- The bytes a computation may write: `MD4code` and the 16 bytes of the digest buffer. -/
def writable (context : RastaHashingContext) : Cell → Bool
  | (.key, _) => false
  | (.data, _) => false
  | (.md4code, i) => decide (i < md4codeLen context.hashLength)
  | (.hash, i) => decide (i < 16)

/-- A memory that holds the key and the data; all the rest of it is arbitrary. -/
structure Holds (context : RastaHashingContext) (data : Bytes) (memory : Cell → UInt8) : Prop where
  key : ∀ i, (hi : i < context.key.length) → memory (.key, i) = context.key[i]
  data : ∀ i, (hi : i < data.length) → memory (.data, i) = data[i]

/-- The state in which a computation is entered. -/
def entered (context : RastaHashingContext) (data : Bytes) (memory : Cell → UInt8) :
    Prog.State Cell UInt8 where
  memory := memory
  known := given context data
  confined := true

/-- A run of the computation of a safety code. -/
def safetyCodeRun (context : RastaHashingContext) (data : Bytes) (memory : Cell → UInt8) :
    Option (Bytes × Prog.State Cell UInt8) :=
  (safetyCodeProgram data.length context).map fun program =>
    program.exec (writable context) (entered context data memory)

theorem entered_agree {context : RastaHashingContext} {data : Bytes} {m m' : Cell → UInt8}
    (h : Holds context data m) (h' : Holds context data m') :
    Prog.Agree (entered context data m) (entered context data m') where
  known := rfl
  memory := by
    rintro ⟨buffer, i⟩ hknown
    cases buffer with
    | key =>
      have hi : i < context.key.length := of_decide_eq_true hknown
      exact (h'.key i hi).trans (h.key i hi).symm
    | data =>
      have hi : i < data.length := of_decide_eq_true hknown
      exact (h'.data i hi).trans (h.data i hi).symm
    | md4code => cases hknown
    | hash => cases hknown

/-- The code is what the digest buffer holds at the end. -/
theorem code_of_run {context : RastaHashingContext} {data : Bytes} {memory : Cell → UInt8}
    {run : Bytes × Prog.State Cell UInt8} (h : safetyCodeRun context data memory = some run) :
    run.1 = (List.range context.checksumLen).map fun i => run.2.memory (.hash, i) := by
  unfold safetyCodeRun safetyCodeProgram at h
  cases hcalculate : rastaCalculateHash data.length context with
  | none =>
    rw [hcalculate] at h
    cases h
  | some calculate =>
    rw [hcalculate, Option.map_some, Option.map_some, Option.some.injEq, Prog.exec_bind, load,
      Prog.exec_readAll] at h
    rw [← h, cells, List.map_map]
    simp only [Function.comp_def, Nat.zero_add]

end Memory

section Rules

variable {own : Cell → Bool} {buffer : Buffer} {offset n : ℕ} {s : Prog.State Cell UInt8}

theorem all_cells (p : Cell → Bool) :
    (cells buffer offset n).all p = true ↔ ∀ i < n, p (buffer, offset + i) = true := by
  simp [cells]

theorem exec_load_of_known (h : ∀ i < n, s.known (buffer, offset + i) = true) :
    (load buffer offset n).exec own s = ((cells buffer offset n).map s.memory, s) := by
  rw [load, Prog.exec_readAll, (all_cells s.known).mpr h, Bool.and_true]

theorem known_of_load (h : ((load buffer offset n).exec own s).2.confined = true) :
    ∀ i < n, s.known (buffer, offset + i) = true := by
  rw [load, Prog.exec_readAll] at h
  exact (all_cells s.known).mp (Bool.and_eq_true_iff.mp h).2

/-- The state after bytes were written. -/
def saved (own : Cell → Bool) (buffer : Buffer) (offset : ℕ) (bytes : Bytes)
    (s : Prog.State Cell UInt8) : Prog.State Cell UInt8 :=
  ((save buffer offset bytes).exec own s).2

theorem exec_save (bytes : Bytes) :
    (save buffer offset bytes).exec own s = ((), saved own buffer offset bytes s) := rfl

theorem map_fst_cells (bytes : Bytes) :
    ((cells buffer offset bytes.length).zip bytes).map Prod.fst =
      cells buffer offset bytes.length := by
  apply List.map_fst_zip
  simp [cells]

theorem saved_known_self {bytes : Bytes} {i : ℕ} (hi : i < bytes.length) :
    (saved own buffer offset bytes s).known (buffer, offset + i) = true := by
  rw [saved, save, Prog.exec_writeAll]
  have hmem : (buffer, offset + i) ∈ cells buffer offset bytes.length :=
    List.mem_map_of_mem (List.mem_range.mpr hi)
  simp only [map_fst_cells, hmem, decide_true, Bool.or_true]

theorem saved_confined {bytes : Bytes} (hs : s.confined = true)
    (h : ∀ i < bytes.length, own (buffer, offset + i) = true) :
    (saved own buffer offset bytes s).confined = true := by
  rw [saved, save, Prog.exec_writeAll]
  simp only [map_fst_cells, (all_cells own).mpr h, hs, Bool.and_self]

theorem own_of_saved {bytes : Bytes} (h : (saved own buffer offset bytes s).confined = true) :
    ∀ i < bytes.length, own (buffer, offset + i) = true := by
  rw [saved, save, Prog.exec_writeAll] at h
  simp only [map_fst_cells] at h
  exact (all_cells own).mp (Bool.and_eq_true_iff.mp h).2

/-- The caller's part: the digest buffer holds what was written there. -/
theorem confined_code {bytes : Bytes} (hs : s.confined = true) (hlen : bytes.length ≤ 16)
    (hown : ∀ i < 16, own (.hash, i) = true) (hn : n ≤ bytes.length) :
    ((load .hash 0 n).exec own (saved own .hash 0 bytes s)).2.confined = true := by
  rw [exec_load_of_known]
  · apply saved_confined hs
    intro i hi
    rw [Nat.zero_add]
    exact hown i (by omega)
  · intro i hi
    exact saved_known_self (by omega)

end Rules

section Inputs

variable {context : RastaHashingContext} {own : Cell → Bool} {data : Bytes}
  {memory : Cell → UInt8}

theorem exec_load_key {offset n : ℕ} (h : offset + n ≤ context.key.length) :
    (load .key offset n).exec own (entered context data memory) =
      ((cells .key offset n).map memory, entered context data memory) := by
  apply exec_load_of_known
  intro i hi
  exact decide_eq_true (by omega)

theorem key_long_of_load {offset n : ℕ} (hn : 0 < n)
    (h : ((load .key offset n).exec own (entered context data memory)).2.confined = true) :
    offset + n ≤ context.key.length := by
  have hlast := of_decide_eq_true (known_of_load h (n - 1) (by omega))
  omega

theorem exec_load_data (h : data.length < 2 ^ 31) :
    (load .data 0 (sizeOfInt data.length)).exec own (entered context data memory) =
      ((cells .data 0 data.length).map memory, entered context data memory) := by
  rw [sizeOfInt, if_pos h]
  apply exec_load_of_known
  intro i hi
  rw [Nat.zero_add]
  exact decide_eq_true hi

/-- A length that does not fit into an `int` makes the digest functions read on. -/
theorem data_short_of_load
    (h : ((load .data 0 (sizeOfInt data.length)).exec own
      (entered context data memory)).2.confined = true) : data.length < 2 ^ 31 := by
  by_contra hlong
  have hlt : data.length < sizeOfInt data.length := by
    rw [sizeOfInt, if_neg hlong]
    omega
  have hin := of_decide_eq_true (known_of_load h data.length hlt)
  omega

theorem hash_writable (i : ℕ) (hi : i < 16) : writable context (.hash, i) = true :=
  decide_eq_true hi

end Inputs

section Backends

variable {context : RastaHashingContext} {data : Bytes} {memory : Cell → UInt8}

theorem exec_rastaGetMd4CtxFromKey (hkey : 16 ≤ context.key.length) :
    ∃ ctx, rastaGetMd4CtxFromKey.exec (writable context) (entered context data memory) =
      (ctx, entered context data memory) := by
  unfold rastaGetMd4CtxFromKey
  rw [Prog.exec_bind, exec_load_key (by omega), Prog.exec_bind, exec_load_key (by omega),
    Prog.exec_bind, exec_load_key (by omega), Prog.exec_bind, exec_load_key (by omega)]
  exact ⟨_, rfl⟩

/-- The whole digest needs all of `MD4code`. -/
theorem md4code_room {digest : Bytes} (hlen : digest.length = 16) {s : Prog.State Cell UInt8}
    (h : (saved (writable context) .md4code 0 digest s).confined = true) :
    context.hashLength = .b16 := by
  have hninth := own_of_saved h 8 (by omega)
  have hroom : 8 < md4codeLen context.hashLength := of_decide_eq_true hninth
  unfold md4codeLen at hroom
  by_contra hshort
  rw [if_neg hshort] at hroom
  omega

/-- With the long code the digest goes through `MD4code` into the digest buffer. -/
theorem md4_copy_confined {digest : Bytes} (hlen : digest.length = 16)
    (hlong : context.hashLength = .b16) {s : Prog.State Cell UInt8} (hs : s.confined = true) :
    ((load .hash 0 16).exec (writable context)
      ((storeMd4 .b16).exec (writable context)
        (saved (writable context) .md4code 0 digest s)).2).2.confined = true := by
  have hcode : (saved (writable context) .md4code 0 digest s).confined = true := by
    apply saved_confined hs
    intro i hi
    apply decide_eq_true
    rw [md4codeLen, if_pos hlong]
    omega
  have hload := @exec_load_of_known (writable context) .md4code 0 16
    (saved (writable context) .md4code 0 digest s) fun i hi => saved_known_self (by omega)
  rw [storeMd4, Prog.exec_bind, hload, exec_save]
  apply confined_code hcode
  · simp [cells]
  · exact hash_writable
  · simp [cells]

/-- MD4 stays inside its buffers exactly with the long code and a length that is an `int`. -/
theorem md4_confined_iff (hkey : 16 ≤ context.key.length) :
    ((rastaGetMd4CtxFromKey >>= generateMd4WithVector data.length context.hashLength >>=
        fun _ => load .hash 0 context.checksumLen).exec (writable context)
          (entered context data memory)).2.confined = true ↔
      context.hashLength = .b16 ∧ data.length < 2 ^ 31 := by
  obtain ⟨ctx, hctx⟩ := @exec_rastaGetMd4CtxFromKey context data memory hkey
  unfold generateMd4WithVector
  constructor
  · intro hconfined
    have hgenerate := Prog.confined_of_bind _ _ _ hconfined
    rw [Prog.exec_bind, hctx] at hgenerate
    have hdata := data_short_of_load (Prog.confined_of_bind _ _ _ hgenerate)
    rw [Prog.exec_bind, exec_load_data hdata, Prog.exec_bind, exec_save] at hgenerate
    have hcode := Prog.confined_of_exec _ _ hgenerate
    exact ⟨md4code_room (length_md4FinalRasta _) hcode, hdata⟩
  · rintro ⟨hlong, hdata⟩
    have hlen : context.checksumLen = 16 := by
      rw [RastaHashingContext.checksumLen, hlong]
      rfl
    rw [Prog.exec_bind, Prog.exec_bind, hctx, hlen, Prog.exec_bind, exec_load_data hdata,
      Prog.exec_bind, exec_save, hlong]
    generalize hdigest : md4FinalRasta _ = digest
    have hsixteen : digest.length = 16 := by
      rw [← hdigest]
      exact length_md4FinalRasta _
    have hentered : (entered context data memory).confined = true := rfl
    dsimp only
    exact md4_copy_confined hsixteen hlong hentered

theorem checksumLen_of_none (hnone : context.hashLength = .none) : context.checksumLen = 0 := by
  rw [RastaHashingContext.checksumLen, hnone]
  rfl

theorem load_nothing (own : Cell → Bool) (s : Prog.State Cell UInt8) :
    (load .hash 0 0).exec own s = ([], s) := rfl

theorem hashLen_pos {type : RastaChecksumType} (h : type ≠ .none) :
    type.toNat * 8 ≠ 0 ∧ type.toNat * 8 ≤ 16 := by
  cases type with
  | none => exact absurd rfl h
  | b8 => decide
  | b16 => decide

/-- The key of a context is read whole and goes into the start of the computation. -/
theorem exec_rastaBlake2bInit {outlen : ℕ} (hout : outlen ≠ 0 ∧ outlen ≤ 16)
    (hkey : context.key.length ≤ 64) :
    (rastaBlake2bInit outlen (sizeOfInt context.key.length)).exec (writable context)
        (entered context data memory) =
      (some (blake2bStart outlen ((cells .key 0 context.key.length).map memory)),
        entered context data memory) := by
  have hsize : sizeOfInt context.key.length = context.key.length := if_pos (by omega)
  have hlegal : ¬ (outlen = 0 ∨ 64 < outlen ∨ 64 < context.key.length) := by omega
  rw [hsize, rastaBlake2bInit, if_neg hlegal, Prog.exec_bind, exec_load_key (by omega)]
  rfl

/-- BLAKE2b stays inside its buffers without a code and for every length that is an `int`. -/
theorem blake2_confined_iff (hkey : context.key.length ≤ 64) :
    ((generateBlake2 data.length context.key.length context.hashLength >>=
        fun _ => load .hash 0 context.checksumLen).exec (writable context)
          (entered context data memory)).2.confined = true ↔
      context.hashLength = .none ∨ data.length < 2 ^ 31 := by
  by_cases hnone : context.hashLength = .none
  · rw [checksumLen_of_none hnone, hnone, Prog.exec_bind, load_nothing]
    exact iff_of_true rfl (Or.inl rfl)
  · have hout := hashLen_pos hnone
    have hinit := @exec_rastaBlake2bInit context data memory _ hout hkey
    unfold generateBlake2
    rw [if_neg hout.1]
    constructor
    · intro hconfined
      have hgenerate := Prog.confined_of_bind _ _ _ hconfined
      rw [Prog.exec_bind, hinit] at hgenerate
      exact Or.inr (data_short_of_load (Prog.confined_of_bind _ _ _ hgenerate))
    · rintro (habsurd | hdata)
      · exact absurd habsurd hnone
      · rw [Prog.exec_bind, Prog.exec_bind, hinit]
        dsimp only
        rw [Prog.exec_bind, exec_load_data hdata, exec_save]
        dsimp only
        generalize hdigest : rastaBlake2bFinal _ = digest
        have hlen : digest.length = context.checksumLen := by
          rw [← hdigest, length_rastaBlake2bFinal, outlen_rastaBlake2bUpdate, outlen_blake2bStart]
          rfl
        apply confined_code rfl
        · rw [hlen]
          exact context.checksumLen_le
        · exact hash_writable
        · rw [hlen]

/-- SipHash reads more key bytes than such a context has, unless there is no code. -/
theorem siphash_confined_iff (hkey : context.key.length < 8) :
    ((generateSiphash24 data.length context.hashLength >>=
        fun _ => load .hash 0 context.checksumLen).exec (writable context)
          (entered context data memory)).2.confined = true ↔
      context.hashLength = .none := by
  constructor
  · intro hconfined
    have hgenerate := Prog.confined_of_bind _ _ _ hconfined
    cases htype : context.hashLength with
    | none => rfl
    | b8 =>
      rw [htype] at hgenerate
      unfold generateSiphash24 halfsiphash at hgenerate
      have hfirst := key_long_of_load (by omega) (Prog.confined_of_bind _ _ _ hgenerate)
      rw [Prog.exec_bind, exec_load_key hfirst] at hgenerate
      have hsecond := key_long_of_load (by omega) (Prog.confined_of_bind _ _ _ hgenerate)
      omega
    | b16 =>
      rw [htype] at hgenerate
      unfold generateSiphash24 siphash at hgenerate
      have hfirst := key_long_of_load (by omega) (Prog.confined_of_bind _ _ _ hgenerate)
      omega
  · intro hnone
    rw [checksumLen_of_none hnone, hnone, Prog.exec_bind, load_nothing]
    apply saved_confined rfl
    intro i hi
    rw [Nat.zero_add]
    exact hash_writable i (lt_of_lt_of_le hi (by rw [List.length_replicate]; omega))

end Backends

end LibRasta.Util
