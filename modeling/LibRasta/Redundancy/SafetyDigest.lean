/-
Module: LibRasta/Redundancy/SafetyDigest.lean
source: src/c/util/rastahashing.c, src/c/util/rastamd4.c, src/c/util/rastablake2.c
digest: What the safety code of a message is where the buffers of its computation fit: the digest of the configured algorithm, in any memory.
-/

import LibRasta.Redundancy.HashingContext
import LibRasta.Util.Blake2

set_option autoImplicit false
set_option relaxedAutoImplicit false

namespace LibRasta.Redundancy

open LibRasta.Lib
open LibRasta.Util
open LibRasta.Retransmission

section Specification

/-- The words a configured MD4 starts with. -/
def md4Vector (config : RastaConfigInfo) : Md4Words where
  a := config.md4A
  b := config.md4B
  c := config.md4C
  d := config.md4D

/-- The safety code of the data under a configuration. A SipHash code is never computed within the
buffers. -/
def codeDigest (config : RastaConfigInfo) (data : Bytes) : Bytes :=
  match config.md4Type, config.srHashAlgorithm with
  | .none, _ => []
  | _, .md4 => md4Digest (md4Vector config) data
  | type, .blake2b => blake2bDigest (type.toNat * 8) (hashingContextOf config).key data
  | _, .siphash24 => []

end Specification

section Reading

variable {own : Cell → Bool} {buffer : Buffer} {offset n : ℕ} {s : Prog.State Cell UInt8}
  {context : RastaHashingContext} {data : Bytes} {memory : Cell → UInt8}

theorem nodup_cells : (cells buffer offset n).Nodup := by
  apply List.Nodup.map
  · intro i j hij
    have hsum := congrArg Prod.snd hij
    dsimp only at hsum
    omega
  · exact List.nodup_range

theorem length_cells : (cells buffer offset n).length = n := by
  rw [cells, List.length_map, List.length_range]

/-- What was saved is loaded again. -/
theorem load_saved (bytes : Bytes) :
    ((load buffer offset bytes.length).exec own (saved own buffer offset bytes s)).1 = bytes := by
  rw [load, Prog.exec_readAll, saved, save, Prog.exec_writeAll]
  exact Prog.map_written _ nodup_cells length_cells.symm

theorem exec_then_nothing (program : Hashing Unit) :
    ((program >>= fun _ => load .hash 0 0).exec own s).1 = [] := by
  rw [Prog.exec_bind, load_nothing]

theorem map_key_cells (h : Holds context data memory) (hin : offset + n ≤ context.key.length) :
    (cells .key offset n).map memory = (context.key.drop offset).take n := by
  apply List.ext_getElem
  · rw [List.length_map, length_cells, List.length_take, List.length_drop]
    omega
  · intro i hleft hright
    rw [List.length_map, length_cells] at hleft
    rw [List.getElem_map, List.getElem_take, List.getElem_drop]
    simp only [cells, List.getElem_map, List.getElem_range]
    exact h.key _ (by omega)

theorem map_data_cells (h : Holds context data memory) :
    (cells .data 0 data.length).map memory = data := by
  apply List.ext_getElem
  · rw [List.length_map, length_cells]
  · intro i _ hright
    simp only [cells, List.getElem_map, List.getElem_range, Nat.zero_add]
    exact h.data i hright

theorem or_shiftLeft_eq_add {low high k : ℕ} (h : low < 2 ^ k) :
    low ||| high <<< k = low + high * 2 ^ k := by
  rw [Nat.or_comm, ← Nat.shiftLeft_add_eq_or_of_lt h, Nat.shiftLeft_eq, Nat.add_comm]

/-- The word of four bytes stored by `hostLongToLe`. -/
theorem leWord_hostLongToLe (v : UInt32) : (leWord (hostLongToLe v)).toUInt32 = v := by
  have hv := v.toNat_lt
  have hshift : ∀ byte k : ℕ, byte < 2 ^ 8 → k ≤ 24 → byte <<< k % 2 ^ 64 = byte <<< k := by
    intro byte k hbyte hk
    apply Nat.mod_eq_of_lt
    rw [Nat.shiftLeft_eq]
    calc byte * 2 ^ k ≤ byte * 2 ^ 24 := Nat.mul_le_mul_left _ (Nat.pow_le_pow_right (by omega) hk)
      _ < 2 ^ 64 := by omega
  have hword : (leWord (hostLongToLe v)).toNat = v.toNat := by
    simp only [leWord, hostLongToLe, le32, List.zipIdx_cons, List.zipIdx_nil, List.foldl_cons,
      List.foldl_nil, UInt64.toNat_or, UInt64.toNat_shiftLeft, UInt8.toNat_toUInt64,
      UInt8.toNat_ofNat', UInt64.toNat_ofNat']
    show 0 ||| (v.toNat % 2 ^ 8) <<< 0 % 2 ^ 64 ||| (v.toNat / 2 ^ 8 % 2 ^ 8) <<< 8 % 2 ^ 64 |||
      (v.toNat / 2 ^ 16 % 2 ^ 8) <<< 16 % 2 ^ 64 ||| (v.toNat / 2 ^ 24 % 2 ^ 8) <<< 24 % 2 ^ 64 =
        v.toNat
    rw [hshift _ 0 (by omega) (by omega), hshift _ 8 (by omega) (by omega),
      hshift _ 16 (by omega) (by omega), hshift _ 24 (by omega) (by omega), Nat.shiftLeft_zero,
      Nat.zero_or, @or_shiftLeft_eq_add _ _ 8 (by omega), @or_shiftLeft_eq_add _ _ 16 (by omega),
      @or_shiftLeft_eq_add _ _ 24 (by omega)]
    omega
  apply UInt32.toNat_inj.mp
  rw [UInt64.toNat_toUInt32, hword]
  omega

end Reading

section Codes

variable {config : RastaConfigInfo} {data : Bytes} {memory : Cell → UInt8}

/-- The context of a configured MD4. -/
theorem exec_configuredMd4Ctx (hholds : Holds (hashingContextOf config) data memory)
    (halgorithm : config.srHashAlgorithm = .md4) :
    rastaGetMd4CtxFromKey.exec (writable (hashingContextOf config))
        (entered (hashingContextOf config) data memory) =
      (md4InitContext config.md4A config.md4B config.md4C config.md4D,
        entered (hashingContextOf config) data memory) := by
  have hlength := length_key_md4 config halgorithm
  have hkey : (hashingContextOf config).key =
      hostLongToLe config.md4A ++ hostLongToLe config.md4B ++ hostLongToLe config.md4C ++
        hostLongToLe config.md4D := by
    simp only [hashingContextOf, halgorithm]
  unfold rastaGetMd4CtxFromKey
  rw [Prog.exec_bind, exec_load_key (by omega), Prog.exec_bind, exec_load_key (by omega),
    Prog.exec_bind, exec_load_key (by omega), Prog.exec_bind, exec_load_key (by omega)]
  dsimp only
  rw [map_key_cells hholds (by omega), map_key_cells hholds (by omega),
    map_key_cells hholds (by omega), map_key_cells hholds (by omega), hkey]
  show (md4InitContext (leWord (hostLongToLe config.md4A)).toUInt32
      (leWord (hostLongToLe config.md4B)).toUInt32 (leWord (hostLongToLe config.md4C)).toUInt32
      (leWord (hostLongToLe config.md4D)).toUInt32, entered (hashingContextOf config) data memory) =
    _
  rw [leWord_hostLongToLe, leWord_hostLongToLe, leWord_hostLongToLe, leWord_hostLongToLe]

/-- The long MD4 code is the digest. -/
theorem md4_code (hholds : Holds (hashingContextOf config) data memory)
    (halgorithm : config.srHashAlgorithm = .md4) (htype : config.md4Type = .b16)
    (hdata : data.length < 2 ^ 31) :
    ((rastaGetMd4CtxFromKey >>= generateMd4WithVector data.length config.md4Type >>=
        fun _ => load .hash 0 (hashingContextOf config).checksumLen).exec
          (writable (hashingContextOf config))
          (entered (hashingContextOf config) data memory)).1 =
      md4Digest (md4Vector config) data := by
  have hlen : (hashingContextOf config).checksumLen = 16 := by
    rw [RastaHashingContext.checksumLen, hashingContextOf, htype]
    rfl
  have hdigest := md4_eq config.md4A config.md4B config.md4C config.md4D data
  unfold generateMd4WithVector
  rw [Prog.exec_bind, Prog.exec_bind, exec_configuredMd4Ctx hholds halgorithm, hlen, htype,
    Prog.exec_bind, exec_load_data hdata, Prog.exec_bind, exec_save]
  dsimp only
  rw [map_data_cells hholds, hdigest]
  generalize hcode : md4Digest _ data = digest
  have hlength : digest.length = 16 := by
    rw [← hcode]
    rfl
  rw [storeMd4, Prog.exec_bind, exec_save, ← hlength, load_saved]
  dsimp only
  rw [load_saved]
  exact hcode.symm

/-- A BLAKE2b code is the keyed digest of its length. -/
theorem blake2_code (hholds : Holds (hashingContextOf config) data memory)
    (halgorithm : config.srHashAlgorithm = .blake2b) (htype : config.md4Type ≠ .none)
    (hdata : data.length < 2 ^ 31) :
    ((generateBlake2 data.length (hashingContextOf config).key.length config.md4Type >>=
        fun _ => load .hash 0 (hashingContextOf config).checksumLen).exec
          (writable (hashingContextOf config))
          (entered (hashingContextOf config) data memory)).1 =
      blake2bDigest (config.md4Type.toNat * 8) (hashingContextOf config).key data := by
  have hkey : (hashingContextOf config).key.length = 4 :=
    length_key_other config (by rw [halgorithm]; decide)
  have hout := hashLen_pos htype
  have hinit := @exec_rastaBlake2bInit (hashingContextOf config) data memory _ hout (by omega)
  have hbytes := @map_key_cells 0 _ _ _ _ hholds (Nat.le_of_eq (Nat.zero_add _))
  have hdigest := @rastaBlake2b_eq (config.md4Type.toNat * 8) (hashingContextOf config).key
    (by omega) data
  rw [List.drop_zero, List.take_length] at hbytes
  rw [hbytes] at hinit
  unfold generateBlake2
  rw [if_neg hout.1, Prog.exec_bind, Prog.exec_bind, hinit]
  dsimp only
  rw [Prog.exec_bind, exec_load_data hdata, exec_save]
  dsimp only
  rw [map_data_cells hholds, hdigest]
  generalize hcode : blake2bDigest _ _ data = digest
  have hlength : digest.length = (hashingContextOf config).checksumLen := by
    rw [← hcode, ← hdigest, length_rastaBlake2bFinal, outlen_rastaBlake2bUpdate,
      outlen_blake2bStart]
    rfl
  rw [← hlength, load_saved]

theorem safetyCodeRun_md4 (hholds : Holds (hashingContextOf config) data memory)
    (hfits : BackendFits config data.length) (halgorithm : config.srHashAlgorithm = .md4) :
    (safetyCodeRun (hashingContextOf config) data memory).map Prod.fst =
      some (md4Digest (md4Vector config) data) := by
  have hkey := length_key_md4 config halgorithm
  have hsame : (hashingContextOf config).algorithm = .md4 := halgorithm
  have htype : (hashingContextOf config).hashLength = config.md4Type := rfl
  simp only [BackendFits, halgorithm] at hfits
  unfold safetyCodeRun safetyCodeProgram rastaCalculateHash
  rw [if_neg (by omega), hsame, htype]
  exact congrArg some (md4_code hholds halgorithm hfits.1 hfits.2)

theorem safetyCodeRun_blake2b (hholds : Holds (hashingContextOf config) data memory)
    (hfits : BackendFits config data.length) (halgorithm : config.srHashAlgorithm = .blake2b)
    (hsome : config.md4Type ≠ .none) :
    (safetyCodeRun (hashingContextOf config) data memory).map Prod.fst =
      some (blake2bDigest (config.md4Type.toNat * 8) (hashingContextOf config).key data) := by
  have hkey := length_key_other config (by rw [halgorithm]; decide)
  have hsame : (hashingContextOf config).algorithm = .blake2b := halgorithm
  have htype : (hashingContextOf config).hashLength = config.md4Type := rfl
  simp only [BackendFits, halgorithm] at hfits
  unfold safetyCodeRun safetyCodeProgram rastaCalculateHash
  rw [if_neg (by omega), hsame, htype]
  exact congrArg some (blake2_code hholds halgorithm hsome (hfits.resolve_left hsome))

/-- Without a code nothing is read from the digest buffer. -/
theorem safetyCodeRun_none (hnone : config.md4Type = .none) :
    (safetyCodeRun (hashingContextOf config) data memory).map Prod.fst = some [] := by
  obtain ⟨program, hprogram, -⟩ := program_confined_iff config data
  have hzero := checksumLen_of_none (show (hashingContextOf config).hashLength = .none from hnone)
  unfold safetyCodeProgram at hprogram
  obtain ⟨calculate, hcalculate, rfl⟩ := Option.map_eq_some_iff.mp hprogram
  rw [safetyCodeRun, safetyCodeProgram, hcalculate, hzero]
  exact congrArg some (exec_then_nothing calculate)

/-- Where the buffers of the configured algorithm fit, the safety code is its digest of the data,
whatever else the memory holds. -/
theorem safety_code_eq_digest (hfits : BackendFits config data.length)
    (hholds : Holds (hashingContextOf config) data memory) :
    (safetyCodeRun (hashingContextOf config) data memory).map Prod.fst =
      some (codeDigest config data) := by
  by_cases hnone : config.md4Type = .none
  · rw [safetyCodeRun_none hnone, codeDigest, hnone]
  · cases halgorithm : config.srHashAlgorithm with
    | md4 =>
      have htype : config.md4Type = .b16 := by
        simp only [BackendFits, halgorithm] at hfits
        exact hfits.1
      rw [safetyCodeRun_md4 hholds hfits halgorithm, codeDigest, halgorithm, htype]
    | blake2b =>
      rw [safetyCodeRun_blake2b hholds hfits halgorithm hnone, codeDigest, halgorithm]
      cases htype : config.md4Type with
      | none => exact absurd htype hnone
      | b8 => rfl
      | b16 => rfl
    | siphash24 =>
      simp only [BackendFits, halgorithm] at hfits
      exact absurd hfits hnone

end Codes

section Example

/-- MD4 with the long code and the usual initial words. -/
def exampleMd4Config : RastaConfigInfo := { exampleConfig with md4Type := .b16 }

theorem safety_code_eq_digest_md4 :
    (safetyCodeRun (hashingContextOf exampleMd4Config) [0x61, 0x62]
        (filledMemory (hashingContextOf exampleMd4Config) [0x61, 0x62] 7)).map Prod.fst =
      some (codeDigest exampleMd4Config [0x61, 0x62]) :=
  safety_code_eq_digest ⟨rfl, by decide⟩ (filledMemory_holds _ _ _)

/-- Data of one block; see `exampleTwin`. -/
def exampleBlock : Bytes :=
  [0x83, 0x9c, 0x7a, 0x4d, 0x7a, 0x92, 0xcb, 0x56, 0x78, 0xa5, 0xd5, 0xb9, 0xee, 0xa5, 0xa7, 0x57,
   0x3c, 0x8a, 0x74, 0xde, 0xb3, 0x66, 0xc3, 0xdc, 0x20, 0xa0, 0x83, 0xb6, 0x9f, 0x5d, 0x2a, 0x3b,
   0xb3, 0x71, 0x9d, 0xc6, 0x98, 0x91, 0xe9, 0xf9, 0x5e, 0x80, 0x9f, 0xd7, 0xe8, 0xb2, 0x3b, 0xa6,
   0x31, 0x8e, 0xdd, 0x45, 0xe5, 0x1f, 0xe3, 0x97, 0x08, 0xbf, 0x94, 0x27, 0xe9, 0xc3, 0xe8, 0xb9]

/-- Other data with the digest of `exampleBlock` from the usual initial words. -/
def exampleTwin : Bytes :=
  ((exampleBlock.set 7 0xd6).set 11 0x29).set 50 0xdc

end Example

end LibRasta.Redundancy
