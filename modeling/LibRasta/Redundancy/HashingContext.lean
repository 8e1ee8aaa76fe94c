/-
Module: LibRasta/Redundancy/HashingContext.lean
source: src/c/redundancy/rasta_red_multiplexer.c, src/c/redundancy/rasta_redundancy_channel.c, src/c/util/rastahashing.c
digest: For which configurations the safety code is a function of the data and the configuration.
-/

import LibRasta.Retransmission.Connection
import LibRasta.Util.Hashing

set_option autoImplicit false
set_option relaxedAutoImplicit false

namespace LibRasta.Redundancy

open LibRasta.Lib
open LibRasta.Util
open LibRasta.Retransmission

section Statement

/-- The safety code of the data under a context set up from the configuration depends on
nothing else: its computation stays inside the key, the data and its own buffers, and any two
memories that hold the key and the data give the same code. -/
structure CodeFromInputs (config : RastaConfigInfo) (data : Bytes) : Prop where
  confined : ∀ memory, Holds (hashingContextOf config) data memory →
    ∃ run, safetyCodeRun (hashingContextOf config) data memory = some run ∧
      run.2.confined = true
  equal : ∀ memory memory', Holds (hashingContextOf config) data memory →
    Holds (hashingContextOf config) data memory' →
    (safetyCodeRun (hashingContextOf config) data memory).map Prod.fst =
      (safetyCodeRun (hashingContextOf config) data memory').map Prod.fst

/-- The buffers of the configured algorithm are as long as it takes them to be. -/
def BackendFits (config : RastaConfigInfo) (length : ℕ) : Prop :=
  match config.srHashAlgorithm with
  | .md4 => config.md4Type = .b16 ∧ length < 2 ^ 31
  | .blake2b => config.md4Type = .none ∨ length < 2 ^ 31
  | .siphash24 => config.md4Type = .none

end Statement

section Proof

variable (config : RastaConfigInfo) (data : Bytes)

theorem length_key_md4 (h : config.srHashAlgorithm = .md4) :
    (hashingContextOf config).key.length = 16 := by
  simp only [hashingContextOf, h]
  rfl

theorem length_key_other (h : config.srHashAlgorithm ≠ .md4) :
    (hashingContextOf config).key.length = 4 := by
  unfold hashingContextOf
  cases halgorithm : config.srHashAlgorithm with
  | md4 => exact absurd halgorithm h
  | blake2b => rfl
  | siphash24 => rfl

/-- Every context set up from a configuration has a key, and its computation is confined
exactly when the buffers fit. -/
theorem program_confined_iff :
    ∃ program, safetyCodeProgram data.length (hashingContextOf config) = some program ∧
      ∀ memory, (program.exec (writable (hashingContextOf config))
          (entered (hashingContextOf config) data memory)).2.confined = true ↔
        BackendFits config data.length := by
  unfold safetyCodeProgram rastaCalculateHash BackendFits
  cases halgorithm : config.srHashAlgorithm with
  | md4 =>
    have hkey := length_key_md4 config halgorithm
    have hsame : (hashingContextOf config).algorithm = .md4 := halgorithm
    rw [if_neg (by omega), hsame]
    exact ⟨_, rfl, fun memory => md4_confined_iff (by omega)⟩
  | blake2b =>
    have hkey := length_key_other config (by rw [halgorithm]; decide)
    have hsame : (hashingContextOf config).algorithm = .blake2b := halgorithm
    rw [if_neg (by omega), hsame]
    exact ⟨_, rfl, fun memory => blake2_confined_iff (by omega)⟩
  | siphash24 =>
    have hkey := length_key_other config (by rw [halgorithm]; decide)
    have hsame : (hashingContextOf config).algorithm = .siphash24 := halgorithm
    rw [if_neg (by omega), hsame]
    exact ⟨_, rfl, fun memory => siphash_confined_iff (by omega)⟩

/-- A memory with one value wherever neither the key nor the data is. -/
def filledMemory (context : RastaHashingContext) (data : Bytes) (fill : UInt8) : Cell → UInt8
  | (.key, i) => context.key.getD i fill
  | (.data, i) => data.getD i fill
  | (.md4code, _) => fill
  | (.hash, _) => fill

theorem filledMemory_holds (context : RastaHashingContext) (fill : UInt8) :
    Holds context data (filledMemory context data fill) where
  key := by
    intro i hi
    show context.key.getD i fill = context.key[i]
    rw [List.getD_eq_getElem?_getD, List.getElem?_eq_getElem hi, Option.getD_some]
  data := by
    intro i hi
    show data.getD i fill = data[i]
    rw [List.getD_eq_getElem?_getD, List.getElem?_eq_getElem hi, Option.getD_some]

variable {config data}

/-- Where the buffers fit, every memory gives the same code. -/
theorem code_eq_of_fits (hfits : BackendFits config data.length) {memory memory' : Cell → UInt8}
    (hholds : Holds (hashingContextOf config) data memory)
    (hholds' : Holds (hashingContextOf config) data memory') :
    (safetyCodeRun (hashingContextOf config) data memory).map Prod.fst =
      (safetyCodeRun (hashingContextOf config) data memory').map Prod.fst := by
  obtain ⟨program, hprogram, hconfined⟩ := program_confined_iff config data
  rw [safetyCodeRun, safetyCodeRun, hprogram, Option.map_some, Option.map_some, Option.map_some,
    Option.map_some]
  exact congrArg some (Prog.exec_agree _ program (entered_agree hholds' hholds)
    ((hconfined memory').mpr hfits))

/-- The platform whose safety code function is the one of the library, in a memory that is zero
outside the key and the data. -/
def hashPlatform : Platform :=
  { referencePlatform with
    calculateHash := fun context data =>
      (List.range 16).map fun i =>
        ((safetyCodeRun context data (filledMemory context data 0)).map fun run =>
          run.2.memory (.hash, i)).getD 0
    length_calculateHash := by
      intro context data
      rw [List.length_map, List.length_range] }

/-- Where the buffers fit, the function of this platform gives the code in every memory. -/
theorem hashPlatform_code (hfits : BackendFits config data.length) {memory : Cell → UInt8}
    (hholds : Holds (hashingContextOf config) data memory) :
    (safetyCodeRun (hashingContextOf config) data memory).map Prod.fst =
      some ((hashPlatform.calculateHash (hashingContextOf config) data).take
        (hashingContextOf config).checksumLen) := by
  have hle := (hashingContextOf config).checksumLen_le
  rw [code_eq_of_fits hfits hholds (filledMemory_holds data _ 0)]
  obtain ⟨program, hprogram, -⟩ := program_confined_iff config data
  cases hrun : safetyCodeRun (hashingContextOf config) data
      (filledMemory (hashingContextOf config) data 0) with
  | none =>
    rw [safetyCodeRun, hprogram] at hrun
    cases hrun
  | some run =>
    have hdigest : hashPlatform.calculateHash (hashingContextOf config) data =
        (List.range 16).map fun i => run.2.memory (.hash, i) := by
      show ((List.range 16).map fun i =>
        ((safetyCodeRun (hashingContextOf config) data
          (filledMemory (hashingContextOf config) data 0)).map fun run =>
            run.2.memory (.hash, i)).getD 0) = _
      rw [hrun]
      rfl
    rw [Option.map_some, code_of_run hrun, hdigest, ← List.map_take, List.take_range,
      Nat.min_eq_left hle]

variable (config data)

/-- The safety code is a function of the data and the configuration exactly when the buffers of
the configured algorithm fit. -/
theorem codeFromInputs_iff : CodeFromInputs config data ↔ BackendFits config data.length := by
  obtain ⟨program, hprogram, hconfined⟩ := program_confined_iff config data
  have hrun : ∀ memory, safetyCodeRun (hashingContextOf config) data memory =
      some (program.exec (writable (hashingContextOf config))
        (entered (hashingContextOf config) data memory)) := by
    intro memory
    rw [safetyCodeRun, hprogram, Option.map_some]
  constructor
  · intro hcode
    obtain ⟨run, hsome, hinside⟩ := hcode.confined _ (filledMemory_holds data _ 0)
    rw [hrun, Option.some.injEq] at hsome
    rw [← hsome] at hinside
    exact (hconfined _).mp hinside
  · intro hfits
    constructor
    · intro memory hholds
      exact ⟨_, hrun memory, (hconfined memory).mpr hfits⟩
    · intro memory memory' hholds hholds'
      exact code_eq_of_fits hfits hholds hholds'

/-- The configuration of the examples with SipHash and the short code. -/
def exampleSiphashConfig : RastaConfigInfo :=
  { exampleConfig with srHashAlgorithm := .siphash24, md4Type := .b8 }

/-- SipHash takes four bytes behind the key for a part of the key, so that two endpoints with
one configuration disagree about the code; MD4 with the short code writes behind `MD4code`. -/
theorem safety_code_not_from_inputs :
    ¬ CodeFromInputs exampleSiphashConfig [0x61] ∧
      (safetyCodeRun (hashingContextOf exampleSiphashConfig) [0x61]
          (filledMemory (hashingContextOf exampleSiphashConfig) [0x61] 0)).map Prod.fst ≠
        (safetyCodeRun (hashingContextOf exampleSiphashConfig) [0x61]
          (filledMemory (hashingContextOf exampleSiphashConfig) [0x61] 1)).map Prod.fst ∧
      ¬ CodeFromInputs { exampleConfig with srHashAlgorithm := .md4, md4Type := .b8 } [0x61] := by
  have hcodes : (safetyCodeRun (hashingContextOf exampleSiphashConfig) [0x61]
      (filledMemory (hashingContextOf exampleSiphashConfig) [0x61] 0)).map Prod.fst ≠
        (safetyCodeRun (hashingContextOf exampleSiphashConfig) [0x61]
          (filledMemory (hashingContextOf exampleSiphashConfig) [0x61] 1)).map Prod.fst := by
    decide +kernel
  refine ⟨?_, hcodes, ?_⟩
  · intro hcode
    exact hcodes (hcode.equal _ _ (filledMemory_holds _ _ _) (filledMemory_holds _ _ _))
  · intro hcode
    obtain ⟨run, hsome, hinside⟩ := hcode.confined _ (filledMemory_holds _ _ 0)
    have houtside : (safetyCodeRun
        (hashingContextOf { exampleConfig with srHashAlgorithm := .md4, md4Type := .b8 }) [0x61]
        (filledMemory (hashingContextOf
          { exampleConfig with srHashAlgorithm := .md4, md4Type := .b8 }) [0x61] 0)).map
          (fun run => run.2.confined) = some false := by
      decide +kernel
    rw [hsome, Option.map_some, hinside] at houtside
    cases houtside

end Proof

end LibRasta.Redundancy
