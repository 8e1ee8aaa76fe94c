/-
Module: LibRasta/Util/ErrorVariable.lean
source: src/c/util/rastamodule.c
digest: The error variable shared by the encoders and the decoders over whole histories of calls, and exactly which histories change what is encoded afterwards.
-/

import LibRasta.Lib.Runs
import LibRasta.Util.Module

set_option autoImplicit false
set_option relaxedAutoImplicit false

namespace LibRasta.Util

open LibRasta.Lib

/-- The calls that share `rastamodule_lasterror`, with their arguments and the memory the
decoders write to. -/
inductive CodecCall where
  | bytesToRastaPacket (data : Bytes) (ctx : RastaHashingContext) (result : RastaPacket)
  | bytesToRastaRedundancyPacket (data : Bytes) (length : ℕ) (checksumType : CrcOptions)
      (ctx : RastaHashingContext) (packet : RastaRedundancyPacket)
  | rastaModuleToBytes (packet : RastaPacket) (ctx : RastaHashingContext)
  | rastaRedundancyPacketToBytes (packet : RastaRedundancyPacket) (ctx : RastaHashingContext)

/-- The packet handed to the call is too short for its header and its safety code. -/
def CodecCall.TooShort : CodecCall → Prop
  | bytesToRastaPacket data ctx _ => data.length < 28 + ctx.checksumLen
  | bytesToRastaRedundancyPacket _ length checksumType ctx _ =>
    innerLength length checksumType < 28 + ctx.checksumLen
  | rastaModuleToBytes packet ctx => packet.length.toNat < 28 + ctx.checksumLen
  | rastaRedundancyPacketToBytes packet ctx => packet.data.length.toNat < 28 + ctx.checksumLen

instance : (call : CodecCall) → Decidable call.TooShort
  | .bytesToRastaPacket _ _ _ => inferInstanceAs (Decidable (_ < _))
  | .bytesToRastaRedundancyPacket _ _ _ _ _ => inferInstanceAs (Decidable (_ < _))
  | .rastaModuleToBytes _ _ => inferInstanceAs (Decidable (_ < _))
  | .rastaRedundancyPacketToBytes _ _ => inferInstanceAs (Decidable (_ < _))

section History

variable (P : Platform)

/-- The error variable a call leaves behind. -/
def lasterrorOf {α : Type} (result : α × RastaErrorType) : RastaErrorType := result.2

/-- The error variable after a call. -/
def callStep (lasterror : RastaErrorType) : CodecCall → RastaErrorType
  | .bytesToRastaPacket data ctx result =>
    lasterrorOf (bytesToRastaPacket P lasterror data ctx result)
  | .bytesToRastaRedundancyPacket data length checksumType ctx packet =>
    lasterrorOf (bytesToRastaRedundancyPacket P lasterror data length checksumType ctx packet)
  | .rastaModuleToBytes packet ctx => lasterrorOf (rastaModuleToBytes P lasterror packet ctx)
  | .rastaRedundancyPacketToBytes packet ctx =>
    lasterrorOf (rastaRedundancyPacketToBytes P lasterror packet ctx)

/-- The error variable of a process after a history of calls. -/
def lasterrorAfter (history : List CodecCall) : RastaErrorType :=
  run (callStep P) .none history

theorem lasterrorOf_bytesToRastaPacket (lasterror : RastaErrorType) (data : Bytes)
    (ctx : RastaHashingContext) (result : RastaPacket) :
    lasterrorOf (bytesToRastaPacket P lasterror data ctx result) =
      if data.length < 28 + ctx.checksumLen then .packageLengthInvalid else lasterror := by
  unfold bytesToRastaPacket
  split
  · rfl
  · rfl

-- stated for any pair, so that projecting never evaluates the inner decoder
theorem lasterrorOf_pair {α : Type} (packet : α → RastaRedundancyPacket)
    (inner : α × RastaErrorType) :
    lasterrorOf (packet inner.1, inner.2) = lasterrorOf inner := rfl

theorem lasterrorOf_bytesToRastaRedundancyPacket (lasterror : RastaErrorType) (data : Bytes)
    (length : ℕ) (checksumType : CrcOptions) (ctx : RastaHashingContext)
    (packet : RastaRedundancyPacket) :
    lasterrorOf (bytesToRastaRedundancyPacket P lasterror data length checksumType ctx packet) =
      lasterrorOf (bytesToRastaPacket P lasterror
        (readBytes P data 8 (innerLength length checksumType)) ctx packet.data) := by
  unfold bytesToRastaRedundancyPacket
  exact lasterrorOf_pair (redundancyPacketOf P data length checksumType) _

theorem lasterrorOf_rastaModuleToBytes (lasterror : RastaErrorType) (packet : RastaPacket)
    (ctx : RastaHashingContext) :
    lasterrorOf (rastaModuleToBytes P lasterror packet ctx) =
      allocateBytesError lasterror packet ctx := by
  unfold rastaModuleToBytes
  simp only
  split
  · rfl
  · rfl

/-- A call sets the variable exactly when its packet is too short, and never clears it. -/
theorem callStep_eq (lasterror : RastaErrorType) (call : CodecCall) :
    callStep P lasterror call =
      if call.TooShort then .packageLengthInvalid else lasterror := by
  cases call with
  | bytesToRastaPacket data ctx result => exact lasterrorOf_bytesToRastaPacket P _ _ _ _
  | bytesToRastaRedundancyPacket data length checksumType ctx packet =>
    have hinner := lasterrorOf_bytesToRastaPacket P lasterror
      (readBytes P data 8 (innerLength length checksumType)) ctx packet.data
    rw [length_readBytes] at hinner
    rw [callStep, lasterrorOf_bytesToRastaRedundancyPacket, hinner]
    rfl
  | rastaModuleToBytes packet ctx => exact lasterrorOf_rastaModuleToBytes P _ _ _
  | rastaRedundancyPacketToBytes packet ctx => exact lasterrorOf_rastaModuleToBytes P _ _ _

theorem lasterrorAfter_eq_none_iff (history : List CodecCall) :
    lasterrorAfter P history = .none ↔ ∀ call ∈ history, ¬ call.TooShort := by
  -- the variable may already be set when the rest of the history starts
  suffices hgeneral : ∀ lasterror, run (callStep P) lasterror history = .none ↔
      lasterror = .none ∧ ∀ call ∈ history, ¬ call.TooShort by
    have hfresh := hgeneral .none
    simpa [lasterrorAfter] using hfresh
  induction history with
  | nil =>
    intro lasterror
    simp
  | cons call rest ih =>
    intro lasterror
    rw [run_cons, ih, callStep_eq]
    by_cases hshort : call.TooShort
    · simp [hshort]
    · simp [hshort]

/-- An encoded packet starts with its length, which is not zero. -/
theorem rastaModuleToBytes_ne_zeros {packet : RastaPacket} {ctx : RastaHashingContext}
    (h : 28 + ctx.checksumLen ≤ packet.length.toNat) :
    (rastaModuleToBytes P .none packet ctx).1 ≠ allocateRastaByteArray packet.length.toNat := by
  intro heq
  rw [rastaModuleToBytes_of_fits P h] at heq
  have hfield : leShortToHost P (allocateRastaByteArray packet.length.toNat) 0 = packet.length := by
    rw [← heq]
    simp only [bytesToHash, List.append_assoc]
    exact packFields_length P packet _
  have hzero : leShortToHost P (allocateRastaByteArray packet.length.toNat) 0 = 0 := by
    have hbyte : ∀ i, i < 2 → byteAt P (allocateRastaByteArray packet.length.toNat) i = 0 := by
      intro i hi
      have hlt : i < packet.length.toNat := by omega
      simp [byteAt, allocateRastaByteArray, hlt]
    rw [leShortToHost, hbyte 0 (by omega), hbyte 1 (by omega)]
    rfl
  rw [hzero] at hfield
  rw [← hfield] at h
  have hnone : (0 : UInt16).toNat = 0 := rfl
  omega

/-- After a history of calls a well-formed packet is encoded as in a fresh process exactly when
no packet in the history was too short. -/
theorem encoding_history_independent_iff (history : List CodecCall) (packet : RastaPacket)
    (ctx : RastaHashingContext) (h : WellFormed ctx packet) :
    (rastaModuleToBytes P (lasterrorAfter P history) packet ctx).1 =
        (rastaModuleToBytes P .none packet ctx).1 ↔
      ∀ call ∈ history, ¬ call.TooShort := by
  have hfits : 28 + ctx.checksumLen ≤ packet.length.toNat := by
    unfold WellFormed at h
    omega
  rw [← lasterrorAfter_eq_none_iff P]
  constructor
  · intro hsame
    by_contra hset
    have hzeros : (rastaModuleToBytes P (lasterrorAfter P history) packet ctx).1 =
        allocateRastaByteArray packet.length.toNat := by
      simp [rastaModuleToBytes, allocateBytesError, Nat.not_lt.mpr hfits, hset]
    rw [hzeros] at hsame
    exact rastaModuleToBytes_ne_zeros P hfits hsame.symm
  · intro hnone
    rw [hnone]

end History

/-- A heartbeat with an 8 byte safety code. -/
def exampleEncoded : RastaPacket :=
  { zeroPacket with length := 36, type := .hb }

def exampleHashing : RastaHashingContext where
  hashLength := .b8
  algorithm := .md4
  key := [1, 2, 3, 4]

theorem encoding_history_independent_iff_fresh :
    (rastaModuleToBytes referencePlatform
        (lasterrorAfter referencePlatform
          [.rastaModuleToBytes exampleEncoded exampleHashing]) exampleEncoded
        exampleHashing).1 =
      (rastaModuleToBytes referencePlatform .none exampleEncoded exampleHashing).1 :=
  (encoding_history_independent_iff referencePlatform
    [.rastaModuleToBytes exampleEncoded exampleHashing] exampleEncoded exampleHashing
    (by unfold WellFormed; decide)).mpr (by decide)

/-- After a datagram of one byte was decoded, a heartbeat is encoded as 36 zeros. -/
theorem runt_changes_encoding :
    WellFormed exampleHashing exampleEncoded ∧
      (rastaModuleToBytes referencePlatform
        (lasterrorAfter referencePlatform
          [.bytesToRastaPacket [0] exampleHashing zeroPacket]) exampleEncoded
        exampleHashing).1 ≠
      (rastaModuleToBytes referencePlatform .none exampleEncoded exampleHashing).1 := by
  unfold WellFormed
  decide +kernel

end LibRasta.Util
