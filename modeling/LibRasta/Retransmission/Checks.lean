/-
Module: LibRasta/Retransmission/Checks.lean
source: src/c/retransmission/safety_retransmission.c
digest: The plausibility checks on a received packet, and exactly when they are invariant under shifting all sequence numbers and timestamps.
-/

import LibRasta.Lib.Serial
import LibRasta.Retransmission.Connection

set_option autoImplicit false
set_option relaxedAutoImplicit false

namespace LibRasta.Retransmission

open LibRasta.Lib
open LibRasta.Util

/-- `sr_cts_in_seq`. -/
def srCtsInSeq (con : Connection) (packet : RastaPacket) : Bool :=
  if packet.type = .hb ∨ packet.type = .data ∨ packet.type = .retrData then
    if con.ctsR = 0 then true
    else if packet.confirmedTimestamp < con.ctsR then false
    else decide (packet.confirmedTimestamp - con.ctsR < con.config.tMax)
  else true

/-- `sr_sn_in_seq`. -/
def srSnInSeq (con : Connection) (packet : RastaPacket) : Bool :=
  if packet.type = .connReq ∨ packet.type = .connResp ∨ packet.type = .retrResp ∨
      packet.type = .discReq then true
  else decide (con.snR = packet.sequenceNumber)

/-- `sr_sn_range_valid`. -/
def srSnRangeValid (con : Connection) (packet : RastaPacket) : Bool :=
  if packet.type = .connReq ∨ packet.type = .connResp ∨ packet.type = .retrResp then true
  else
    decide (packet.sequenceNumber ≥ con.snR) &&
      decide ((packet.sequenceNumber - con.snR).toNat ≤ con.config.sendMax.toNat * 10)

/-- `sr_cs_valid`. -/
def srCsValid (con : Connection) (packet : RastaPacket) : Bool :=
  if packet.type = .connReq then decide (packet.confirmedSequenceNumber = 0)
  else if packet.type = .connResp then
    decide (packet.confirmedSequenceNumber = con.snT - 1)
  else
    decide (packet.confirmedSequenceNumber ≥ con.csR) &&
      decide (packet.confirmedSequenceNumber - con.csR < con.snT - con.csR)

/-- `sr_message_authentic`. -/
def srMessageAuthentic (con : Connection) (packet : RastaPacket) : Bool :=
  decide (packet.senderId = con.remoteId) && decide (packet.receiverId = con.myId)

/-- `sr_check_packet`. -/
def srCheckPacket (con : Connection) (receivedPacket : RastaPacket) : Bool :=
  receivedPacket.checksumCorrect && srMessageAuthentic con receivedPacket &&
    srSnRangeValid con receivedPacket && srCsValid con receivedPacket &&
    srSnInSeq con receivedPacket && srCtsInSeq con receivedPacket

section WrapAround

variable (con : Connection) (packet : RastaPacket) (a b c : UInt32)

/-- The connection with all received numbers shifted by `a`, all own ones by `b`, and the
confirmed timestamp by `c`. -/
def shiftConnection : Connection :=
  { con with snR := con.snR + a, csR := con.csR + b, snT := con.snT + b, ctsR := con.ctsR + c }

/-- The packet shifted along with the connection. -/
def shiftPacket : RastaPacket :=
  { packet with
    sequenceNumber := packet.sequenceNumber + a
    confirmedSequenceNumber := packet.confirmedSequenceNumber + b
    confirmedTimestamp := packet.confirmedTimestamp + c }

/-- The packet types that are checked against the running numbers of a connection. -/
def IsRunningType (type : RastaConnType) : Prop :=
  type = .hb ∨ type = .data ∨ type = .retrData ∨ type = .retrReq ∨ type = .discReq

instance (type : RastaConnType) : Decidable (IsRunningType type) :=
  inferInstanceAs (Decidable (_ ∨ _))

/-- None of the four checks tells the shifted situation from the original one. -/
def ChecksInvariant : Prop :=
  srSnRangeValid (shiftConnection con a b c) (shiftPacket packet a b c) =
      srSnRangeValid con packet ∧
    srSnInSeq (shiftConnection con a b c) (shiftPacket packet a b c) = srSnInSeq con packet ∧
    srCsValid (shiftConnection con a b c) (shiftPacket packet a b c) = srCsValid con packet ∧
    srCtsInSeq (shiftConnection con a b c) (shiftPacket packet a b c) = srCtsInSeq con packet

instance : Decidable (ChecksInvariant con packet a b c) :=
  inferInstanceAs (Decidable (_ ∧ _))

/-- The sequence number lies too far ahead anyway, or the way to it crosses the wrap-around
point both before and after the shift, or neither time. -/
def SnShiftHarmless : Prop :=
  con.config.sendMax.toNat * 10 < (packet.sequenceNumber - con.snR).toNat ∨
    (Crosses (con.snR + a) (packet.sequenceNumber - con.snR) ↔
      Crosses con.snR (packet.sequenceNumber - con.snR))

/-- The same for the confirmed sequence number, whose window ends at `sn_t`. -/
def CsShiftHarmless : Prop :=
  con.snT - con.csR ≤ packet.confirmedSequenceNumber - con.csR ∨
    (Crosses (con.csR + b) (packet.confirmedSequenceNumber - con.csR) ↔
      Crosses con.csR (packet.confirmedSequenceNumber - con.csR))

/-- Inside the time window the crossing decides; outside it, whether the stored timestamp is
the value 0 that switches the check off. -/
def CtsShiftHarmless : Prop :=
  if packet.confirmedTimestamp - con.ctsR < con.config.tMax then
    (Crosses (con.ctsR + c) (packet.confirmedTimestamp - con.ctsR) ↔
      Crosses con.ctsR (packet.confirmedTimestamp - con.ctsR))
  else con.ctsR + c = 0 ↔ con.ctsR = 0

/-- The packet types whose confirmed timestamp is checked. -/
def IsTimedType (type : RastaConnType) : Prop :=
  type = .hb ∨ type = .data ∨ type = .retrData

instance (type : RastaConnType) : Decidable (IsTimedType type) :=
  inferInstanceAs (Decidable (_ ∨ _))

variable {con packet a b c}

theorem srSnRangeValid_eq (h : IsRunningType packet.type) :
    srSnRangeValid con packet =
      (decide (¬ Crosses con.snR (packet.sequenceNumber - con.snR)) &&
        decide ((packet.sequenceNumber - con.snR).toNat ≤ con.config.sendMax.toNat * 10)) := by
  have hother : ¬ (packet.type = .connReq ∨ packet.type = .connResp ∨
      packet.type = .retrResp) := by
    rcases h with h | h | h | h | h <;> simp [h]
  rw [srSnRangeValid, if_neg hother]
  simp only [ge_iff_le, le_iff_not_crosses]

theorem srSnRangeValid_shift_iff (h : IsRunningType packet.type) :
    srSnRangeValid (shiftConnection con a b c) (shiftPacket packet a b c) =
      srSnRangeValid con packet ↔ SnShiftHarmless con packet a := by
  rw [@srSnRangeValid_eq _ (shiftPacket packet a b c) h, srSnRangeValid_eq h]
  simp only [shiftConnection, shiftPacket, shift_sub_shift, SnShiftHarmless]
  by_cases hfar : (packet.sequenceNumber - con.snR).toNat ≤ con.config.sendMax.toNat * 10
  · simp [hfar, Nat.not_lt.mpr hfar, decide_eq_decide]
  · simp [hfar, Nat.lt_of_not_le hfar]

theorem srSnInSeq_shift :
    srSnInSeq (shiftConnection con a b c) (shiftPacket packet a b c) =
      srSnInSeq con packet := by
  simp only [srSnInSeq, shiftConnection, shiftPacket, UInt32.add_left_inj]

theorem srCsValid_eq (h : IsRunningType packet.type) :
    srCsValid con packet =
      (decide (¬ Crosses con.csR (packet.confirmedSequenceNumber - con.csR)) &&
        decide (packet.confirmedSequenceNumber - con.csR < con.snT - con.csR)) := by
  have hreq : packet.type ≠ .connReq := by rcases h with h | h | h | h | h <;> simp [h]
  have hresp : packet.type ≠ .connResp := by rcases h with h | h | h | h | h <;> simp [h]
  rw [srCsValid, if_neg hreq, if_neg hresp]
  simp only [ge_iff_le, le_iff_not_crosses]

theorem srCsValid_shift_iff (h : IsRunningType packet.type) :
    srCsValid (shiftConnection con a b c) (shiftPacket packet a b c) =
      srCsValid con packet ↔ CsShiftHarmless con packet b := by
  rw [@srCsValid_eq _ (shiftPacket packet a b c) h, srCsValid_eq h]
  simp only [shiftConnection, shiftPacket, shift_sub_shift, CsShiftHarmless]
  by_cases hfar : packet.confirmedSequenceNumber - con.csR < con.snT - con.csR
  · simp [hfar, UInt32.not_le.mpr hfar, decide_eq_decide]
  · simp [hfar, UInt32.not_lt.mp hfar]

theorem srCtsInSeq_eq (h : IsTimedType packet.type) :
    srCtsInSeq con packet =
      if packet.confirmedTimestamp - con.ctsR < con.config.tMax then
        decide (¬ Crosses con.ctsR (packet.confirmedTimestamp - con.ctsR))
      else decide (con.ctsR = 0) := by
  have hchecked : packet.type = .hb ∨ packet.type = .data ∨ packet.type = .retrData := h
  rw [srCtsInSeq, if_pos hchecked]
  by_cases hzero : con.ctsR = 0
  · simp [hzero, not_crosses_zero]
  · simp only [hzero, if_false, lt_iff_crosses, decide_false]
    by_cases hcross : Crosses con.ctsR (packet.confirmedTimestamp - con.ctsR) <;>
      simp [hcross]

theorem srCtsInSeq_shift_iff (h : IsTimedType packet.type) :
    srCtsInSeq (shiftConnection con a b c) (shiftPacket packet a b c) =
      srCtsInSeq con packet ↔ CtsShiftHarmless con packet c := by
  rw [@srCtsInSeq_eq _ (shiftPacket packet a b c) h, srCtsInSeq_eq h]
  simp only [shiftConnection, shiftPacket, shift_sub_shift, CtsShiftHarmless]
  by_cases hnear : packet.confirmedTimestamp - con.ctsR < con.config.tMax
  · simp [hnear, decide_eq_decide]
  · simp only [if_neg hnear]
    exact decide_eq_decide

/-- The checks are invariant under a shift exactly when the shift moves none of the windows
that matter for the packet across the wrap-around point. -/
theorem checksInvariant_iff (h : IsRunningType packet.type) :
    ChecksInvariant con packet a b c ↔
      SnShiftHarmless con packet a ∧ CsShiftHarmless con packet b ∧
        (IsTimedType packet.type → CtsShiftHarmless con packet c) := by
  have hcts : srCtsInSeq (shiftConnection con a b c) (shiftPacket packet a b c) =
      srCtsInSeq con packet ↔ (IsTimedType packet.type → CtsShiftHarmless con packet c) := by
    by_cases htimed : IsTimedType packet.type
    · simp only [srCtsInSeq_shift_iff htimed, htimed, true_imp_iff]
    · have hother : ¬ (packet.type = .hb ∨ packet.type = .data ∨ packet.type = .retrData) :=
        htimed
      simp [htimed, srCtsInSeq, shiftPacket, hother]
  unfold ChecksInvariant
  rw [srSnRangeValid_shift_iff h, srCsValid_shift_iff h, hcts]
  simp only [srSnInSeq_shift, true_and]

end WrapAround

/-- A connection that expects sequence number 1 next and has sent up to 5. -/
def exampleRunning : Connection :=
  { rastaLibInitConfiguration exampleConfig (fun _ => 0) with
    currentState := .up, snR := 1, snT := 5, csR := 4, ctsR := 10 }

/-- A heartbeat that follows one lost PDU. -/
def exampleHeartbeat : RastaPacket :=
  { zeroPacket with
    type := .hb, sequenceNumber := 2, confirmedSequenceNumber := 4, confirmedTimestamp := 10 }

theorem checksInvariant_iff_unshifted :
    IsRunningType exampleHeartbeat.type ∧
      (ChecksInvariant exampleRunning exampleHeartbeat 7 8 9 ↔
        SnShiftHarmless exampleRunning exampleHeartbeat 7 ∧
          CsShiftHarmless exampleRunning exampleHeartbeat 8 ∧
          (IsTimedType exampleHeartbeat.type →
            CtsShiftHarmless exampleRunning exampleHeartbeat 9)) :=
  ⟨by decide, checksInvariant_iff (by decide)⟩

/-- With the receive number one below the wrap-around point, the heartbeat that follows a lost
PDU has number 0 and is out of range. -/
theorem not_checksInvariant_at_wrap :
    IsRunningType exampleHeartbeat.type ∧
      ¬ ChecksInvariant exampleRunning exampleHeartbeat 0xFFFFFFFE 0 0 := by
  decide +kernel

end LibRasta.Retransmission
