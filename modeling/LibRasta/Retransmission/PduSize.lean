/-
Module: LibRasta/Retransmission/PduSize.lean
source: src/c/rastafactory.c, src/c/transport/events.c, src/c/redundancy/rastaredundancy.h
digest: The length fields of the Data PDUs an established connection builds, and exactly when they are right and a receiver reads the whole PDU.
-/

import LibRasta.Retransmission.Pipeline

set_option autoImplicit false
set_option relaxedAutoImplicit false

namespace LibRasta.Retransmission

open LibRasta.Lib
open LibRasta.Util
open LibRasta.Factory

/-- `MAX_DEFER_QUEUE_MSG_SIZE`, the most bytes `receive_callback` reads of a PDU. -/
def maxDeferQueueMsgSize : ℕ := 1000

section Statement

variable (P : Platform)

/-- No length of the Data PDU was cut: the lengths of the data array, of the packet and of the
redundancy layer PDU are those of the messages, every length field is that of its message, the
data array has room for all that is written to it, and a receiver reads the PDU whole. -/
structure ExactPdu (con : Connection) (pdu : SentPdu) : Prop where
  dataLength : pdu.packet.data.length =
    ((batchOf con).map fun message => message.length + 2).sum
  packetLength : pdu.packet.length.toNat =
    28 + 8 * con.srHashingContext.hashLength.toNat + pdu.packet.data.length
  redundancyLength : pdu.dataToSend.length =
    8 + pdu.packet.length.toNat + con.config.crcType.width.toNat / 8
  lengthFields : ∀ front message back, batchOf con = front ++ message :: back →
    (leShortToHost P pdu.packet.data (messageStream front).length).toNat = message.length
  writes : ∀ i ∈ fillWrites 0 (batchOf con), i < pdu.packet.data.length
  received : pdu.dataToSend.length ≤ maxDeferQueueMsgSize

/-- The size of the PDU for the messages a firing takes. -/
def pduSize (con : Connection) : ℕ :=
  8 + (28 + 8 * con.srHashingContext.hashLength.toNat +
    ((batchOf con).map fun message => message.length + 2).sum) + con.config.crcType.width.toNat / 8

end Statement

section Exactness

variable {P : Platform} {con : Connection} {pdu : SentPdu}

theorem length_rastaRedundancyPacketToBytes (lasterror : RastaErrorType)
    (packet : RastaRedundancyPacket) (ctx : RastaHashingContext) :
    (rastaRedundancyPacketToBytes P lasterror packet ctx).1.length = packet.length.toNat := by
  simp only [rastaRedundancyPacketToBytes, length_store, allocateRastaByteArray,
    List.length_replicate]

/-- What a firing builds from its batch, whatever the lengths. -/
structure Built (P : Platform) (con : Connection) (pdu : SentPdu) : Prop where
  packet : pdu.packet = createDataMessage P (nextHeader con) (batchOf con) con.srHashingContext
  dataToSend : pdu.dataToSend.length =
    (UInt16.ofNat (8 + pdu.packet.length.toNat + con.config.crcType.crcLen)).toNat

theorem newlySent_dataSendEvent (con : Connection) :
    (sendBacklogSize con = 0 ∧ newlySent con (dataSendEvent P con) = []) ∨
      0 < sendBacklogSize con ∧ ∃ pdu, newlySent con (dataSendEvent P con) = [pdu] ∧
        Built P con pdu := by
  by_cases hbacklog : 0 < sendBacklogSize con
  · refine .inr ⟨hbacklog, ?_⟩
    have hsame := stopIdleSending_same (sendBatch P con (takenCount con))
    rw [dataSendEvent_of_backlog hbacklog]
    refine ⟨_, newlySent_eq (hsame.sent.trans rfl), rfl, ?_⟩
    exact length_rastaRedundancyPacketToBytes _ _ _
  · refine .inl ⟨by omega, ?_⟩
    rw [dataSendEvent_of_idle (by omega)]
    exact newlySent_eq ((stopIdleSending_same con).sent.trans (List.append_nil _).symm)

theorem pduSize_eq (con : Connection) :
    pduSize con = 36 + con.srHashingContext.checksumLen + (messageStream (batchOf con)).length +
      con.config.crcType.crcLen := by
  rw [pduSize, sum_record_lengths, RastaHashingContext.checksumLen, CrcOptions.crcLen]
  omega

/-- The lengths of the PDU are exact and within the limit of the receiver exactly when the PDU is
small enough. -/
theorem Built.exact_iff (h : Built P con pdu) :
    ExactPdu P con pdu ↔ pduSize con ≤ maxDeferQueueMsgSize := by
  have hsize := pduSize_eq con
  constructor
  · intro hexact
    have htotal := hexact.redundancyLength
    rw [hexact.packetLength, hexact.dataLength] at htotal
    have hle := hexact.received
    rw [htotal] at hle
    exact hle
  · intro hle
    have hlimit : pduSize con ≤ 1000 := hle
    have hfits : MessagesFit con.srHashingContext (batchOf con) := by
      unfold MessagesFit
      omega
    have hdata : pdu.packet.data = messageStream (batchOf con) := by
      rw [h.packet]
      exact createDataMessage_data P hfits
    have hlength : pdu.packet.length.toNat =
        28 + con.srHashingContext.checksumLen + pdu.packet.data.length := by
      rw [h.packet]
      exact createDataMessage_wellFormed P hfits
    have hsent : pdu.dataToSend.length =
        8 + pdu.packet.length.toNat + con.config.crcType.crcLen := by
      rw [h.dataToSend, UInt16.toNat_ofNat', hlength, hdata]
      omega
    refine ⟨?_, ?_, hsent, ?_, ?_, ?_⟩
    · rw [hdata, sum_record_lengths]
    · rw [hlength, RastaHashingContext.checksumLen, Nat.mul_comm 8]
    · intro front message back hbatch
      have hmessage : message.length < 2 ^ 16 := by
        have hle := @message_length_le_stream (batchOf con) message (by simp [hbatch])
        omega
      rw [hdata, hbatch, messageStream_append, messageStream_cons, leShortToHost_append,
        UInt16.toNat_ofNat', Nat.mod_eq_of_lt hmessage]
    · intro i hi
      have hlt := fillWrites_lt (batchOf con) 0 i hi
      rw [hdata]
      omega
    · rw [hsent, hlength, hdata]
      show _ ≤ 1000
      omega

end Exactness

section Runs

variable {P : Platform} {con : Connection}

theorem newlySent_of_not_fire (con : Connection) {action : Action} (h : action ≠ .fire) :
    newlySent con (actionStep P con action) = [] := by
  cases action with
  | fire => exact absurd rfl h
  | push message => exact newlySent_eq (List.append_nil _).symm
  | pop csR => exact newlySent_eq (List.append_nil _).symm

theorem actionStep_sent (con : Connection) (action : Action) :
    con.sent <+: (actionStep P con action).sent := by
  cases action with
  | fire => exact (dataSendEvent_frame P con).sent
  | push message => exact List.prefix_rfl
  | pop csR => exact List.prefix_rfl

/-- All PDUs of a list of actions come from its firings. -/
theorem newlySent_actions (actions : List Action) (con : Connection) :
    con.sent <+: (run (actionStep P) con actions).sent ∧
      newlySent con (run (actionStep P) con actions) =
        ((trace (actionStep P) con actions).filter fun t =>
          match t.event with
          | .fire => true
          | _ => false).flatMap fun t => newlySent t.before t.after := by
  induction actions generalizing con with
  | nil => exact ⟨List.prefix_rfl, newlySent_eq (List.append_nil _).symm⟩
  | cons action rest ih =>
    obtain ⟨hfront, hsent⟩ := ih (actionStep P con action)
    have hfirst := @actionStep_sent P con action
    refine ⟨hfirst.trans hfront, ?_⟩
    rw [run_cons, newlySent_append hfirst hfront, hsent, trace]
    by_cases hfire : action = .fire
    · subst hfire
      rfl
    · rw [newlySent_of_not_fire con hfire, List.nil_append, List.filter_cons_of_neg]
      cases action with
      | fire => exact absurd rfl hfire
      | push message => exact Bool.false_ne_true
      | pop csR => exact Bool.false_ne_true

end Runs

/-- In every run of an established connection, all PDUs come from calls of `data_send_event`,
and their lengths are exact just when each of them is small enough for the receiver. -/
theorem pipeline_pdus_exact_iff (P : Platform) {start : Connection}
    (hstate : start.currentState = .up) (events : List PipelineEvent) :
    newlySent start (run (pipelineStep P) start events) =
        (firings P start events).flatMap (fun firing => newlySent firing.before firing.after) ∧
      ((∀ firing ∈ firings P start events, ∀ pdu ∈ newlySent firing.before firing.after,
          ExactPdu P firing.before pdu) ↔
        ∀ firing ∈ firings P start events, 0 < sendBacklogSize firing.before →
          pduSize firing.before ≤ maxDeferQueueMsgSize) := by
  refine ⟨?_, ?_⟩
  · rw [← (run_runActions hstate events).1]
    exact (newlySent_actions _ start).2
  · refine forall_congr' fun firing => imp_congr_right fun hfiring => ?_
    obtain ⟨hmem, hfire⟩ := List.mem_filter.mp hfiring
    obtain ⟨_, _, -, -, hafter⟩ := mem_trace (actionStep P) hmem
    have hevent : firing.event = .fire := by
      cases hevent : firing.event with
      | fire => rfl
      | push message => simp [hevent] at hfire
      | pop csR => simp [hevent] at hfire
    rw [hevent] at hafter
    have hstep : firing.after = dataSendEvent P firing.before := hafter
    rw [hstep]
    rcases @newlySent_dataSendEvent P firing.before with ⟨hidle, hnone⟩ | ⟨hbacklog, pdu, hone, hbuilt⟩
    · rw [hnone, hidle]
      simp
    · rw [hone]
      simp only [List.mem_singleton, forall_eq, hbacklog, true_imp_iff]
      exact hbuilt.exact_iff

/-- Two batches that fit, the second with an empty message. -/
theorem pipeline_pdus_exact_iff_small :
    let events : List PipelineEvent := [.send [[0x61], [0x62, 0x63]], .dataSend, .send [[]],
      .dataSend]
    ∀ firing ∈ firings referencePlatform exampleRunning events,
      ∀ pdu ∈ newlySent firing.before firing.after,
        ExactPdu referencePlatform firing.before pdu :=
  (@pipeline_pdus_exact_iff referencePlatform exampleRunning rfl _).2.mpr (by decide +kernel)

section Overlong

variable {P : Platform} {con : Connection}

theorem Unladen.accepts (h : Unladen con) (message : Bytes) :
    (srSend P con [message]).2 = true := by
  have hfull := h.not_full
  have hone : ¬ ([message] : List Bytes).length > con.config.maxPacket.toNat :=
    Nat.not_lt.mpr h.maxPacket
  simp only [srSend, h.state, if_neg hone, sendMessages, if_neg hfull, (h.pushed message).1,
    if_true]

theorem Unladen.batchOf (h : Unladen con) (message : Bytes) :
    batchOf (pushMessage con message) = [message] := by
  have hitems : (pushMessage con message).fifoSend.items = [message] := (h.pushed message).2.1
  have hbacklog : 0 < sendBacklogSize (pushMessage con message) := by
    have hroom : fifoGetSize (pushMessage con message).fifoRetransmission <
        (pushMessage con message).config.maxRetransmissionQueueSize.toNat := h.retransmission
    have hsize : fifoGetSize (pushMessage con message).fifoSend = 1 := by
      rw [fifoGetSize, hitems]
      rfl
    simp only [sendBacklogSize, if_pos hroom, hsize]
    omega
  have hpacket : 0 < (pushMessage con message).config.maxPacket.toNat := h.maxPacket
  rw [LibRasta.Retransmission.batchOf, hitems, takenCount]
  exact List.take_of_length_le (by simp only [List.length_singleton]; omega)

/-- `sr_send` returns 0 for a message of 65536 bytes, and the data array of its PDU has the 2
bytes that 16 bits keep of 65538. -/
theorem overlong_message_not_exact :
    (srSend referencePlatform exampleRunning [List.replicate (2 ^ 16) 0]).2 = true ∧
      ∃ firing ∈ firings referencePlatform exampleRunning (sendOne (List.replicate (2 ^ 16) 0)),
        ∃ pdu ∈ newlySent firing.before firing.after,
          pdu.packet.data.length = 2 ∧ ¬ ExactPdu referencePlatform firing.before pdu := by
  obtain ⟨-, -, hfirings⟩ := @Unladen.run_sendOne referencePlatform exampleRunning
    exampleRunning_unladen (List.replicate (2 ^ 16) 0)
  have hcut := @Unladen.fire_overlong referencePlatform exampleRunning exampleRunning_unladen []
    (List.replicate (2 ^ 16) 0) (by decide) List.length_replicate
  rw [List.nil_append] at hcut
  have hbatch := exampleRunning_unladen.batchOf (List.replicate (2 ^ 16) 0)
  have hsent : ∃ pdu ∈ newlySent exampleRunning
      (dataSendEvent referencePlatform (pushMessage exampleRunning [])),
      pdu.packet.data.length = 2 := by
    decide +kernel
  obtain ⟨pdu, hpdu, hlength⟩ := hsent
  refine ⟨exampleRunning_unladen.accepts _, ?_⟩
  rw [hfirings]
  refine ⟨_, List.mem_singleton.mpr rfl, pdu, ?_, hlength, ?_⟩
  · simp only [hcut]
    exact hpdu
  · intro hexact
    have hdata := hexact.dataLength
    simp only [hbatch, hlength, List.map_cons, List.map_nil, List.sum_cons, List.sum_nil,
      List.length_replicate] at hdata
    exact absurd hdata (by decide)

end Overlong

end LibRasta.Retransmission
