/-
Module: LibRasta/Retransmission/Emission.lean
source: src/c/redundancy/rasta_red_multiplexer.c, src/c/retransmission/messages.c, src/c/retransmission/handlers.c, src/c/transport/events.c
digest: The layer reaches the redundancy channel below it only by calls of redundancy_mux_send: whatever an endpoint does between two initialisations of the channel, its PDUs carry consecutive numbers of the channel and are encoded under its hashing context.
-/

import LibRasta.Redundancy.Pdu
import LibRasta.Retransmission.Conveyance
import LibRasta.Util.ErrorVariable

set_option autoImplicit false
set_option relaxedAutoImplicit false

namespace LibRasta.Retransmission

open LibRasta.Util
open LibRasta.Factory
open LibRasta.Redundancy

/-- Nothing was sent, and an error of the codec is not forgotten. -/
structure Unsent (before after : Connection) : Prop where
  sent : after.sent = before.sent
  seqTx : after.seqTx = before.seqTx
  hashingContext : after.hashingContext = before.hashingContext
  config : after.config = before.config
  lasterror : after.lasterror = .none → before.lasterror = .none

/-- One connection becomes the other by calls of `redundancy_mux_send` and silent steps. -/
inductive Emits (P : Platform) : Connection → Connection → Prop
  | unsent {before after : Connection} (h : Unsent before after) : Emits P before after
  | send (con : Connection) (data : RastaPacket) : Emits P con (redundancyMuxSend P con data)
  | trans {a b c : Connection} (hab : Emits P a b) (hbc : Emits P b c) : Emits P a c

/-- The PDU with number `n` of a channel, as `redundancy_mux_send` encodes it while no error is
pending. -/
structure EncodedAs (P : Platform) (ctx : RastaHashingContext) (crc : CrcOptions) (n : ℕ)
    (pdu : SentPdu) : Prop where
  dataToSend : pdu.dataToSend = pduBytes P ctx crc (UInt64.ofNat n).toUInt32 pdu.packet
  innerBytes : pdu.innerBytes = encodePdu P ctx pdu.packet
  header : 28 + ctx.checksumLen ≤ pdu.packet.length.toNat

theorem EncodedAs.whole {P : Platform} {ctx : RastaHashingContext} {crc : CrcOptions} {n : ℕ}
    {pdu : SentPdu} (h : EncodedAs P ctx crc n pdu) :
    28 + ctx.checksumLen ≤ pdu.innerBytes.length := by
  rw [h.innerBytes, length_encodePdu P h.header]
  exact h.header

/-- What was sent between two states of an endpoint, numbered from `first` on. -/
structure Emitted (P : Platform) (first : ℕ) (before after : Connection) : Prop where
  sent : before.sent <+: after.sent
  seqTx : after.seqTx = UInt64.ofNat (first + (newlySent before after).length)
  hashingContext : after.hashingContext = before.hashingContext
  config : after.config = before.config
  encoded : after.lasterror = .none → before.lasterror = .none ∧
    ∀ k pdu, (newlySent before after)[k]? = some pdu →
      EncodedAs P before.hashingContext before.config.crcType (first + k) pdu

section Composition

variable {P : Platform}

theorem Emits.refl (con : Connection) : Emits P con con :=
  .unsent ⟨rfl, rfl, rfl, rfl, id⟩

/-- A PDU that does not leave an error behind was encoded without one. -/
theorem redundancyMuxSend_clear {con : Connection} {data : RastaPacket}
    (h : (redundancyMuxSend P con data).lasterror = .none) :
    con.lasterror = .none ∧ 28 + con.hashingContext.checksumLen ≤ data.length.toNat := by
  have hcall := callStep_eq P con.lasterror (.rastaModuleToBytes data con.hashingContext)
  have hlast : (redundancyMuxSend P con data).lasterror =
      callStep P con.lasterror (.rastaModuleToBytes data con.hashingContext) := rfl
  rw [hlast, hcall] at h
  by_cases hshort : (CodecCall.rastaModuleToBytes data con.hashingContext).TooShort
  · rw [if_pos hshort] at h
    cases h
  · rw [if_neg hshort] at h
    exact ⟨h, Nat.le_of_not_lt hshort⟩

theorem ofNat_succ_seqTx (first : ℕ) : UInt64.ofNat first + 1 = UInt64.ofNat (first + 1) := by
  rw [UInt64.ofNat_add]
  rfl

theorem redundancyMuxSend_emitted {con : Connection} {first : ℕ}
    (hfirst : con.seqTx = UInt64.ofNat first) (data : RastaPacket) :
    Emitted P first con (redundancyMuxSend P con data) := by
  have hnew : newlySent con (redundancyMuxSend P con data) =
      [{ packet := data
         innerBytes := (rastaModuleToBytes P con.lasterror data con.hashingContext).1
         dataToSend := (rastaRedundancyPacketToBytes P con.lasterror
            (createRedundancyPacket con.seqTx.toUInt32 data con.config.crcType)
            con.hashingContext).1
         hashKey := con.hashingContext.key }] :=
    newlySent_eq rfl
  have hnext : (redundancyMuxSend P con data).seqTx = con.seqTx + 1 := rfl
  refine ⟨List.prefix_append _ _, ?_, rfl, rfl, fun hclear => ?_⟩
  · rw [hnext, hfirst, hnew, ofNat_succ_seqTx]
    rfl
  · obtain ⟨herror, hheader⟩ := redundancyMuxSend_clear hclear
    refine ⟨herror, fun k pdu hpdu => ?_⟩
    rw [hnew] at hpdu
    obtain ⟨rfl, rfl⟩ : k = 0 ∧ _ = pdu := by
      cases k with
      | zero => exact ⟨rfl, Option.some.inj hpdu⟩
      | succ k => cases hpdu
    refine ⟨?_, ?_, hheader⟩
    · simp only [herror, hfirst, pduBytes, Nat.add_zero]
    · simp only [herror, encodePdu]

theorem Emitted.trans {first : ℕ} {a b c : Connection} (hab : Emitted P first a b)
    (hbc : Emitted P (first + (newlySent a b).length) b c) : Emitted P first a c := by
  have hnew := newlySent_append hab.sent hbc.sent
  refine ⟨hab.sent.trans hbc.sent, ?_, hbc.hashingContext.trans hab.hashingContext,
    hbc.config.trans hab.config, fun hclear => ?_⟩
  · rw [hbc.seqTx, hnew, List.length_append, Nat.add_assoc]
  · obtain ⟨hmiddle, hlater⟩ := hbc.encoded hclear
    obtain ⟨hstart, hearlier⟩ := hab.encoded hmiddle
    refine ⟨hstart, fun k pdu hpdu => ?_⟩
    rw [hnew] at hpdu
    by_cases hk : k < (newlySent a b).length
    · rw [List.getElem?_append_left hk] at hpdu
      exact hearlier k pdu hpdu
    · rw [List.getElem?_append_right (Nat.le_of_not_lt hk)] at hpdu
      have hsecond := hlater _ pdu hpdu
      rw [hab.hashingContext, hab.config] at hsecond
      have hindex : first + (newlySent a b).length + (k - (newlySent a b).length) = first + k := by
        omega
      rwa [hindex] at hsecond

theorem Emits.emitted {before after : Connection} (h : Emits P before after) {first : ℕ}
    (hfirst : before.seqTx = UInt64.ofNat first) : Emitted P first before after := by
  induction h generalizing first with
  | @unsent before after h =>
    have hnone : newlySent before after = [] := newlySent_eq (by rw [h.sent, List.append_nil])
    refine ⟨by rw [h.sent], ?_, h.hashingContext, h.config, fun hclear => ⟨h.lasterror hclear, ?_⟩⟩
    · rw [h.seqTx, hfirst, hnone]
      rfl
    · rw [hnone]
      intro k pdu hpdu
      cases hpdu
  | send con data => exact redundancyMuxSend_emitted hfirst data
  | trans _ _ ihab ihbc =>
    have hfront := ihab hfirst
    exact hfront.trans (ihbc hfront.seqTx)

end Composition

section Sending

variable (P : Platform)

/-- The queues of outgoing messages do not matter, as long as no error is forgotten. -/
theorem setQueues_unsent (con : Connection) {fifoSend fifoRetransmission : Fifo Bytes}
    {lasterror : RastaErrorType} (h : lasterror = .none → con.lasterror = .none) :
    Unsent con (setQueues con fifoSend fifoRetransmission lasterror) :=
  ⟨rfl, rfl, rfl, rfl, h⟩

theorem rastaModuleToBytes_clear {lasterror : RastaErrorType} {packet : RastaPacket}
    {ctx : RastaHashingContext} (h : (rastaModuleToBytes P lasterror packet ctx).2 = .none) :
    lasterror = .none := by
  have hcall := callStep_eq P lasterror (.rastaModuleToBytes packet ctx)
  have hlast : callStep P lasterror (.rastaModuleToBytes packet ctx) = .none := h
  rw [hcall] at hlast
  split at hlast
  · cases hlast
  · exact hlast

theorem bytesToRastaPacket_clear {lasterror : RastaErrorType} {bytes : Bytes}
    {ctx : RastaHashingContext} {result : RastaPacket}
    (h : (bytesToRastaPacket P lasterror bytes ctx result).2 = .none) : lasterror = .none := by
  have hcall := callStep_eq P lasterror (.bytesToRastaPacket bytes ctx result)
  have hlast : callStep P lasterror (.bytesToRastaPacket bytes ctx result) = .none := h
  rw [hcall] at hlast
  split at hlast
  · cases hlast
  · exact hlast

theorem confirmedCount_clear {ctx : RastaHashingContext} {csR : UInt32} {items : List Bytes}
    {lasterror : RastaErrorType} (h : (confirmedCount P ctx csR items lasterror).2 = .none) :
    lasterror = .none := by
  induction items generalizing lasterror with
  | nil => exact h
  | cons element rest ih =>
    unfold confirmedCount at h
    simp only at h
    split at h
    · exact bytesToRastaPacket_clear P h
    · exact bytesToRastaPacket_clear P (ih h)

variable (con : Connection)

theorem tick_unsent : Unsent con (tick con) := ⟨rfl, rfl, rfl, rfl, id⟩

/-- Sending a numbered PDU. -/
theorem sendNumbered_emits (data : RastaPacket) :
    Emits P con (incrementSnT (redundancyMuxSend P (tick con) data)) := by
  have hcounted : Unsent (redundancyMuxSend P (tick con) data)
      (incrementSnT (redundancyMuxSend P (tick con) data)) :=
    ⟨rfl, rfl, rfl, rfl, id⟩
  exact ((Emits.unsent (tick_unsent con)).trans (.send _ data)).trans (.unsent hcounted)

theorem rescheduleHeartbeat_emits : Emits P con (rescheduleHeartbeat con) :=
  .unsent ⟨rfl, rfl, rfl, rfl, id⟩

theorem setState_emits (state : RastaSrState) : Emits P con (setState con state) :=
  .unsent ⟨rfl, rfl, rfl, rfl, id⟩

theorem srResetConnection_emits : Emits P con (srResetConnection con) :=
  .unsent ⟨rfl, rfl, rfl, rfl, id⟩

theorem setCsR_emits (packet : RastaPacket) : Emits P con (setCsR con packet) :=
  .unsent ⟨rfl, rfl, rfl, rfl, id⟩

theorem updateConnectionAttrs_emits (packet : RastaPacket) :
    Emits P con (updateConnectionAttrs con packet) :=
  .unsent ⟨rfl, rfl, rfl, rfl, id⟩

theorem updateKexAttrs_emits (packet : RastaPacket) : Emits P con (updateKexAttrs con packet) :=
  .unsent ⟨rfl, rfl, rfl, rfl, id⟩

theorem sendDisconnectionRequest_emits (reason : RastaDisconnectReason) (details : UInt16) :
    Emits P con (sendDisconnectionRequest P con reason details) :=
  (Emits.unsent (tick_unsent con)).trans (.send _ _)

theorem sendHeartbeat_emits (rescheduleManually : Bool) :
    Emits P con (sendHeartbeat P con rescheduleManually) := by
  cases rescheduleManually
  · exact sendNumbered_emits P con _
  · exact (sendNumbered_emits P con _).trans (rescheduleHeartbeat_emits P _)

theorem sendBatch_emits (n : ℕ) : Emits P con (sendBatch P con n) := by
  rw [sendBatch_eq]
  refine Emits.trans ?_ (rescheduleHeartbeat_emits P _)
  refine Emits.trans ?_ (sendNumbered_emits P _ _)
  exact .unsent (setQueues_unsent con fun hclear => rastaModuleToBytes_clear P hclear)

theorem dataSendEvent_emits : Emits P con (dataSendEvent P con) := by
  have hqueued : Emits P con (sendQueued P con) := by
    unfold sendQueued
    split
    · exact sendBatch_emits P con _
    · exact .refl con
  unfold dataSendEvent stopIdleSending
  split
  · exact hqueued.trans (.unsent ⟨rfl, rfl, rfl, rfl, id⟩)
  · exact hqueued

theorem srRemoveConfirmedMessages_emits : Emits P con (srRemoveConfirmedMessages P con) := by
  have hpopped : Emits P con (popConfirmed P con) := by
    rw [popConfirmed_eq]
    exact .unsent (setQueues_unsent con fun hclear => confirmedCount_clear P hclear)
  unfold srRemoveConfirmedMessages
  split
  · exact hpopped.trans (dataSendEvent_emits P _)
  · exact hpopped

theorem retransmitPacket_emits (element : Bytes) :
    Emits P con (retransmitPacket P con element) := by
  rw [retransmitPacket_eq]
  refine Emits.trans ?_ (rescheduleHeartbeat_emits P _)
  refine Emits.trans ?_ (sendNumbered_emits P _ _)
  exact .unsent (setQueues_unsent con fun hclear =>
    bytesToRastaPacket_clear P (rastaModuleToBytes_clear P hclear))

theorem srRetransmitData_emits : Emits P con (srRetransmitData P con) := by
  have hpackets : ∀ (packets : List Bytes) (c : Connection),
      Emits P c (packets.foldl (retransmitPacket P) c) := by
    intro packets
    induction packets with
    | nil => exact .refl
    | cons element rest ih =>
      intro c
      exact (retransmitPacket_emits P c element).trans (ih _)
  rw [srRetransmitData_eq]
  refine Emits.trans ?_ (sendHeartbeat_emits P _ true)
  exact (Emits.unsent (setQueues_unsent con id)).trans (hpackets _ _)

theorem answerRetrreq_emits : Emits P con (answerRetrreq P con) :=
  ((srRemoveConfirmedMessages_emits P con).trans (sendNumbered_emits P _ _)).trans
    (srRetransmitData_emits P _)

theorem srCloseConnection_emits (reason : RastaDisconnectReason) (details : UInt16) :
    Emits P con (srCloseConnection P con reason details) := by
  unfold srCloseConnection
  split
  · exact srResetConnection_emits P con
  · exact ((srResetConnection_emits P con).trans (sendDisconnectionRequest_emits P _ _ _)).trans
      (setState_emits P _ _)

theorem sendMessages_emits (messages : List Bytes) :
    Emits P con (sendMessages P messages con).1 := by
  induction messages generalizing con with
  | nil => exact .refl con
  | cons message rest ih =>
    have hflush : Emits P con (if fifoFull con.fifoSend then dataSendEvent P con else con) := by
      split
      · exact dataSendEvent_emits P con
      · exact .refl con
    unfold sendMessages
    generalize (if fifoFull con.fifoSend then dataSendEvent P con else con) = flushed at hflush ⊢
    simp only
    split
    · have hpush : Unsent flushed
          (enableSendEvent { flushed with fifoSend := (fifoPush flushed.fifoSend message).2 }) :=
        ⟨rfl, rfl, rfl, rfl, id⟩
      exact (hflush.trans (.unsent hpush)).trans (ih _)
    · exact hflush

theorem sendKexRequest_emits : Emits P con (sendKexRequest P con) := by
  obtain habort | ⟨base, request, hbase, -, -, -, hsend⟩ := sendKexRequest_cases P con
  · rw [habort]
    exact .unsent ⟨rfl, rfl, rfl, rfl, id⟩
  · have hcounted : Unsent con base := by
      obtain ⟨_, _, _, _, rfl⟩ := hbase
      exact ⟨rfl, rfl, rfl, rfl, id⟩
    have harmed : Unsent base (armRekeying base) := by
      unfold armRekeying
      split <;> exact ⟨rfl, rfl, rfl, rfl, id⟩
    have hended : ∀ c, Unsent c (setState (stampKeyExchange (incrementSnT c)) .kexResp) :=
      fun _ => ⟨rfl, rfl, rfl, rfl, id⟩
    rw [hsend]
    exact (((Emits.unsent hcounted).trans (.unsent harmed)).trans (.send _ request)).trans
      (.unsent (hended _))

end Sending

section Receiving

variable (P : Platform) {con base after : Connection} {packet : RastaPacket}

theorem Counted.emits (h : Counted con base) : Emits P con base := by
  obtain ⟨_, _, _, _, rfl⟩ := h
  exact .unsent ⟨rfl, rfl, rfl, rfl, id⟩

theorem DeliveryFrame.emits (h : DeliveryFrame con after) : Emits P con after := by
  have hrest := h.rest
  rw [hrest]
  exact .unsent ⟨rfl, rfl, rfl, rfl, id⟩

theorem rejectStartHb_emits (con : Connection) (packet : RastaPacket) :
    Emits P con (rejectStartHb P con packet) :=
  rejectStartHb_related P Emits.refl (fun _ _ _ hab hbc => hab.trans hbc)
    (fun c reason => srCloseConnection_emits P c reason 0) con packet

theorem prepareServer_emits (con : Connection) : Emits P con (prepareServer P con) := by
  unfold prepareServer srInitConnection
  cases P.enableOpaque
  · exact .unsent ⟨rfl, rfl, rfl, rfl, id⟩
  · exact .unsent ⟨rfl, rfl, rfl, rfl, id⟩

theorem acceptConreq_emits (con : Connection) (packet : RastaPacket) :
    Emits P con (acceptConreq P con packet) := by
  have hset : ∀ (c : Connection) (size : Int) (t : UInt32),
      Unsent c { c with connectedRecvBufferSize := size, tI := t } := fun _ _ _ =>
    ⟨rfl, rfl, rfl, rfl, id⟩
  have hstarted : ∀ c, Unsent c (setState (incrementSnT (tick c)) .start) := fun _ =>
    ⟨rfl, rfl, rfl, rfl, id⟩
  have hnoted : Emits P con (noteConreq P con packet) :=
    (updateKexAttrs_emits P con packet).trans (.unsent (hset _ _ _))
  rw [acceptConreq_eq]
  exact (hnoted.trans (.unsent (hstarted _))).trans (.send _ _)

theorem acceptConresp_emits (con : Connection) (packet : RastaPacket) :
    Emits P con (acceptConresp P con packet) := by
  have hupdated := ((updateConnectionAttrs_emits P con packet).trans
    (setCsR_emits P _ packet)).trans (setState_emits P _ .up)
  have hanswer : Emits P con (answerConresp P con packet) :=
    hupdated.trans (sendHeartbeat_emits P _ true)
  have hstarted : Emits P con (startKeyExchange P (answerConresp P con packet)) := by
    unfold startKeyExchange
    split
    · exact hanswer.trans (sendKexRequest_emits P _)
    · exact hanswer
  have hsupervised : ∀ c, Emits P c (superviseConnection P c packet) := by
    intro c
    unfold superviseConnection
    split
    · exact .refl c
    · exact .unsent ⟨rfl, rfl, rfl, rfl, id⟩
  exact hstarted.trans (hsupervised _)

theorem answerKex_emits (hbase : Counted con base) (response : RastaPacket)
    (state : RastaSrState) :
    Emits P con (setSessionKey (setState (srRemoveConfirmedMessages P
      (updateKexAttrs (incrementSnT (redundancyMuxSend P base response)) packet)) state)) := by
  have hanswered : Unsent (redundancyMuxSend P base response)
      (updateKexAttrs (incrementSnT (redundancyMuxSend P base response)) packet) :=
    ⟨rfl, rfl, rfl, rfl, id⟩
  have hsent := ((hbase.emits P).trans (.send base response)).trans (.unsent hanswered)
  have hremoved := hsent.trans (srRemoveConfirmedMessages_emits P _)
  exact hremoved.trans (.unsent ⟨rfl, rfl, rfl, rfl, id⟩)

theorem acceptHb_emits (con : Connection) (packet : RastaPacket) :
    Emits P con (acceptHb P con packet) := by
  have htimed := (srUpdateTimeoutInterval_frame P con packet.confirmedTimestamp).emits P
  have hupdated := (htimed.trans ((srDiagnosticUpdate_frame P _ packet).emits P)).trans
    (updateKexAttrs_emits P _ packet)
  have hremoved := hupdated.trans (srRemoveConfirmedMessages_emits P _)
  unfold acceptHb
  simp only
  split
  · exact hremoved.trans (setState_emits P _ .up)
  · exact hremoved

theorem handleRetrreq_emits (con : Connection) (packet : RastaPacket) :
    Emits P con (handleRetrreq P con packet).1 := by
  have hclosed : Emits P con
      (if con.currentState = .retrRun then srCloseConnection P con .retrFailed 0 else con) := by
    split
    · exact srCloseConnection_emits P con _ _
    · exact .refl con
  unfold handleRetrreq
  simp only
  split
  · exact ((hclosed.trans (updateConnectionAttrs_emits P _ packet)).trans
      (setCsR_emits P _ packet)).trans (answerRetrreq_emits P _)
  · exact ((setCsR_emits P con packet).trans (answerRetrreq_emits P _)).trans
      (setState_emits P _ .retrReq)

theorem establishByHb_unsent (con : Connection) (packet : RastaPacket) :
    Unsent con (establishByHb con packet) := by
  rw [establishByHb_eq]
  exact ⟨rfl, rfl, rfl, rfl, id⟩

/-- Whatever packet is received. -/
theorem Received.emits (h : Received P con packet after) : Emits P con after := by
  cases h with
  | ignored hbase => exact hbase.emits P
  | closed hbase reason => exact (hbase.emits P).trans (srCloseConnection_emits P _ _ _)
  | discReq hbase =>
    exact ((hbase.emits P).trans (setState_emits P _ _)).trans (srResetConnection_emits P _)
  | @data base hbase =>
    have hadded := (hbase.emits P).trans ((srAddAppMessagesToBuffer_frame P base packet).emits P)
    exact (hadded.trans (updateKexAttrs_emits P _ packet)).trans
      (srRemoveConfirmedMessages_emits P _)
  | dataDropped hbase => exact (hbase.emits P).trans (updateConnectionAttrs_emits P _ packet)
  | @retransmissionRequested base hbase =>
    exact ((hbase.emits P).trans (sendNumbered_emits P base _)).trans (setState_emits P _ _)
  | heartbeatGap hbase => exact (hbase.emits P).trans (setState_emits P _ _)
  | @retrReqInSeq base hbase => exact (hbase.emits P).trans (handleRetrreq_emits P base packet)
  | @retrReqOutOfSeq base hbase =>
    exact (((hbase.emits P).trans (setCsR_emits P base packet)).trans
      (answerRetrreq_emits P _)).trans (setState_emits P _ _)
  | retrResp hbase =>
    exact ((hbase.emits P).trans (setState_emits P _ .retrRun)).trans
      (updateKexAttrs_emits P _ packet)
  | @retrData base hbase =>
    have hadded := (hbase.emits P).trans ((srAddAppMessagesToBuffer_frame P base packet).emits P)
    exact (hadded.trans (updateConnectionAttrs_emits P _ packet)).trans (setCsR_emits P _ packet)
  | @heartbeatStart base hbase =>
    exact ((hbase.emits P).trans (rejectStartHb_emits P base packet)).trans
      (.unsent (establishByHb_unsent _ packet))
  | @heartbeatLate base hbase =>
    exact ((hbase.emits P).trans (rejectStartHb_emits P base packet)).trans
      (srCloseConnection_emits P _ _ _)
  | @heartbeat base hbase => exact (hbase.emits P).trans (acceptHb_emits P base packet)
  | conreqRefused =>
    exact (prepareServer_emits P con).trans (srCloseConnection_emits P _ _ _)
  | conreqAccepted =>
    exact (prepareServer_emits P con).trans (acceptConreq_emits P _ packet)
  | conrespAccepted => exact acceptConresp_emits P con packet
  | @aborted base hbase =>
    have haborted : Unsent base (abort base) := ⟨rfl, rfl, rfl, rfl, id⟩
    exact (hbase.emits P).trans (.unsent haborted)
  | kexRequest hbase _ _ _ _ response => exact answerKex_emits P hbase response .kexAuth
  | kexResponse hbase _ _ _ _ response => exact answerKex_emits P hbase response .up
  | @kexAuth base hbase =>
    exact (((hbase.emits P).trans (updateKexAttrs_emits P base packet)).trans
      (srRemoveConfirmedMessages_emits P _)).trans (setState_emits P _ _)

end Receiving

section Steps

variable (P : Platform)

/-- The events that initialise the redundancy channel. -/
def StartsChannel : Event → Prop
  | .connect _ | .accept => True
  | _ => False

instance : (event : Event) → Decidable (StartsChannel event)
  | .connect _ | .accept => inferInstanceAs (Decidable True)
  | .receive _ | .dataSend | .heartbeat | .connectionExpired | .timedKeyExchange | .send _
  | .connectReturn | .disconnect | .transportClosed | .recv | .acceptReturn =>
    inferInstanceAs (Decidable False)

theorem openSession_emits (con : Connection) : Emits P con (openSession P con) := by
  have hprepared : ∀ now, Unsent con (tick (prepareClient P con now)) := by
    intro now
    unfold prepareClient srInitConnection
    cases P.enableOpaque
    · exact ⟨rfl, rfl, rfl, rfl, id⟩
    · exact ⟨rfl, rfl, rfl, rfl, id⟩
  have htimer : ∀ c : Connection, Unsent c
      (tick { setState c .start with
        handshakeTimeoutEvent :=
          (setState c .start).handshakeTimeoutEvent.enable (setState c .start) }) :=
    fun c => ⟨rfl, rfl, rfl, rfl, id⟩
  rw [openSession_eq]
  exact ((Emits.unsent (hprepared _)).trans (sendNumbered_emits P _ _)).trans
    (.unsent (htimer _))

theorem eventConnectionExpired_emits (con : Connection) :
    Emits P con (eventConnectionExpired P con) := by
  have hdisabled : ∀ c : Connection, Unsent c
      { c with
        sendHeartbeatEvent := c.sendHeartbeatEvent.disable
        timeoutEvent := c.timeoutEvent.disable } :=
    fun c => ⟨rfl, rfl, rfl, rfl, id⟩
  unfold eventConnectionExpired
  simp only
  split
  · exact .refl con
  split
  · exact (srCloseConnection_emits P con _ _).trans (.unsent (hdisabled _))
  · exact .unsent (hdisabled con)

theorem sendTimedKeyExchange_emits (con : Connection) :
    Emits P con (sendTimedKeyExchange P con) := by
  have hrescheduled : ∀ c, Unsent c (rescheduleRekeying c) := by
    intro c
    unfold rescheduleRekeying
    split
    · exact ⟨rfl, rfl, rfl, rfl, id⟩
    · exact ⟨rfl, rfl, rfl, rfl, id⟩
  unfold sendTimedKeyExchange
  split
  · exact (sendKexRequest_emits P con).trans (.unsent (hrescheduled _))
  · exact .refl con

theorem srSend_emits (con : Connection) (messages : List Bytes) :
    Emits P con (srSend P con messages).1 := by
  have hrefused : Emits P con
      (setState (sendDisconnectionRequest P con .serviceNotAllowed 0) .closed) :=
    (sendDisconnectionRequest_emits P con _ _).trans (setState_emits P _ _)
  unfold srSend
  cases con.currentState with
  | up =>
    simp only
    split
    · exact .refl con
    · exact sendMessages_emits P con messages
  | closed => exact setState_emits P con .closed
  | down => exact setState_emits P con .closed
  | start => exact hrefused
  | kexReq => exact hrefused
  | kexResp => exact hrefused
  | kexAuth => exact hrefused
  | retrReq => exact hrefused
  | retrRun => exact hrefused

theorem srDisconnect_emits (con : Connection) : Emits P con (srDisconnect P con) := by
  unfold srDisconnect
  have hclosed := srCloseConnection_emits P con .userRequest 0
  generalize srCloseConnection P con .userRequest 0 = closed at hclosed
  exact hclosed.trans (.unsent ⟨rfl, rfl, rfl, rfl, id⟩)

/-- An event that does not initialise the channel reaches it by `redundancy_mux_send` only. -/
theorem endpointStep_emits (con : Connection) {event : Event} (h : ¬ StartsChannel event) :
    Emits P con (endpointStep P con event) := by
  unfold endpointStep
  split
  · exact .refl con
  cases event with
  | receive packet => exact (srReceive_received P con packet).emits P
  | dataSend =>
    simp only
    split
    · exact dataSendEvent_emits P con
    · exact .refl con
  | heartbeat =>
    simp only
    unfold heartbeatSendEvent
    split
    · split
      · exact .refl con
      · split
        · exact sendHeartbeat_emits P con false
        · exact .refl con
    · exact .refl con
  | connectionExpired =>
    simp only
    split
    · exact eventConnectionExpired_emits P con
    · exact .refl con
  | timedKeyExchange =>
    simp only
    split
    · exact sendTimedKeyExchange_emits P con
    · exact .refl con
  | send messages => exact srSend_emits P con messages
  | connect transportOk => exact absurd trivial h
  | connectReturn => exact .unsent ⟨rfl, rfl, rfl, rfl, id⟩
  | disconnect => exact srDisconnect_emits P con
  | transportClosed => exact (setState_emits P con .closed).trans (srResetConnection_emits P _)
  | recv =>
    simp only
    unfold rastaRecv
    split
    · exact .unsent ⟨rfl, rfl, rfl, rfl, id⟩
    · exact .refl con
  | accept => exact absurd trivial h
  | acceptReturn => exact .unsent ⟨rfl, rfl, rfl, rfl, id⟩

end Steps

end LibRasta.Retransmission
