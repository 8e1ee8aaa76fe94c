/-
Module: LibRasta/Retransmission/Constants.lean
source: src/c/retransmission/safety_retransmission.c, src/c/retransmission/handlers.c, src/c/transport/events.c, src/c/util/fifo.c
digest: What the configuration fixes for good: identifiers, capacities of the queues, parameters of the safety code and the interval of the supervision are the same in every reachable connection.
-/

import LibRasta.Retransmission.Transitions

set_option autoImplicit false
set_option relaxedAutoImplicit false

namespace LibRasta.Retransmission

open LibRasta.Lib
open LibRasta.Util
open LibRasta.Factory

/-- All PDUs were sent under the key of the redundancy channel. -/
def Coded (con : Connection) : Prop := ∀ pdu ∈ con.sent, pdu.hashKey = con.hashingContext.key

/-- What no function of the layer writes. -/
structure Fixed (before after : Connection) : Prop where
  config : after.config = before.config
  myId : after.myId = before.myId
  remoteId : after.remoteId = before.remoteId
  hashingContext : after.hashingContext = before.hashingContext
  srAlgorithm : after.srHashingContext.algorithm = before.srHashingContext.algorithm
  srHashLength : after.srHashingContext.hashLength = before.srHashingContext.hashLength
  fifoSend : after.fifoSend.maxSize = before.fifoSend.maxSize
  fifoReceive : after.fifoReceive.maxSize = before.fifoReceive.maxSize
  fifoRetransmission : after.fifoRetransmission.maxSize = before.fifoRetransmission.maxSize
  clock : after.clock = before.clock
  timeoutInterval : after.timeoutEvent.interval = before.timeoutEvent.interval
  coded : Coded before → Coded after

theorem Fixed.refl (con : Connection) : Fixed con con :=
  ⟨rfl, rfl, rfl, rfl, rfl, rfl, rfl, rfl, rfl, rfl, rfl, id⟩

theorem Fixed.trans {a b c : Connection} (hab : Fixed a b) (hbc : Fixed b c) : Fixed a c where
  config := hbc.config.trans hab.config
  myId := hbc.myId.trans hab.myId
  remoteId := hbc.remoteId.trans hab.remoteId
  hashingContext := hbc.hashingContext.trans hab.hashingContext
  srAlgorithm := hbc.srAlgorithm.trans hab.srAlgorithm
  srHashLength := hbc.srHashLength.trans hab.srHashLength
  fifoSend := hbc.fifoSend.trans hab.fifoSend
  fifoReceive := hbc.fifoReceive.trans hab.fifoReceive
  fifoRetransmission := hbc.fifoRetransmission.trans hab.fifoRetransmission
  clock := hbc.clock.trans hab.clock
  timeoutInterval := hbc.timeoutInterval.trans hab.timeoutInterval
  coded := hbc.coded ∘ hab.coded

section Updates

variable (P : Platform) (con : Connection) (packet : RastaPacket)

theorem tick_fixed : Fixed con (tick con) :=
  ⟨rfl, rfl, rfl, rfl, rfl, rfl, rfl, rfl, rfl, rfl, rfl, id⟩

theorem rescheduleHeartbeat_fixed : Fixed con (rescheduleHeartbeat con) :=
  ⟨rfl, rfl, rfl, rfl, rfl, rfl, rfl, rfl, rfl, rfl, rfl, id⟩

theorem setState_fixed (state : RastaSrState) : Fixed con (setState con state) :=
  ⟨rfl, rfl, rfl, rfl, rfl, rfl, rfl, rfl, rfl, rfl, rfl, id⟩

theorem setCsR_fixed : Fixed con (setCsR con packet) :=
  ⟨rfl, rfl, rfl, rfl, rfl, rfl, rfl, rfl, rfl, rfl, rfl, id⟩

theorem updateConnectionAttrs_fixed : Fixed con (updateConnectionAttrs con packet) :=
  ⟨rfl, rfl, rfl, rfl, rfl, rfl, rfl, rfl, rfl, rfl, rfl, id⟩

theorem updateKexAttrs_fixed : Fixed con (updateKexAttrs con packet) :=
  ⟨rfl, rfl, rfl, rfl, rfl, rfl, rfl, rfl, rfl, rfl, rfl, id⟩

theorem srResetConnection_fixed : Fixed con (srResetConnection con) :=
  ⟨rfl, rfl, rfl, rfl, rfl, rfl, rfl, rfl, rfl, rfl, rfl, id⟩

theorem redundancyMuxSend_coded (h : Coded con) : Coded (redundancyMuxSend P con packet) := by
  intro pdu hpdu
  rcases List.mem_append.mp hpdu with hold | hnew
  · exact h pdu hold
  · rw [List.mem_singleton.mp hnew]
    rfl

theorem redundancyMuxSend_fixed : Fixed con (redundancyMuxSend P con packet) :=
  ⟨rfl, rfl, rfl, rfl, rfl, rfl, rfl, rfl, rfl, rfl, rfl, redundancyMuxSend_coded P con packet⟩

theorem incrementSnT_fixed : Fixed con (incrementSnT con) :=
  ⟨rfl, rfl, rfl, rfl, rfl, rfl, rfl, rfl, rfl, rfl, rfl, id⟩

theorem setSessionKey_fixed : Fixed con (setSessionKey con) :=
  ⟨rfl, rfl, rfl, rfl, rfl, rfl, rfl, rfl, rfl, rfl, rfl, id⟩

theorem stampKeyExchange_fixed : Fixed con (stampKeyExchange con) :=
  ⟨rfl, rfl, rfl, rfl, rfl, rfl, rfl, rfl, rfl, rfl, rfl, id⟩

theorem armRekeying_fixed : Fixed con (armRekeying con) := by
  unfold armRekeying
  split
  · exact ⟨rfl, rfl, rfl, rfl, rfl, rfl, rfl, rfl, rfl, rfl, rfl, id⟩
  · exact ⟨rfl, rfl, rfl, rfl, rfl, rfl, rfl, rfl, rfl, rfl, rfl, id⟩

end Updates

section Queues

variable (P : Platform)

/-- The connection with new queues of outgoing messages and a new error variable. -/
def setQueues (con : Connection) (fifoSend fifoRetransmission : Fifo Bytes)
    (lasterror : RastaErrorType) : Connection :=
  { con with
    fifoSend := fifoSend
    fifoRetransmission := fifoRetransmission
    lasterror := lasterror }

theorem sendBatch_eq (con : Connection) (n : ℕ) :
    sendBatch P con n =
      let data := createDataMessage P (nextHeader con) (con.fifoSend.items.take n)
        con.srHashingContext
      let packet := rastaModuleToBytes P con.lasterror data con.srHashingContext
      rescheduleHeartbeat (incrementSnT (redundancyMuxSend P
        (tick (setQueues con (fifoPopMany con.fifoSend n)
          (fifoPush con.fifoRetransmission packet.1).2 packet.2)) data)) :=
  rfl

theorem popConfirmed_eq (con : Connection) :
    popConfirmed P con =
      let result := confirmedCount P con.hashingContext con.csR con.fifoRetransmission.items
        con.lasterror
      setQueues con con.fifoSend (fifoPopMany con.fifoRetransmission result.1) result.2 :=
  rfl

theorem retransmitPacket_eq (con : Connection) (element : Bytes) :
    retransmitPacket P con element =
      let oldP := bytesToRastaPacket P con.lasterror element con.hashingContext P.uninitPacket
      let data := createRetransmittedDataMessage P (nextHeader con) (extractMessageData P oldP.1)
        con.hashingContext
      let newP := rastaModuleToBytes P oldP.2 data con.hashingContext
      rescheduleHeartbeat (incrementSnT (redundancyMuxSend P
        (tick (setQueues con con.fifoSend (fifoPush con.fifoRetransmission newP.1).2 newP.2))
        data)) :=
  rfl

theorem srRetransmitData_eq (con : Connection) :
    srRetransmitData P con =
      sendHeartbeat P
        (con.fifoRetransmission.items.foldl (retransmitPacket P)
          (setQueues con con.fifoSend
            (fifoPopMany con.fifoRetransmission con.fifoRetransmission.items.length)
            con.lasterror)) true :=
  rfl

theorem setQueues_fixed (con : Connection) {fifoSend fifoRetransmission : Fifo Bytes}
    (lasterror : RastaErrorType) (hsend : fifoSend.maxSize = con.fifoSend.maxSize)
    (hretransmission : fifoRetransmission.maxSize = con.fifoRetransmission.maxSize) :
    Fixed con (setQueues con fifoSend fifoRetransmission lasterror) :=
  ⟨rfl, rfl, rfl, rfl, rfl, rfl, hsend, rfl, hretransmission, rfl, rfl, id⟩

end Queues

section Sending

variable (P : Platform)

theorem sendDisconnectionRequest_fixed (con : Connection) (reason : RastaDisconnectReason)
    (details : UInt16) : Fixed con (sendDisconnectionRequest P con reason details) :=
  (tick_fixed con).trans (redundancyMuxSend_fixed P _ _)

/-- Sending a numbered PDU. -/
theorem sendNumbered_fixed (con : Connection) (data : RastaPacket) :
    Fixed con (incrementSnT (redundancyMuxSend P (tick con) data)) :=
  ((tick_fixed con).trans (redundancyMuxSend_fixed P _ data)).trans (incrementSnT_fixed _)

theorem sendHeartbeat_fixed (con : Connection) (rescheduleManually : Bool) :
    Fixed con (sendHeartbeat P con rescheduleManually) := by
  cases rescheduleManually
  · exact sendNumbered_fixed P con _
  · exact (sendNumbered_fixed P con _).trans (rescheduleHeartbeat_fixed _)

theorem sendBatch_fixed (con : Connection) (n : ℕ) : Fixed con (sendBatch P con n) := by
  rw [sendBatch_eq]
  refine Fixed.trans ?_ (rescheduleHeartbeat_fixed _)
  refine Fixed.trans ?_ (sendNumbered_fixed P _ _)
  exact setQueues_fixed con _ rfl (fifoPush_maxSize _ _)

theorem dataSendEvent_fixed (con : Connection) : Fixed con (dataSendEvent P con) := by
  have hqueued : Fixed con (sendQueued P con) := by
    unfold sendQueued
    split
    · exact sendBatch_fixed P con _
    · exact .refl con
  unfold dataSendEvent stopIdleSending
  split
  · exact hqueued.trans ⟨rfl, rfl, rfl, rfl, rfl, rfl, rfl, rfl, rfl, rfl, rfl, id⟩
  · exact hqueued

theorem srRemoveConfirmedMessages_fixed (con : Connection) :
    Fixed con (srRemoveConfirmedMessages P con) := by
  have hpopped : Fixed con (popConfirmed P con) := by
    rw [popConfirmed_eq]
    exact setQueues_fixed con _ rfl rfl
  unfold srRemoveConfirmedMessages
  split
  · exact hpopped.trans (dataSendEvent_fixed P _)
  · exact hpopped

theorem retransmitPacket_fixed (con : Connection) (element : Bytes) :
    Fixed con (retransmitPacket P con element) := by
  rw [retransmitPacket_eq]
  refine Fixed.trans ?_ (rescheduleHeartbeat_fixed _)
  refine Fixed.trans ?_ (sendNumbered_fixed P _ _)
  exact setQueues_fixed con _ rfl (fifoPush_maxSize _ _)

theorem retransmitPackets_fixed (packets : List Bytes) (con : Connection) :
    Fixed con (packets.foldl (retransmitPacket P) con) := by
  induction packets generalizing con with
  | nil => exact .refl con
  | cons element rest ih => exact (retransmitPacket_fixed P con element).trans (ih _)

theorem srRetransmitData_fixed (con : Connection) : Fixed con (srRetransmitData P con) := by
  rw [srRetransmitData_eq]
  refine Fixed.trans ?_ (sendHeartbeat_fixed P _ true)
  refine Fixed.trans ?_ (retransmitPackets_fixed P _ _)
  exact setQueues_fixed con _ rfl rfl

theorem answerRetrreq_fixed (con : Connection) : Fixed con (answerRetrreq P con) :=
  ((srRemoveConfirmedMessages_fixed P con).trans (sendNumbered_fixed P _ _)).trans
    (srRetransmitData_fixed P _)

theorem srCloseConnection_fixed (con : Connection) (reason : RastaDisconnectReason)
    (details : UInt16) : Fixed con (srCloseConnection P con reason details) := by
  unfold srCloseConnection
  split
  · exact srResetConnection_fixed con
  · exact ((srResetConnection_fixed con).trans (sendDisconnectionRequest_fixed P _ _ _)).trans
      (setState_fixed _ _)

theorem DeliveryFrame.fixed {before after : Connection} (h : DeliveryFrame before after)
    (hsize : after.fifoReceive.maxSize = before.fifoReceive.maxSize) : Fixed before after where
  config := h.config
  myId := by rw [h.rest]
  remoteId := by rw [h.rest]
  hashingContext := by rw [h.rest]
  srAlgorithm := by rw [h.rest]
  srHashLength := by rw [h.rest]
  fifoSend := by rw [h.rest]
  fifoReceive := hsize
  fifoRetransmission := by rw [h.rest]
  clock := by rw [h.rest]
  timeoutInterval := by rw [h.rest]
  coded := by
    rw [h.rest]
    exact id

theorem srAddAppMessagesToBuffer_fixed (con : Connection) (packet : RastaPacket) :
    Fixed con (srAddAppMessagesToBuffer P con packet) :=
  (srAddAppMessagesToBuffer_frame P con packet).fixed
    (addAppMessages_fifoReceive P packet (extractMessageData P packet) con).2

theorem sendKexRequest_fixed (con : Connection) : Fixed con (sendKexRequest P con) := by
  obtain habort | ⟨base, request, hbase, -, -, -, hsend⟩ := sendKexRequest_cases P con
  · rw [habort]
    exact ⟨rfl, rfl, rfl, rfl, rfl, rfl, rfl, rfl, rfl, rfl, rfl, id⟩
  · have hcounted : Fixed con base := by
      obtain ⟨_, _, _, _, rfl⟩ := hbase
      exact ⟨rfl, rfl, rfl, rfl, rfl, rfl, rfl, rfl, rfl, rfl, rfl, id⟩
    have hsent := ((hcounted.trans (armRekeying_fixed base)).trans
      (redundancyMuxSend_fixed P _ request)).trans (incrementSnT_fixed _)
    rw [hsend]
    exact (hsent.trans (stampKeyExchange_fixed _)).trans (setState_fixed _ _)

theorem sendMessages_fixed (messages : List Bytes) (con : Connection) :
    Fixed con (sendMessages P messages con).1 := by
  induction messages generalizing con with
  | nil => exact .refl con
  | cons message rest ih =>
    have hflush : Fixed con (if fifoFull con.fifoSend then dataSendEvent P con else con) := by
      split
      · exact dataSendEvent_fixed P con
      · exact .refl con
    unfold sendMessages
    generalize (if fifoFull con.fifoSend then dataSendEvent P con else con) = flushed at hflush ⊢
    simp only
    split
    · have hpush : Fixed flushed
          (enableSendEvent { flushed with fifoSend := (fifoPush flushed.fifoSend message).2 }) :=
        ⟨rfl, rfl, rfl, rfl, rfl, rfl, fifoPush_maxSize _ _, rfl, rfl, rfl, rfl, id⟩
      exact (hflush.trans hpush).trans (ih _)
    · exact hflush

end Sending

section Receiving

variable (P : Platform) {con base after : Connection} {packet : RastaPacket}

theorem Counted.fixed (h : Counted con base) : Fixed con base := by
  obtain ⟨_, _, _, _, rfl⟩ := h
  exact ⟨rfl, rfl, rfl, rfl, rfl, rfl, rfl, rfl, rfl, rfl, rfl, id⟩

theorem rejectStartHb_fixed (con : Connection) (packet : RastaPacket) :
    Fixed con (rejectStartHb P con packet) :=
  rejectStartHb_related P Fixed.refl (fun _ _ _ hab hbc => hab.trans hbc)
    (fun c reason => srCloseConnection_fixed P c reason 0) con packet

theorem prepareServer_fixed (con : Connection) : Fixed con (prepareServer P con) := by
  unfold prepareServer srInitConnection
  cases P.enableOpaque
  · exact ⟨rfl, rfl, rfl, rfl, rfl, rfl, rfl, rfl, rfl, rfl, rfl, id⟩
  · exact ⟨rfl, rfl, rfl, rfl, rfl, rfl, rfl, rfl, rfl, rfl, rfl, id⟩

/-- The connection after an accepted request, before the response. -/
def noteConreq (con : Connection) (packet : RastaPacket) : Connection :=
  let con := updateConfirmedAttrs (updateConnectionAttrs con packet) packet
  { con with
    connectedRecvBufferSize := (extractRastaConnectionData P packet).sendMax.toNat
    tI := con.config.tMax }

theorem acceptConreq_eq (con : Connection) (packet : RastaPacket) :
    acceptConreq P con packet =
      redundancyMuxSend P (setState (incrementSnT (tick (noteConreq P con packet))) .start)
        (createConnectionResponse P
          { nextHeader (noteConreq P con packet) with
            confirmedTimestamp := packet.confirmedTimestamp }
          con.config.sendMax rastaVersion con.hashingContext) :=
  rfl

theorem acceptConreq_fixed (con : Connection) (packet : RastaPacket) :
    Fixed con (acceptConreq P con packet) := by
  have hset : ∀ (c : Connection) (size : Int) (t : UInt32),
      Fixed c { c with connectedRecvBufferSize := size, tI := t } := fun _ _ _ =>
    ⟨rfl, rfl, rfl, rfl, rfl, rfl, rfl, rfl, rfl, rfl, rfl, id⟩
  have hnoted : Fixed con (noteConreq P con packet) :=
    (updateKexAttrs_fixed con packet).trans (hset _ _ _)
  have hstarted := ((hnoted.trans (tick_fixed _)).trans (incrementSnT_fixed _)).trans
    (setState_fixed _ .start)
  rw [acceptConreq_eq]
  exact hstarted.trans (redundancyMuxSend_fixed P _ _)

theorem superviseConnection_fixed (con : Connection) (packet : RastaPacket) :
    Fixed con (superviseConnection P con packet) := by
  unfold superviseConnection
  split
  · exact .refl con
  · exact ⟨rfl, rfl, rfl, rfl, rfl, rfl, rfl, rfl, rfl, rfl, rfl, id⟩

theorem acceptConresp_fixed (con : Connection) (packet : RastaPacket) :
    Fixed con (acceptConresp P con packet) := by
  have hupdated := ((updateConnectionAttrs_fixed con packet).trans (setCsR_fixed _ packet)).trans
    (setState_fixed _ .up)
  have hanswer : Fixed con (answerConresp P con packet) :=
    hupdated.trans (sendHeartbeat_fixed P _ true)
  have hstarted : Fixed con (startKeyExchange P (answerConresp P con packet)) := by
    unfold startKeyExchange
    split
    · exact hanswer.trans (sendKexRequest_fixed P _)
    · exact hanswer
  exact hstarted.trans (superviseConnection_fixed P _ packet)

/-- Setting the session key leaves the other parameters of the safety code. -/
theorem answerKex_fixed (hbase : Fixed con base) (response : RastaPacket)
    (state : RastaSrState) :
    Fixed con (setSessionKey (setState (srRemoveConfirmedMessages P
      (updateKexAttrs (incrementSnT (redundancyMuxSend P base response)) packet)) state)) := by
  have hsent := ((hbase.trans (redundancyMuxSend_fixed P base response)).trans
    (incrementSnT_fixed _)).trans (updateKexAttrs_fixed _ packet)
  have hremoved := hsent.trans (srRemoveConfirmedMessages_fixed P _)
  exact (hremoved.trans (setState_fixed _ state)).trans (setSessionKey_fixed _)

/-- The timers of a connection that a heartbeat establishes. -/
def superviseNew (con : Connection) : Connection :=
  { enableTimeout (enableHeartbeat { con with hbLocked := false }) with isNew := true }

theorem establishByHb_eq (con : Connection) (packet : RastaPacket) :
    establishByHb con packet =
      superviseNew (setState (setCsR (updateConnectionAttrs con packet) packet)
        (if con.config.kexMode = .none then .up else .kexReq)) :=
  rfl

theorem superviseNew_fixed (con : Connection) : Fixed con (superviseNew con) :=
  ⟨rfl, rfl, rfl, rfl, rfl, rfl, rfl, rfl, rfl, rfl, rfl, id⟩

theorem establishByHb_fixed (con : Connection) (packet : RastaPacket) :
    Fixed con (establishByHb con packet) := by
  have hupdated := (updateConnectionAttrs_fixed con packet).trans (setCsR_fixed _ packet)
  rw [establishByHb_eq]
  exact (hupdated.trans (setState_fixed _ _)).trans (superviseNew_fixed _)

theorem acceptHb_fixed (con : Connection) (packet : RastaPacket) :
    Fixed con (acceptHb P con packet) := by
  have htimed := (srUpdateTimeoutInterval_frame P con packet.confirmedTimestamp).fixed rfl
  have hupdated := (htimed.trans ((srDiagnosticUpdate_frame P _ packet).fixed rfl)).trans
    (updateKexAttrs_fixed _ packet)
  have hremoved := hupdated.trans (srRemoveConfirmedMessages_fixed P _)
  unfold acceptHb
  simp only
  split
  · exact hremoved.trans (setState_fixed _ .up)
  · exact hremoved

theorem handleRetrreq_fixed (con : Connection) (packet : RastaPacket) :
    Fixed con (handleRetrreq P con packet).1 := by
  have hclosed : Fixed con
      (if con.currentState = .retrRun then srCloseConnection P con .retrFailed 0 else con) := by
    split
    · exact srCloseConnection_fixed P con _ _
    · exact .refl con
  unfold handleRetrreq
  simp only
  split
  · have hupdated := (hclosed.trans (updateConnectionAttrs_fixed _ packet)).trans
      (setCsR_fixed _ packet)
    exact hupdated.trans (answerRetrreq_fixed P _)
  · exact ((setCsR_fixed con packet).trans (answerRetrreq_fixed P _)).trans
      (setState_fixed _ .retrReq)

theorem Received.fixed (h : Received P con packet after) : Fixed con after := by
  cases h with
  | ignored hbase => exact hbase.fixed
  | closed hbase reason => exact hbase.fixed.trans (srCloseConnection_fixed P _ _ _)
  | discReq hbase =>
    exact (hbase.fixed.trans (setState_fixed _ _)).trans (srResetConnection_fixed _)
  | @data base hbase =>
    have hadded := hbase.fixed.trans (srAddAppMessagesToBuffer_fixed P base packet)
    exact (hadded.trans (updateKexAttrs_fixed _ packet)).trans
      (srRemoveConfirmedMessages_fixed P _)
  | dataDropped hbase => exact hbase.fixed.trans (updateConnectionAttrs_fixed _ packet)
  | @retransmissionRequested base hbase =>
    exact (hbase.fixed.trans (sendNumbered_fixed P base _)).trans (setState_fixed _ _)
  | heartbeatGap hbase => exact hbase.fixed.trans (setState_fixed _ _)
  | @retrReqInSeq base hbase => exact hbase.fixed.trans (handleRetrreq_fixed P base packet)
  | @retrReqOutOfSeq base hbase =>
    exact ((hbase.fixed.trans (setCsR_fixed base packet)).trans (answerRetrreq_fixed P _)).trans
      (setState_fixed _ _)
  | retrResp hbase =>
    exact (hbase.fixed.trans (setState_fixed _ .retrRun)).trans (updateKexAttrs_fixed _ packet)
  | @retrData base hbase =>
    have hadded := hbase.fixed.trans (srAddAppMessagesToBuffer_fixed P base packet)
    exact (hadded.trans (updateConnectionAttrs_fixed _ packet)).trans (setCsR_fixed _ packet)
  | @heartbeatStart base hbase =>
    exact (hbase.fixed.trans (rejectStartHb_fixed P base packet)).trans
      (establishByHb_fixed _ packet)
  | @heartbeatLate base hbase =>
    exact (hbase.fixed.trans (rejectStartHb_fixed P base packet)).trans
      (srCloseConnection_fixed P _ _ _)
  | @heartbeat base hbase => exact hbase.fixed.trans (acceptHb_fixed P base packet)
  | conreqRefused =>
    exact (prepareServer_fixed P con).trans (srCloseConnection_fixed P _ _ _)
  | conreqAccepted =>
    exact (prepareServer_fixed P con).trans (acceptConreq_fixed P _ packet)
  | conrespAccepted => exact acceptConresp_fixed P con packet
  | @aborted base hbase =>
    have haborted : Fixed base (abort base) :=
      ⟨rfl, rfl, rfl, rfl, rfl, rfl, rfl, rfl, rfl, rfl, rfl, id⟩
    exact hbase.fixed.trans haborted
  | kexRequest hbase _ _ _ _ response =>
    exact answerKex_fixed P hbase.fixed response .kexAuth
  | kexResponse hbase _ _ _ _ response => exact answerKex_fixed P hbase.fixed response .up
  | @kexAuth base hbase =>
    have hremoved := (hbase.fixed.trans (updateKexAttrs_fixed base packet)).trans
      (srRemoveConfirmedMessages_fixed P _)
    exact hremoved.trans (setState_fixed _ _)

end Receiving

section Steps

variable (P : Platform)

/-- The connection `sr_connect` sends its request from. -/
def prepareClient (con : Connection) (now : UInt32) : Connection :=
  { srInitConnection P con .client with
    snT := con.config.initialSequenceNumber
    snI := con.config.initialSequenceNumber
    csT := 0
    ctsR := now
    tI := con.config.tMax }

/-- The first PDU of a client. -/
def sendConreq (con : Connection) : Connection :=
  let con := setState (incrementSnT (redundancyMuxSend P (tick con)
    (createConnectionRequest P con.remoteId con.myId con.snT (curTimestamp con)
      con.config.sendMax rastaVersion con.hashingContext))) .start
  tick { con with handshakeTimeoutEvent := con.handshakeTimeoutEvent.enable con }

theorem openSession_eq (con : Connection) :
    openSession P con = sendConreq P (tick (prepareClient P con (curTimestamp con))) := by
  unfold openSession sendConreq prepareClient srInitConnection
  cases P.enableOpaque with
  | true => rfl
  | false => rfl

theorem openSession_fixed (con : Connection) : Fixed con (openSession P con) := by
  have hprepared : ∀ now, Fixed con (prepareClient P con now) := by
    intro now
    unfold prepareClient srInitConnection
    cases P.enableOpaque
    · exact ⟨rfl, rfl, rfl, rfl, rfl, rfl, rfl, rfl, rfl, rfl, rfl, id⟩
    · exact ⟨rfl, rfl, rfl, rfl, rfl, rfl, rfl, rfl, rfl, rfl, rfl, id⟩
  have htimer : ∀ c : Connection, Fixed c
      (tick { c with handshakeTimeoutEvent := c.handshakeTimeoutEvent.enable c }) := fun c =>
    ⟨rfl, rfl, rfl, rfl, rfl, rfl, rfl, rfl, rfl, rfl, rfl, id⟩
  rw [openSession_eq]
  refine Fixed.trans ?_ (htimer _)
  refine Fixed.trans ?_ (setState_fixed _ .start)
  exact ((hprepared _).trans (tick_fixed _)).trans (sendNumbered_fixed P _ _)

theorem srConnect_fixed (con : Connection) (transportOk : Bool) :
    Fixed con (srConnect P con transportOk) := by
  have hinit : Fixed con { con with seqTx := 0 } :=
    ⟨rfl, rfl, rfl, rfl, rfl, rfl, rfl, rfl, rfl, rfl, rfl, id⟩
  unfold srConnect
  split
  · split
    · exact hinit.trans (openSession_fixed P _)
    · exact hinit
  · exact .refl con

theorem eventConnectionExpired_fixed (con : Connection) :
    Fixed con (eventConnectionExpired P con) := by
  have hdisabled : ∀ c : Connection, Fixed c
      { c with
        sendHeartbeatEvent := c.sendHeartbeatEvent.disable
        timeoutEvent := c.timeoutEvent.disable } := fun c =>
    ⟨rfl, rfl, rfl, rfl, rfl, rfl, rfl, rfl, rfl, rfl, rfl, id⟩
  unfold eventConnectionExpired
  simp only
  split
  · exact .refl con
  split
  · exact (srCloseConnection_fixed P con _ _).trans (hdisabled _)
  · exact hdisabled con

theorem sendTimedKeyExchange_fixed (con : Connection) :
    Fixed con (sendTimedKeyExchange P con) := by
  have hrescheduled : ∀ c, Fixed c (rescheduleRekeying c) := by
    intro c
    unfold rescheduleRekeying
    split
    · exact .refl c
    · exact ⟨rfl, rfl, rfl, rfl, rfl, rfl, rfl, rfl, rfl, rfl, rfl, id⟩
  unfold sendTimedKeyExchange
  split
  · exact (sendKexRequest_fixed P con).trans (hrescheduled _)
  · exact .refl con

theorem srSend_fixed (con : Connection) (messages : List Bytes) :
    Fixed con (srSend P con messages).1 := by
  have hrefused : Fixed con
      (setState (sendDisconnectionRequest P con .serviceNotAllowed 0) .closed) :=
    (sendDisconnectionRequest_fixed P con _ _).trans (setState_fixed _ _)
  unfold srSend
  cases con.currentState with
  | up =>
    simp only
    split
    · exact .refl con
    · exact sendMessages_fixed P messages con
  | closed => exact setState_fixed con .closed
  | down => exact setState_fixed con .closed
  | start => exact hrefused
  | kexReq => exact hrefused
  | kexResp => exact hrefused
  | kexAuth => exact hrefused
  | retrReq => exact hrefused
  | retrRun => exact hrefused

theorem srDisconnect_fixed (con : Connection) : Fixed con (srDisconnect P con) := by
  unfold srDisconnect
  have hclosed := srCloseConnection_fixed P con .userRequest 0
  generalize srCloseConnection P con .userRequest 0 = closed at hclosed
  exact hclosed.trans ⟨rfl, rfl, rfl, rfl, rfl, rfl, rfl, rfl, rfl, rfl, rfl, id⟩

theorem endpointStep_fixed (con : Connection) (event : Event) :
    Fixed con (endpointStep P con event) := by
  unfold endpointStep
  split
  · exact .refl con
  cases event with
  | receive packet => exact (srReceive_received P con packet).fixed P
  | dataSend =>
    simp only
    split
    · exact dataSendEvent_fixed P con
    · exact .refl con
  | heartbeat =>
    simp only
    unfold heartbeatSendEvent
    split
    · split
      · exact .refl con
      · split
        · exact sendHeartbeat_fixed P con false
        · exact .refl con
    · exact .refl con
  | connectionExpired =>
    simp only
    split
    · exact eventConnectionExpired_fixed P con
    · exact .refl con
  | timedKeyExchange =>
    simp only
    split
    · exact sendTimedKeyExchange_fixed P con
    · exact .refl con
  | send messages => exact srSend_fixed P con messages
  | connect transportOk => exact srConnect_fixed P con transportOk
  | connectReturn => exact ⟨rfl, rfl, rfl, rfl, rfl, rfl, rfl, rfl, rfl, rfl, rfl, id⟩
  | disconnect => exact srDisconnect_fixed P con
  | transportClosed => exact (setState_fixed con .closed).trans (srResetConnection_fixed _)
  | recv =>
    simp only
    unfold rastaRecv
    split
    · exact ⟨rfl, rfl, rfl, rfl, rfl, rfl, rfl, rfl, rfl, rfl, rfl, id⟩
    · exact .refl con
  | accept => exact ⟨rfl, rfl, rfl, rfl, rfl, rfl, rfl, rfl, rfl, rfl, rfl, id⟩
  | acceptReturn => exact ⟨rfl, rfl, rfl, rfl, rfl, rfl, rfl, rfl, rfl, rfl, rfl, id⟩

theorem run_fixed (con : Connection) (events : List Event) :
    Fixed con (run (endpointStep P) con events) := by
  induction events generalizing con with
  | nil => exact .refl con
  | cons event rest ih => exact (endpointStep_fixed P con event).trans (ih _)

end Steps

end LibRasta.Retransmission
