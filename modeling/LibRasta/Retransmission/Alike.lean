/-
Module: LibRasta/Retransmission/Alike.lean
source: src/c/retransmission/safety_retransmission.c, src/c/retransmission/handlers.c, src/c/experimental/handlers.c, src/c/transport/events.c
digest: Two connections that differ in what no function of the layer reads: every step of both sends the same PDUs, delivers the same messages and leaves them alike.
-/

import LibRasta.Retransmission.Constants

set_option autoImplicit false
set_option relaxedAutoImplicit false

namespace LibRasta.Retransmission

open LibRasta.Lib
open LibRasta.Util
open LibRasta.Factory

section Relation

/-- `con` with everything of `past` that no handler reads: the statistics, the times at which
timers were last armed, what was sent and how often the clock was read. -/
def graft (past con : Connection) : Connection :=
  { con with
    isNew := past.isNew
    handshakeTimeoutEvent := past.handshakeTimeoutEvent
    sendHeartbeatEvent :=
      { past.sendHeartbeatEvent with enabled := con.sendHeartbeatEvent.enabled }
    timeoutEvent := { past.timeoutEvent with enabled := con.timeoutEvent.enabled }
    rekeyingEvent := { past.rekeyingEvent with enabled := con.rekeyingEvent.enabled }
    sendEvent := past.sendEvent
    receivedDiagnosticMessageCount := past.receivedDiagnosticMessageCount
    diagnosticIntervals := past.diagnosticIntervals
    errors := past.errors
    clock := past.clock
    clockReads := past.clockReads
    sent := past.sent }

/-- The two connections go on in the same way: they differ in what no handler reads, the clock
will show the same readings, and since `sent₁` and `sent₂` they sent the same PDUs. With nothing
to send it does not matter whether the send timer runs. -/
structure Alike (sent₁ sent₂ : List SentPdu) (con₁ con₂ : Connection) : Prop where
  rest : con₂ = graft con₂ con₁
  sendEvent : con₁.fifoSend.items = [] ∨ con₂.sendEvent.enabled = con₁.sendEvent.enabled
  clock : ∀ i, con₂.clock (con₂.clockReads + i) = con₁.clock (con₁.clockReads + i)
  sent : ∃ pdus, con₁.sent = sent₁ ++ pdus ∧ con₂.sent = sent₂ ++ pdus

/-- The update sends nothing, leaves the send queue and its timer alone and reads the clock `n`
times. -/
structure Silent (n : ℕ) (before after : Connection) : Prop where
  fifoSend : after.fifoSend = before.fifoSend
  sendEvent : after.sendEvent.enabled = before.sendEvent.enabled
  clock : after.clock = before.clock
  clockReads : after.clockReads = before.clockReads + n
  sent : after.sent = before.sent

variable {sent₁ sent₂ : List SentPdu} {con₁ con₂ after₁ after₂ : Connection}

theorem Alike.update (h : Alike sent₁ sent₂ con₁ con₂) {n : ℕ} (h₁ : Silent n con₁ after₁)
    (h₂ : Silent n con₂ after₂) (hrest : after₂ = graft after₂ after₁) :
    Alike sent₁ sent₂ after₁ after₂ where
  rest := hrest
  sendEvent := by
    rw [h₁.fifoSend, h₁.sendEvent, h₂.sendEvent]
    exact h.sendEvent
  clock := by
    intro i
    rw [h₁.clock, h₂.clock, h₁.clockReads, h₂.clockReads, Nat.add_assoc, Nat.add_assoc]
    exact h.clock (n + i)
  sent := by
    rw [h₁.sent, h₂.sent]
    exact h.sent

section Fields

variable (h : Alike sent₁ sent₂ con₁ con₂)
include h

theorem Alike.currentState : con₂.currentState = con₁.currentState := by rw [h.rest]; rfl

theorem Alike.config : con₂.config = con₁.config := by rw [h.rest]; rfl

theorem Alike.role : con₂.role = con₁.role := by rw [h.rest]; rfl

theorem Alike.fifoSend : con₂.fifoSend = con₁.fifoSend := by rw [h.rest]; rfl

theorem Alike.fifoReceive : con₂.fifoReceive = con₁.fifoReceive := by rw [h.rest]; rfl

theorem Alike.fifoRetransmission : con₂.fifoRetransmission = con₁.fifoRetransmission := by
  rw [h.rest]; rfl

theorem Alike.srHashingContext : con₂.srHashingContext = con₁.srHashingContext := by
  rw [h.rest]; rfl

theorem Alike.hashingContext : con₂.hashingContext = con₁.hashingContext := by rw [h.rest]; rfl

theorem Alike.lasterror : con₂.lasterror = con₁.lasterror := by rw [h.rest]; rfl

theorem Alike.kexState : con₂.kexState = con₁.kexState := by rw [h.rest]; rfl

theorem Alike.opaqueCalls : con₂.opaqueCalls = con₁.opaqueCalls := by rw [h.rest]; rfl

theorem Alike.ids : con₂.myId = con₁.myId ∧ con₂.remoteId = con₁.remoteId ∧
    con₂.snI = con₁.snI := by
  rw [h.rest]
  exact ⟨rfl, rfl, rfl⟩

theorem Alike.aborted : con₂.aborted = con₁.aborted := by rw [h.rest]; rfl

theorem Alike.curTimestamp : curTimestamp con₂ = curTimestamp con₁ := by
  have hclock := h.clock 0
  simp only [Nat.add_zero] at hclock
  simp only [LibRasta.Retransmission.curTimestamp, hclock]

theorem Alike.nextHeader : nextHeader con₂ = nextHeader con₁ := by
  have hrest := h.rest
  have htime := h.curTimestamp
  unfold LibRasta.Retransmission.nextHeader
  rw [htime, hrest]
  rfl

theorem Alike.getCurrentTimeMs : getCurrentTimeMs con₂ = getCurrentTimeMs con₁ := by
  have hclock := h.clock 0
  simp only [Nat.add_zero] at hclock
  simp only [LibRasta.Retransmission.getCurrentTimeMs, hclock]

/-- An update that reads none of the differing fields keeps the connections alike. -/
theorem Alike.map (n : ℕ) (update : Connection → Connection)
    (hsilent : ∀ con, Silent n con (update con))
    (hgraft : ∀ past con, update (graft past con) =
      graft (update (graft past con)) (update con)) :
    Alike sent₁ sent₂ (update con₁) (update con₂) := by
  refine h.update (hsilent con₁) (hsilent con₂) ?_
  rw [h.rest]
  exact hgraft con₂ con₁

theorem Alike.tick : Alike sent₁ sent₂ (tick con₁) (tick con₂) :=
  h.map 1 _ (fun _ => ⟨rfl, rfl, rfl, rfl, rfl⟩) (fun _ _ => rfl)

theorem Alike.setState (state : RastaSrState) :
    Alike sent₁ sent₂ (setState con₁ state) (setState con₂ state) :=
  h.map 0 (fun con => LibRasta.Retransmission.setState con state)
    (fun _ => ⟨rfl, rfl, rfl, rfl, rfl⟩) (fun _ _ => rfl)

theorem Alike.updateConnectionAttrs (packet : RastaPacket) :
    Alike sent₁ sent₂ (updateConnectionAttrs con₁ packet) (updateConnectionAttrs con₂ packet) :=
  h.map 0 (fun con => LibRasta.Retransmission.updateConnectionAttrs con packet)
    (fun _ => ⟨rfl, rfl, rfl, rfl, rfl⟩) (fun _ _ => rfl)

theorem Alike.updateConfirmedAttrs (packet : RastaPacket) :
    Alike sent₁ sent₂ (updateConfirmedAttrs con₁ packet) (updateConfirmedAttrs con₂ packet) :=
  h.map 0 (fun con => LibRasta.Retransmission.updateConfirmedAttrs con packet)
    (fun _ => ⟨rfl, rfl, rfl, rfl, rfl⟩) (fun _ _ => rfl)

theorem Alike.setCsR (packet : RastaPacket) :
    Alike sent₁ sent₂ (setCsR con₁ packet) (setCsR con₂ packet) :=
  h.map 0 (fun con => LibRasta.Retransmission.setCsR con packet)
    (fun _ => ⟨rfl, rfl, rfl, rfl, rfl⟩) (fun _ _ => rfl)

theorem Alike.incrementSnT : Alike sent₁ sent₂ (incrementSnT con₁) (incrementSnT con₂) :=
  h.map 0 _ (fun _ => ⟨rfl, rfl, rfl, rfl, rfl⟩) (fun _ _ => rfl)

theorem Alike.rescheduleHeartbeat :
    Alike sent₁ sent₂ (rescheduleHeartbeat con₁) (rescheduleHeartbeat con₂) :=
  h.map 1 _ (fun _ => ⟨rfl, rfl, rfl, rfl, rfl⟩) (fun _ _ => rfl)

theorem Alike.rescheduleTimeout :
    Alike sent₁ sent₂ (rescheduleTimeout con₁) (rescheduleTimeout con₂) :=
  h.map 1 _ (fun _ => ⟨rfl, rfl, rfl, rfl, rfl⟩) (fun _ _ => rfl)

theorem Alike.enableHeartbeat :
    Alike sent₁ sent₂ (enableHeartbeat con₁) (enableHeartbeat con₂) :=
  h.map 1 _ (fun _ => ⟨rfl, rfl, rfl, rfl, rfl⟩) (fun _ _ => rfl)

theorem Alike.enableTimeout : Alike sent₁ sent₂ (enableTimeout con₁) (enableTimeout con₂) :=
  h.map 1 _ (fun _ => ⟨rfl, rfl, rfl, rfl, rfl⟩) (fun _ _ => rfl)

theorem Alike.srResetConnection :
    Alike sent₁ sent₂ (srResetConnection con₁) (srResetConnection con₂) :=
  h.map 0 _ (fun _ => ⟨rfl, rfl, rfl, rfl, rfl⟩) (fun _ _ => rfl)

theorem Alike.countCsError : Alike sent₁ sent₂ (countCsError con₁) (countCsError con₂) :=
  h.map 0 _ (fun _ => ⟨rfl, rfl, rfl, rfl, rfl⟩) (fun _ _ => rfl)

theorem Alike.countSnError : Alike sent₁ sent₂ (countSnError con₁) (countSnError con₂) :=
  h.map 0 _ (fun _ => ⟨rfl, rfl, rfl, rfl, rfl⟩) (fun _ _ => rfl)

theorem Alike.countTypeError : Alike sent₁ sent₂ (countTypeError con₁) (countTypeError con₂) :=
  h.map 0 _ (fun _ => ⟨rfl, rfl, rfl, rfl, rfl⟩) (fun _ _ => rfl)

theorem Alike.abort : Alike sent₁ sent₂ (abort con₁) (abort con₂) :=
  h.map 0 _ (fun _ => ⟨rfl, rfl, rfl, rfl, rfl⟩) (fun _ _ => rfl)

theorem Alike.redundancyMuxSend (P : Platform) (data : RastaPacket) :
    Alike sent₁ sent₂ (redundancyMuxSend P con₁ data) (redundancyMuxSend P con₂ data) where
  rest := by
    rw [h.rest]
    rfl
  sendEvent := h.sendEvent
  clock := h.clock
  sent := by
    obtain ⟨pdus, hsent₁, hsent₂⟩ := h.sent
    have hpdu : ∃ pdu,
        (LibRasta.Retransmission.redundancyMuxSend P con₁ data).sent = con₁.sent ++ [pdu] ∧
        (LibRasta.Retransmission.redundancyMuxSend P con₂ data).sent = con₂.sent ++ [pdu] := by
      refine ⟨_, rfl, ?_⟩
      rw [h.rest]
      rfl
    obtain ⟨pdu, hpdu₁, hpdu₂⟩ := hpdu
    refine ⟨pdus ++ [pdu], ?_, ?_⟩
    · rw [hpdu₁, hsent₁, List.append_assoc]
    · rw [hpdu₂, hsent₂, List.append_assoc]

end Fields

end Relation

section Sending

variable (P : Platform) {sent₁ sent₂ : List SentPdu} {con₁ con₂ : Connection}
  (h : Alike sent₁ sent₂ con₁ con₂)
include h

theorem Alike.sendDisconnectionRequest (reason : RastaDisconnectReason) (details : UInt16) :
    Alike sent₁ sent₂ (sendDisconnectionRequest P con₁ reason details)
      (sendDisconnectionRequest P con₂ reason details) := by
  unfold LibRasta.Retransmission.sendDisconnectionRequest
  rw [h.nextHeader, h.srHashingContext]
  exact h.tick.redundancyMuxSend P _

theorem Alike.sendHeartbeat (rescheduleManually : Bool) :
    Alike sent₁ sent₂ (sendHeartbeat P con₁ rescheduleManually)
      (sendHeartbeat P con₂ rescheduleManually) := by
  unfold LibRasta.Retransmission.sendHeartbeat
  rw [h.nextHeader, h.srHashingContext]
  have hsent := (h.tick.redundancyMuxSend P
    (createHeartbeat P (LibRasta.Retransmission.nextHeader con₁)
      con₁.srHashingContext)).incrementSnT
  cases rescheduleManually with
  | true => exact hsent.rescheduleHeartbeat
  | false => exact hsent

theorem Alike.sendRetransmissionRequest :
    Alike sent₁ sent₂ (sendRetransmissionRequest P con₁) (sendRetransmissionRequest P con₂) := by
  unfold LibRasta.Retransmission.sendRetransmissionRequest
  rw [h.nextHeader, h.srHashingContext]
  exact (h.tick.redundancyMuxSend P _).incrementSnT

theorem Alike.sendRetransmissionResponse :
    Alike sent₁ sent₂ (sendRetransmissionResponse P con₁)
      (sendRetransmissionResponse P con₂) := by
  unfold LibRasta.Retransmission.sendRetransmissionResponse
  rw [h.nextHeader, h.srHashingContext]
  exact (h.tick.redundancyMuxSend P _).incrementSnT

/-- Both queues and the error variable get the same new values; an empty send queue stays
empty. -/
theorem Alike.setQueues (fifoSend fifoRetransmission : Fifo Bytes) (lasterror : RastaErrorType)
    (hempty : con₁.fifoSend.items = [] → fifoSend.items = []) :
    Alike sent₁ sent₂ (setQueues con₁ fifoSend fifoRetransmission lasterror)
      (setQueues con₂ fifoSend fifoRetransmission lasterror) where
  rest := by
    rw [h.rest]
    rfl
  sendEvent := h.sendEvent.imp_left hempty
  clock := h.clock
  sent := h.sent

theorem Alike.sendBatch (n : ℕ) :
    Alike sent₁ sent₂ (sendBatch P con₁ n) (sendBatch P con₂ n) := by
  rw [sendBatch_eq, sendBatch_eq, h.nextHeader, h.srHashingContext, h.fifoSend,
    h.fifoRetransmission, h.lasterror]
  have hempty : con₁.fifoSend.items = [] → (fifoPopMany con₁.fifoSend n).items = [] := by
    intro hnone
    simp [fifoPopMany, hnone]
  exact (((h.setQueues _ _ _ hempty).tick.redundancyMuxSend P _).incrementSnT).rescheduleHeartbeat

theorem Alike.sendQueued : Alike sent₁ sent₂ (sendQueued P con₁) (sendQueued P con₂) := by
  have hbacklog : sendBacklogSize con₂ = sendBacklogSize con₁ := by
    unfold sendBacklogSize
    rw [h.fifoRetransmission, h.fifoSend, h.config]
  unfold LibRasta.Retransmission.sendQueued
  rw [hbacklog, h.config]
  split
  · exact h.sendBatch P _
  · exact h

theorem Alike.stopIdleSending :
    Alike sent₁ sent₂ (stopIdleSending con₁) (stopIdleSending con₂) := by
  unfold LibRasta.Retransmission.stopIdleSending
  rw [h.fifoSend]
  split
  · next hidle =>
    refine ⟨?_, .inl (List.length_eq_zero_iff.mp hidle), h.clock, h.sent⟩
    rw [h.rest]
    rfl
  · exact h

theorem Alike.dataSendEvent :
    Alike sent₁ sent₂ (dataSendEvent P con₁) (dataSendEvent P con₂) :=
  (h.sendQueued P).stopIdleSending

theorem Alike.popConfirmed : Alike sent₁ sent₂ (popConfirmed P con₁) (popConfirmed P con₂) := by
  have hcsR : con₂.csR = con₁.csR := by
    rw [h.rest]
    rfl
  rw [popConfirmed_eq, popConfirmed_eq, h.hashingContext, hcsR, h.fifoSend, h.fifoRetransmission,
    h.lasterror]
  exact h.setQueues _ _ _ id

theorem Alike.srRemoveConfirmedMessages :
    Alike sent₁ sent₂ (srRemoveConfirmedMessages P con₁)
      (srRemoveConfirmedMessages P con₂) := by
  unfold LibRasta.Retransmission.srRemoveConfirmedMessages
  rw [h.fifoSend]
  split
  · exact (h.popConfirmed P).dataSendEvent P
  · exact h.popConfirmed P

theorem Alike.retransmitPacket (element : Bytes) :
    Alike sent₁ sent₂ (retransmitPacket P con₁ element) (retransmitPacket P con₂ element) := by
  rw [retransmitPacket_eq, retransmitPacket_eq, h.lasterror, h.hashingContext, h.nextHeader,
    h.fifoSend, h.fifoRetransmission]
  exact (((h.setQueues _ _ _ id).tick.redundancyMuxSend P _).incrementSnT).rescheduleHeartbeat

omit h in
theorem Alike.retransmitPackets (elements : List Bytes) {con₁ con₂ : Connection}
    (h : Alike sent₁ sent₂ con₁ con₂) :
    Alike sent₁ sent₂ (elements.foldl (LibRasta.Retransmission.retransmitPacket P) con₁)
      (elements.foldl (LibRasta.Retransmission.retransmitPacket P) con₂) := by
  induction elements generalizing con₁ con₂ with
  | nil => exact h
  | cons element rest ih => exact ih (h.retransmitPacket P element)

theorem Alike.srRetransmitData :
    Alike sent₁ sent₂ (srRetransmitData P con₁) (srRetransmitData P con₂) := by
  rw [srRetransmitData_eq, srRetransmitData_eq, h.fifoSend, h.fifoRetransmission, h.lasterror]
  exact ((h.setQueues _ _ _ id).retransmitPackets P _).sendHeartbeat P true

end Sending

section Receiving

variable (P : Platform) {sent₁ sent₂ : List SentPdu} {con₁ con₂ : Connection}

/-- `connection->t_i = t`. -/
def setTI (con : Connection) (t : UInt32) : Connection := { con with tI := t }

theorem srUpdateTimeoutInterval_eq (con : Connection) (confirmedTimestamp : UInt32) :
    srUpdateTimeoutInterval P con confirmedTimestamp =
      rescheduleTimeout (tick (setTI con (con.config.tMax -
        (curTimestamp con + UInt32.ofNat (1000 / P.clkTck) - confirmedTimestamp)))) :=
  rfl

variable (h : Alike sent₁ sent₂ con₁ con₂)
include h

theorem Alike.srUpdateTimeoutInterval (confirmedTimestamp : UInt32) :
    Alike sent₁ sent₂ (srUpdateTimeoutInterval P con₁ confirmedTimestamp)
      (srUpdateTimeoutInterval P con₂ confirmedTimestamp) := by
  rw [srUpdateTimeoutInterval_eq, srUpdateTimeoutInterval_eq, h.config, h.curTimestamp]
  have hset : ∀ t, Alike sent₁ sent₂ (setTI con₁ t) (setTI con₂ t) := fun t =>
    h.map 0 (fun con => setTI con t) (fun _ => ⟨rfl, rfl, rfl, rfl, rfl⟩) (fun _ _ => rfl)
  exact (hset _).tick.rescheduleTimeout

theorem Alike.srDiagnosticUpdate (packet : RastaPacket) :
    Alike sent₁ sent₂ (srDiagnosticUpdate P con₁ packet) (srDiagnosticUpdate P con₂ packet) :=
  h.map 1 (fun con => LibRasta.Retransmission.srDiagnosticUpdate P con packet)
    (fun _ => ⟨rfl, rfl, rfl, rfl, rfl⟩) (fun _ _ => rfl)

theorem Alike.addAppMessage (packet : RastaPacket) (message : Bytes) :
    Alike sent₁ sent₂ (addAppMessage P con₁ packet message)
      (addAppMessage P con₂ packet message) := by
  have hpush := h.map 0
    (fun con => { con with fifoReceive := (fifoPush con.fifoReceive message).2 })
    (fun _ => ⟨rfl, rfl, rfl, rfl, rfl⟩) (fun _ _ => rfl)
  exact (hpush.srUpdateTimeoutInterval P packet.confirmedTimestamp).srDiagnosticUpdate P packet

omit h in
theorem Alike.addAppMessages (packet : RastaPacket) (messages : List Bytes)
    {con₁ con₂ : Connection} (h : Alike sent₁ sent₂ con₁ con₂) :
    Alike sent₁ sent₂ (addAppMessages P packet messages con₁)
      (addAppMessages P packet messages con₂) := by
  induction messages generalizing con₁ con₂ with
  | nil => exact h
  | cons message rest ih =>
    unfold LibRasta.Retransmission.addAppMessages
    rw [h.fifoReceive]
    split
    · exact h
    · exact ih (h.addAppMessage P packet message)

theorem Alike.srAddAppMessagesToBuffer (packet : RastaPacket) :
    Alike sent₁ sent₂ (srAddAppMessagesToBuffer P con₁ packet)
      (srAddAppMessagesToBuffer P con₂ packet) :=
  h.addAppMessages P packet _

theorem Alike.srCloseConnection (reason : RastaDisconnectReason) (details : UInt16) :
    Alike sent₁ sent₂ (srCloseConnection P con₁ reason details)
      (srCloseConnection P con₂ reason details) := by
  unfold LibRasta.Retransmission.srCloseConnection
  rw [h.currentState]
  split
  · exact h.srResetConnection
  · exact (h.srResetConnection.sendDisconnectionRequest P reason details).setState .closed

/-- Every check of a packet has the same result. -/
theorem Alike.checks (packet : RastaPacket) :
    srSnInSeq con₂ packet = srSnInSeq con₁ packet ∧
      srCtsInSeq con₂ packet = srCtsInSeq con₁ packet ∧
      srMessageAuthentic con₂ packet = srMessageAuthentic con₁ packet ∧
      srSnRangeValid con₂ packet = srSnRangeValid con₁ packet ∧
      srCsValid con₂ packet = srCsValid con₁ packet := by
  rw [h.rest]
  exact ⟨rfl, rfl, rfl, rfl, rfl⟩

theorem Alike.srCheckPacket (packet : RastaPacket) :
    srCheckPacket con₂ packet = srCheckPacket con₁ packet := by
  rw [h.rest]
  rfl

theorem Alike.acceptData (packet : RastaPacket) :
    Alike sent₁ sent₂ (acceptData P con₁ packet) (acceptData P con₂ packet) :=
  (((h.srAddAppMessagesToBuffer P packet).updateConnectionAttrs packet).updateConfirmedAttrs
    packet).srRemoveConfirmedMessages P

theorem Alike.handleData (packet : RastaPacket) :
    Alike sent₁ sent₂ (handleData P con₁ packet).1 (handleData P con₂ packet).1 := by
  obtain ⟨hseq, hcts, -⟩ := h.checks packet
  unfold LibRasta.Retransmission.handleData
  rw [hseq, hcts, h.currentState]
  split
  · generalize con₁.currentState = state
    cases state with
    | start => exact h.srCloseConnection P _ _
    | kexReq => exact h.srCloseConnection P _ _
    | kexResp => exact h.srCloseConnection P _ _
    | kexAuth => exact h.srCloseConnection P _ _
    | up =>
      simp only
      split
      · exact h.acceptData P packet
      · exact h.countCsError.srCloseConnection P _ _
    | retrRun =>
      simp only
      split
      · exact h.updateConnectionAttrs packet
      · exact h.srCloseConnection P _ _
    | closed => exact h
    | down => exact h
    | retrReq => exact h
  · generalize con₁.currentState = state
    cases state with
    | start => exact h.srCloseConnection P _ _
    | retrRun => exact (h.countSnError.sendRetransmissionRequest P).setState .retrReq
    | up => exact (h.countSnError.sendRetransmissionRequest P).setState .retrReq
    | closed => exact h
    | down => exact h
    | kexReq => exact h
    | kexResp => exact h
    | kexAuth => exact h
    | retrReq => exact h

theorem Alike.answerRetrreq : Alike sent₁ sent₂ (answerRetrreq P con₁) (answerRetrreq P con₂) :=
  ((h.srRemoveConfirmedMessages P).sendRetransmissionResponse P).srRetransmitData P

theorem Alike.handleRetrreq (packet : RastaPacket) :
    Alike sent₁ sent₂ (handleRetrreq P con₁ packet).1 (handleRetrreq P con₂ packet).1 := by
  unfold LibRasta.Retransmission.handleRetrreq
  rw [(h.checks packet).1, h.currentState]
  split
  · have hclosed : Alike sent₁ sent₂
        (if con₁.currentState = .retrRun
          then LibRasta.Retransmission.srCloseConnection P con₁ .retrFailed 0 else con₁)
        (if con₁.currentState = .retrRun
          then LibRasta.Retransmission.srCloseConnection P con₂ .retrFailed 0 else con₂) := by
      split
      · exact h.srCloseConnection P _ _
      · exact h
    exact ((hclosed.updateConnectionAttrs packet).setCsR packet).answerRetrreq P
  · exact ((h.setCsR packet).answerRetrreq P).setState .retrReq

theorem Alike.handleRetrresp (packet : RastaPacket) :
    Alike sent₁ sent₂ (handleRetrresp P con₁ packet).1 (handleRetrresp P con₂ packet).1 := by
  unfold LibRasta.Retransmission.handleRetrresp
  rw [h.currentState]
  split
  · exact ((h.setState .retrRun).updateConnectionAttrs packet).updateConfirmedAttrs packet
  · exact h.srCloseConnection P _ _

theorem Alike.handleRetrdata (packet : RastaPacket) :
    Alike sent₁ sent₂ (handleRetrdata P con₁ packet).1 (handleRetrdata P con₂ packet).1 := by
  obtain ⟨hseq, hcts, -⟩ := h.checks packet
  unfold LibRasta.Retransmission.handleRetrdata
  rw [hseq, hcts, h.currentState]
  split
  · generalize con₁.currentState = state
    cases state with
    | up => exact h.srCloseConnection P _ _
    | retrRun =>
      simp only
      split
      · exact ((h.srAddAppMessagesToBuffer P packet).updateConnectionAttrs packet).setCsR packet
      · exact h.srCloseConnection P _ _
    | closed => exact h
    | down => exact h
    | start => exact h
    | kexReq => exact h
    | kexResp => exact h
    | kexAuth => exact h
    | retrReq => exact h
  · generalize con₁.currentState = state
    cases state with
    | up => exact h.srCloseConnection P _ _
    | retrRun => exact (h.sendRetransmissionRequest P).setState .retrReq
    | closed => exact h
    | down => exact h
    | start => exact h
    | kexReq => exact h
    | kexResp => exact h
    | kexAuth => exact h
    | retrReq => exact h

theorem Alike.establishByHb (packet : RastaPacket) :
    Alike sent₁ sent₂ (establishByHb con₁ packet) (establishByHb con₂ packet) := by
  have hupdated := ((h.updateConnectionAttrs packet).setCsR packet).setState
    (if con₁.config.kexMode = .none then .up else .kexReq)
  rw [establishByHb_eq, establishByHb_eq, h.config]
  exact hupdated.map 2 superviseNew (fun _ => ⟨rfl, rfl, rfl, rfl, rfl⟩) (fun _ _ => rfl)

theorem Alike.rejectStartHb (packet : RastaPacket) :
    Alike sent₁ sent₂ (rejectStartHb P con₁ packet) (rejectStartHb P con₂ packet) := by
  have hsn : Alike sent₁ sent₂ (rejectHbSn P con₁ packet) (rejectHbSn P con₂ packet) := by
    unfold rejectHbSn
    rw [(h.checks packet).1, h.role]
    split
    · exact h
    · split
      · exact h.srCloseConnection P _ _
      · exact h.srCloseConnection P _ _
  unfold LibRasta.Retransmission.rejectStartHb rejectHbRole
  rw [hsn.role]
  split
  · exact hsn.srCloseConnection P _ _
  · exact hsn

theorem Alike.acceptHb (packet : RastaPacket) :
    Alike sent₁ sent₂ (acceptHb P con₁ packet) (acceptHb P con₂ packet) := by
  have hupdated := ((((h.srUpdateTimeoutInterval P packet.confirmedTimestamp).srDiagnosticUpdate P
    packet).updateConnectionAttrs packet).updateConfirmedAttrs packet).srRemoveConfirmedMessages P
  unfold LibRasta.Retransmission.acceptHb
  simp only
  rw [hupdated.currentState]
  split
  · exact hupdated.setState .up
  · exact hupdated

theorem Alike.handleHb (packet : RastaPacket) :
    Alike sent₁ sent₂ (handleHb P con₁ packet).1 (handleHb P con₂ packet).1 := by
  obtain ⟨hseq, hcts, -⟩ := h.checks packet
  have hrejected := h.rejectStartHb P packet
  unfold LibRasta.Retransmission.handleHb
  simp only
  rw [hseq, hcts, (hrejected.checks packet).2.1, h.currentState]
  split
  · split
    · exact hrejected.establishByHb packet
    · exact hrejected.srCloseConnection P _ _
  split
  · generalize con₁.currentState = state
    cases state with
    | closed => exact h
    | down => exact h
    | start => exact h
    | retrReq => exact h
    | _ =>
      simp only
      split
      · exact h.acceptHb P packet
      · exact h.srCloseConnection P _ _
  · generalize con₁.currentState = state
    cases state with
    | up => exact h.setState .retrReq
    | retrRun => exact h.setState .retrReq
    | closed => exact h
    | down => exact h
    | start => exact h
    | kexReq => exact h
    | kexResp => exact h
    | kexAuth => exact h
    | retrReq => exact h

end Receiving

section KeyExchange

variable (P : Platform)

/-- The connection with a new state of the key exchange after `calls` calls of libopaque. -/
def setKex (con : Connection) (calls : ℕ) (kexState : KeyExchangeState) : Connection :=
  { con with opaqueCalls := calls, kexState := kexState }

theorem createKexRequest_eq (con : Connection) :
    createKexRequest P con =
      let result := P.libOpaque.createCredentialRequest con.opaqueCalls con.config.psk
      if result.1 ≠ 0 then none
      else
        some (fillData (initializePacket P .kexRequest (nextHeader con)
            P.libOpaque.userSessionPublicLen con.srHashingContext) result.2.2,
          setKex con (con.opaqueCalls + 1)
            { con.kexState with clientSecret := result.2.1, clientPublic := result.2.2 }) :=
  rfl

theorem stampKeyExchange_eq (con : Connection) :
    stampKeyExchange con = tick (setKex con con.opaqueCalls
      { con.kexState with lastKeyExchangedMillis := getCurrentTimeMs con }) :=
  rfl

theorem prepareUserRecord_eq (con : Connection) :
    prepareUserRecord P con =
      match con.config.pskRecord with
      | some record => some (setKex con con.opaqueCalls { con.kexState with userRecord := record })
      | none =>
        let result := P.libOpaque.register con.opaqueCalls con.config.psk
          (hostToBe32 con.myId) (hostToBe32 con.remoteId)
        if result.1 ≠ 0 then none
        else
          some (setKex con (con.opaqueCalls + 1) { con.kexState with userRecord := result.2 }) :=
  rfl

theorem kexPrepareCredentialResponse_eq (con : Connection) (request : Bytes) :
    kexPrepareCredentialResponse P con request =
      if request.length ≠ P.libOpaque.userSessionPublicLen.toNat then none
      else
        let result := P.libOpaque.createCredentialResponse con.opaqueCalls request
          con.kexState.userRecord (hostToBe32 con.myId) (hostToBe32 con.remoteId)
          (hostToBe32 con.snI)
        if result.1 ≠ 0 then none
        else
          some (setKex con (con.opaqueCalls + 1)
            { con.kexState with
              certificateResponse := result.2.1
              sessionKey := result.2.2.1
              userAuthServer := result.2.2.2 }) :=
  rfl

theorem kexRecoverCredential_eq (con : Connection) (response : Bytes) :
    kexRecoverCredential P con response =
      if response.length ≠ P.libOpaque.serverSessionLen.toNat then (-1, con)
      else
        let result := P.libOpaque.recoverCredentials con.opaqueCalls response
          con.kexState.clientSecret (hostToBe32 con.snI) (hostToBe32 con.remoteId)
          (hostToBe32 con.myId)
        (result.1, setKex con (con.opaqueCalls + 1)
          { con.kexState with
            sessionKey := result.2.1
            userAuthServer := result.2.2
            clientSecret := [] }) :=
  rfl

/-- Both computations fail, or both give connections that are alike. -/
def AlikeResults (sent₁ sent₂ : List SentPdu) (result₁ result₂ : Option Connection) : Prop :=
  result₁ = none ∧ result₂ = none ∨
    ∃ con₁ con₂, result₁ = some con₁ ∧ result₂ = some con₂ ∧ Alike sent₁ sent₂ con₁ con₂

variable {sent₁ sent₂ : List SentPdu} {con₁ con₂ : Connection}
  (h : Alike sent₁ sent₂ con₁ con₂)
include h

theorem Alike.setKex (calls : ℕ) (kexState : KeyExchangeState) :
    Alike sent₁ sent₂ (setKex con₁ calls kexState) (setKex con₂ calls kexState) :=
  h.map 0 (fun con => LibRasta.Retransmission.setKex con calls kexState)
    (fun _ => ⟨rfl, rfl, rfl, rfl, rfl⟩) (fun _ _ => rfl)

theorem Alike.stampKeyExchange :
    Alike sent₁ sent₂ (stampKeyExchange con₁) (stampKeyExchange con₂) := by
  rw [stampKeyExchange_eq, stampKeyExchange_eq, h.opaqueCalls, h.kexState, h.getCurrentTimeMs]
  exact (h.setKex _ _).tick

theorem Alike.armRekeying : Alike sent₁ sent₂ (armRekeying con₁) (armRekeying con₂) := by
  have harmed := h.map 1
    (fun con => LibRasta.Retransmission.tick
      { con with
        rekeyingEvent :=
          TimedEvent.enable con
            { con.rekeyingEvent with interval := con.config.rekeyingIntervalMs * 1000000 / 2 } })
    (fun _ => ⟨rfl, rfl, rfl, rfl, rfl⟩) (fun _ _ => rfl)
  unfold LibRasta.Retransmission.armRekeying
  by_cases hfirst : con₁.kexState.lastKeyExchangedMillis = 0 ∧
      con₁.config.rekeyingIntervalMs ≠ 0
  · have hfirst₂ : con₂.kexState.lastKeyExchangedMillis = 0 ∧
        con₂.config.rekeyingIntervalMs ≠ 0 := by
      rw [h.kexState, h.config]
      exact hfirst
    rw [if_pos hfirst, if_pos hfirst₂]
    exact harmed
  · have hlater₂ : ¬ (con₂.kexState.lastKeyExchangedMillis = 0 ∧
        con₂.config.rekeyingIntervalMs ≠ 0) := by
      rw [h.kexState, h.config]
      exact hfirst
    rw [if_neg hfirst, if_neg hlater₂]
    exact h.tick

theorem Alike.sendKexRequest :
    Alike sent₁ sent₂ (sendKexRequest P con₁) (sendKexRequest P con₂) := by
  unfold LibRasta.Retransmission.sendKexRequest
  split
  · rw [createKexRequest_eq, createKexRequest_eq, h.opaqueCalls, h.config, h.nextHeader,
      h.srHashingContext, h.kexState]
    by_cases hfailed :
        (P.libOpaque.createCredentialRequest con₁.opaqueCalls con₁.config.psk).1 ≠ 0
    · simp only [if_pos hfailed]
      exact h.abort
    · simp only [if_neg hfailed]
      refine Alike.setState (Alike.stampKeyExchange (Alike.incrementSnT ?_)) .kexResp
      exact (h.setKex _ _).tick.armRekeying.redundancyMuxSend P _
  · exact h.abort

theorem Alike.prepareUserRecord :
    AlikeResults sent₁ sent₂ (prepareUserRecord P con₁) (prepareUserRecord P con₂) := by
  obtain ⟨hmy, hremote, -⟩ := h.ids
  rw [prepareUserRecord_eq, prepareUserRecord_eq, h.config, h.opaqueCalls, h.kexState, hmy,
    hremote]
  split
  · exact .inr ⟨_, _, rfl, rfl, h.setKex _ _⟩
  · simp only
    split
    · exact .inl ⟨rfl, rfl⟩
    · exact .inr ⟨_, _, rfl, rfl, h.setKex _ _⟩

theorem Alike.kexPrepareCredentialResponse (request : Bytes) :
    AlikeResults sent₁ sent₂ (kexPrepareCredentialResponse P con₁ request)
      (kexPrepareCredentialResponse P con₂ request) := by
  obtain ⟨hmy, hremote, hfirst⟩ := h.ids
  rw [kexPrepareCredentialResponse_eq, kexPrepareCredentialResponse_eq, h.opaqueCalls, h.kexState,
    hmy, hremote, hfirst]
  split
  · exact .inl ⟨rfl, rfl⟩
  · simp only
    split
    · exact .inl ⟨rfl, rfl⟩
    · exact .inr ⟨_, _, rfl, rfl, h.setKex _ _⟩

theorem Alike.answerHeader (packet : RastaPacket) :
    answerHeader con₂ packet = answerHeader con₁ packet := by
  have htime := h.curTimestamp
  have hrest := h.rest
  unfold LibRasta.Retransmission.answerHeader
  rw [htime, hrest]
  rfl

theorem Alike.updateKexAttrs (packet : RastaPacket) :
    Alike sent₁ sent₂ (updateKexAttrs con₁ packet) (updateKexAttrs con₂ packet) :=
  (h.updateConnectionAttrs packet).updateConfirmedAttrs packet

theorem Alike.setSessionKey : Alike sent₁ sent₂ (setSessionKey con₁) (setSessionKey con₂) :=
  h.map 0 _ (fun _ => ⟨rfl, rfl, rfl, rfl, rfl⟩) (fun _ _ => rfl)

theorem Alike.answerKexRequest (packet : RastaPacket) :
    Alike sent₁ sent₂ (answerKexRequest P con₁ packet) (answerKexRequest P con₂ packet) := by
  have hstamped := h.stampKeyExchange
  unfold LibRasta.Retransmission.answerKexRequest createKexResponse
  simp only
  rw [hstamped.answerHeader, hstamped.srHashingContext]
  rcases hstamped.prepareUserRecord P with ⟨hnone₁, hnone₂⟩ | ⟨ready₁, ready₂, h₁, h₂, hready⟩
  · rw [hnone₁, hnone₂]
    exact hstamped.abort
  rw [h₁, h₂, Option.bind_some, Option.bind_some]
  rcases hready.kexPrepareCredentialResponse P packet.data with
    ⟨hnone₁, hnone₂⟩ | ⟨keyed₁, keyed₂, hkeyed₁, hkeyed₂, hkeyed⟩
  · rw [hnone₁, hnone₂]
    exact hstamped.abort
  rw [hkeyed₁, hkeyed₂, Option.map_some, Option.map_some, hkeyed.kexState]
  simp only
  exact ((((hkeyed.tick.redundancyMuxSend P _).incrementSnT.updateKexAttrs
    packet).srRemoveConfirmedMessages P).setState .kexAuth).setSessionKey

theorem Alike.handleKexRequest (packet : RastaPacket) :
    Alike sent₁ sent₂ (handleKexRequest P con₁ packet).1 (handleKexRequest P con₂ packet).1 := by
  obtain ⟨hseq, hcts, -⟩ := h.checks packet
  unfold LibRasta.Retransmission.handleKexRequest
  rw [hseq, hcts, h.currentState, h.config]
  split
  · split
    · exact h.srCloseConnection P _ _
    split
    · split
      · exact h.srCloseConnection P _ _
      split
      · exact h.answerKexRequest P packet
      · exact h.abort
    · exact h.countCsError.srCloseConnection P _ _
  · exact h.srCloseConnection P _ _

theorem Alike.kexRecoverCredential (response : Bytes) :
    (kexRecoverCredential P con₂ response).1 = (kexRecoverCredential P con₁ response).1 ∧
      Alike sent₁ sent₂ (kexRecoverCredential P con₁ response).2
        (kexRecoverCredential P con₂ response).2 := by
  obtain ⟨hmy, hremote, hfirst⟩ := h.ids
  rw [kexRecoverCredential_eq, kexRecoverCredential_eq, h.opaqueCalls, h.kexState, hmy, hremote,
    hfirst]
  split
  · exact ⟨rfl, h⟩
  · exact ⟨rfl, h.setKex _ _⟩

theorem Alike.handleKexResponse (packet : RastaPacket) :
    Alike sent₁ sent₂ (handleKexResponse P con₁ packet).1
      (handleKexResponse P con₂ packet).1 := by
  obtain ⟨hseq, hcts, -⟩ := h.checks packet
  obtain ⟨hresult, hrecovered⟩ := h.kexRecoverCredential P packet.data
  unfold LibRasta.Retransmission.handleKexResponse
  simp only
  rw [hseq, hcts, h.currentState, h.config, hresult, hrecovered.answerHeader,
    hrecovered.srHashingContext, hrecovered.kexState]
  split
  · split
    · exact h.srCloseConnection P _ _
    split
    · split
      · exact h.srCloseConnection P _ _
      split
      · split
        · exact hrecovered.srCloseConnection P _ _
        · exact ((((hrecovered.tick.redundancyMuxSend P _).incrementSnT.updateKexAttrs
            packet).srRemoveConfirmedMessages P).setState .up).setSessionKey
      · exact h.abort
    · exact h.countCsError.srCloseConnection P _ _
  · exact h.srCloseConnection P _ _

theorem Alike.handleKexAuth (packet : RastaPacket) :
    Alike sent₁ sent₂ (handleKexAuth P con₁ packet).1 (handleKexAuth P con₂ packet).1 := by
  obtain ⟨hseq, hcts, -⟩ := h.checks packet
  have hauth : kexAuthenticateUser P con₂ packet.data = kexAuthenticateUser P con₁ packet.data := by
    unfold kexAuthenticateUser
    rw [h.opaqueCalls, h.kexState]
  have hcounted : Alike sent₁ sent₂ (countOpaqueCall con₁) (countOpaqueCall con₂) :=
    h.map 0 _ (fun _ => ⟨rfl, rfl, rfl, rfl, rfl⟩) (fun _ _ => rfl)
  unfold LibRasta.Retransmission.handleKexAuth
  rw [hseq, hcts, h.currentState, h.config, hauth]
  split
  · split
    · exact h.srCloseConnection P _ _
    split
    · split
      · exact h.srCloseConnection P _ _
      split
      · split
        · exact h.srCloseConnection P _ _
        · exact ((hcounted.updateKexAttrs packet).srRemoveConfirmedMessages P).setState .up
      · exact h.abort
    · exact h.countCsError.srCloseConnection P _ _
  · exact h.srCloseConnection P _ _

end KeyExchange

section Handshake

variable (P : Platform)

/-- What `sr_init_connection` does after the reset. -/
def initRole (con : Connection) (role : RastaRole) : Connection :=
  if P.enableOpaque then
    { con with
      role := role
      kexState := { con.kexState with lastKeyExchangedMillis := 0 } }
  else { con with role := role }

theorem srInitConnection_eq (con : Connection) (role : RastaRole) :
    srInitConnection P con role = initRole P (srResetConnection con) role := by
  unfold srInitConnection initRole
  simp only

variable {sent₁ sent₂ : List SentPdu} {con₁ con₂ : Connection}
  (h : Alike sent₁ sent₂ con₁ con₂)
include h

theorem Alike.srInitConnection (role : RastaRole) :
    Alike sent₁ sent₂ (srInitConnection P con₁ role) (srInitConnection P con₂ role) := by
  rw [srInitConnection_eq, srInitConnection_eq]
  have hreset := h.srResetConnection
  unfold initRole
  split
  · exact hreset.map 0
      (fun con =>
        { con with
          role := role
          kexState := { con.kexState with lastKeyExchangedMillis := 0 } })
      (fun _ => ⟨rfl, rfl, rfl, rfl, rfl⟩) (fun _ _ => rfl)
  · exact hreset.map 0 (fun con => { con with role := role })
      (fun _ => ⟨rfl, rfl, rfl, rfl, rfl⟩) (fun _ _ => rfl)

theorem Alike.prepareServer : Alike sent₁ sent₂ (prepareServer P con₁) (prepareServer P con₂) :=
  (h.srInitConnection P .server).map 0
    (fun con =>
      { con with
        snT := con.config.initialSequenceNumber
        snI := con.config.initialSequenceNumber
        currentState := .down })
    (fun _ => ⟨rfl, rfl, rfl, rfl, rfl⟩) (fun _ _ => rfl)

theorem Alike.acceptConreq (packet : RastaPacket) :
    Alike sent₁ sent₂ (acceptConreq P con₁ packet) (acceptConreq P con₂ packet) := by
  have hnoted : Alike sent₁ sent₂ (noteConreq P con₁ packet) (noteConreq P con₂ packet) :=
    h.map 0 (fun con => noteConreq P con packet) (fun _ => ⟨rfl, rfl, rfl, rfl, rfl⟩)
      (fun _ _ => rfl)
  rw [acceptConreq_eq, acceptConreq_eq, hnoted.nextHeader, h.config, h.hashingContext]
  exact (hnoted.tick.incrementSnT.setState .start).redundancyMuxSend P _

theorem Alike.handleConreq (packet : RastaPacket) :
    Alike sent₁ sent₂ (handleConreq P con₁ packet) (handleConreq P con₂ packet) := by
  have hserver := h.prepareServer P
  unfold LibRasta.Retransmission.handleConreq
  simp only
  rw [h.currentState, hserver.srCheckPacket, hserver.config]
  split
  · split
    · split
      · exact hserver.acceptConreq P packet
      · exact hserver.srCloseConnection P _ _
    · exact hserver.srCloseConnection P _ _
  · exact h.srCloseConnection P _ _

theorem Alike.acceptConresp (packet : RastaPacket) :
    Alike sent₁ sent₂ (acceptConresp P con₁ packet) (acceptConresp P con₂ packet) := by
  have hanswered : Alike sent₁ sent₂ (answerConresp P con₁ packet) (answerConresp P con₂ packet) :=
    (((h.updateConnectionAttrs packet).setCsR packet).setState .up).sendHeartbeat P true
  have hstarted : Alike sent₁ sent₂
      (startKeyExchange P (answerConresp P con₁ packet))
      (startKeyExchange P (answerConresp P con₂ packet)) := by
    unfold startKeyExchange
    rw [hanswered.config]
    split
    · exact hanswered.sendKexRequest P
    · exact hanswered
  unfold LibRasta.Retransmission.acceptConresp superviseConnection
  rw [hstarted.aborted]
  split
  · exact hstarted
  · have hset := hstarted.enableHeartbeat.map 0
      (fun con =>
        { con with
          hbLocked := false
          connectedRecvBufferSize := (extractRastaConnectionData P packet).sendMax.toNat })
      (fun _ => ⟨rfl, rfl, rfl, rfl, rfl⟩) (fun _ _ => rfl)
    exact hset.enableTimeout

theorem Alike.handleConresp (packet : RastaPacket) :
    Alike sent₁ sent₂ (handleConresp P con₁ packet) (handleConresp P con₂ packet) := by
  unfold LibRasta.Retransmission.handleConresp
  rw [h.srCheckPacket, h.currentState, h.role, h.config]
  split
  · generalize con₁.currentState = state
    cases state with
    | start =>
      simp only
      split
      · split
        · exact h.acceptConresp P packet
        · exact h.srCloseConnection P _ _
      · exact h.srCloseConnection P _ _
    | retrReq => exact h.srCloseConnection P _ _
    | retrRun => exact h.srCloseConnection P _ _
    | up => exact h.srCloseConnection P _ _
    | closed => exact h
    | down => exact h
    | kexReq => exact h
    | kexResp => exact h
    | kexAuth => exact h
  · exact h.srCloseConnection P _ _

theorem Alike.handleReceivedPacket (packet : RastaPacket) :
    Alike sent₁ sent₂ (handleReceivedPacket P con₁ packet).1
      (handleReceivedPacket P con₂ packet).1 := by
  unfold LibRasta.Retransmission.handleReceivedPacket
  generalize packet.type = type
  cases type with
  | retrData => exact h.handleRetrdata P packet
  | data => exact h.handleData P packet
  | retrReq => exact h.handleRetrreq P packet
  | retrResp => exact h.handleRetrresp P packet
  | discReq => exact (h.setState .closed).srResetConnection
  | hb => exact h.handleHb P packet
  | kexRequest =>
    simp only
    split
    · exact h.handleKexRequest P packet
    · exact h.countTypeError
  | kexResponse =>
    simp only
    split
    · exact h.handleKexResponse P packet
    · exact h.countTypeError
  | kexAuthentication =>
    simp only
    split
    · exact h.handleKexAuth P packet
    · exact h.countTypeError
  | connReq => exact h.countTypeError
  | connResp => exact h.countTypeError
  | other => exact h.countTypeError

theorem Alike.srRekeyingSkipped :
    (srRekeyingSkipped P con₂).1 = (srRekeyingSkipped P con₁).1 ∧
      Alike sent₁ sent₂ (srRekeyingSkipped P con₁).2 (srRekeyingSkipped P con₂).2 := by
  unfold LibRasta.Retransmission.srRekeyingSkipped
  rw [h.currentState, h.role, h.config, h.kexState, h.getCurrentTimeMs]
  split
  · exact ⟨rfl, h⟩
  · exact ⟨rfl, h.tick⟩

theorem Alike.srReceive (packet : RastaPacket) :
    Alike sent₁ sent₂ (srReceive P con₁ packet).1 (srReceive P con₂ packet).1 := by
  obtain ⟨-, -, hauth, hrange, hcs⟩ := h.checks packet
  obtain ⟨hskip, hskipped⟩ := h.srRekeyingSkipped P
  unfold LibRasta.Retransmission.srReceive
  simp only
  rw [hauth, hrange, hcs, hskip]
  split
  · exact h.handleConreq P packet
  split
  · exact h.handleConresp P packet
  split
  · exact h.map 0 countSafetyError (fun _ => ⟨rfl, rfl, rfl, rfl, rfl⟩) (fun _ _ => rfl)
  split
  · exact h.map 0 countAddressError (fun _ => ⟨rfl, rfl, rfl, rfl, rfl⟩) (fun _ _ => rfl)
  split
  · exact h.countSnError
  split
  · exact h.countCsError
  split
  · exact hskipped.tick.srCloseConnection P _ _
  · exact hskipped.handleReceivedPacket P packet

end Handshake

section Steps

variable (P : Platform)

variable {sent₁ sent₂ : List SentPdu} {con₁ con₂ : Connection}

theorem Alike.sendConreq (h : Alike sent₁ sent₂ con₁ con₂) :
    Alike sent₁ sent₂ (sendConreq P con₁) (sendConreq P con₂) := by
  have hdata : createConnectionRequest P con₂.remoteId con₂.myId con₂.snT
        (LibRasta.Retransmission.curTimestamp con₂) con₂.config.sendMax rastaVersion
        con₂.hashingContext =
      createConnectionRequest P con₁.remoteId con₁.myId con₁.snT
        (LibRasta.Retransmission.curTimestamp con₁) con₁.config.sendMax rastaVersion
        con₁.hashingContext := by
    rw [h.curTimestamp, h.rest]
    rfl
  unfold LibRasta.Retransmission.sendConreq
  simp only
  rw [hdata]
  exact ((h.tick.redundancyMuxSend P _).incrementSnT.setState .start).map 1
    (fun con => LibRasta.Retransmission.tick
      { con with handshakeTimeoutEvent := con.handshakeTimeoutEvent.enable con })
    (fun _ => ⟨rfl, rfl, rfl, rfl, rfl⟩) (fun _ _ => rfl)

theorem Alike.openSession (h : Alike sent₁ sent₂ con₁ con₂) :
    Alike sent₁ sent₂ (openSession P con₁) (openSession P con₂) := by
  rw [openSession_eq, openSession_eq, h.curTimestamp]
  refine Alike.sendConreq P (Alike.tick ?_)
  unfold prepareClient
  rw [h.config]
  exact (h.srInitConnection P .client).map 0
    (fun con =>
      { con with
        snT := con₁.config.initialSequenceNumber
        snI := con₁.config.initialSequenceNumber
        csT := 0
        ctsR := LibRasta.Retransmission.curTimestamp con₁
        tI := con₁.config.tMax })
    (fun _ => ⟨rfl, rfl, rfl, rfl, rfl⟩) (fun _ _ => rfl)

theorem Alike.resetSeqTx (h : Alike sent₁ sent₂ con₁ con₂) :
    Alike sent₁ sent₂ { con₁ with seqTx := 0 } { con₂ with seqTx := 0 } :=
  h.map 0 (fun con => { con with seqTx := 0 }) (fun _ => ⟨rfl, rfl, rfl, rfl, rfl⟩)
    (fun _ _ => rfl)

theorem Alike.srConnect (h : Alike sent₁ sent₂ con₁ con₂) (transportOk : Bool) :
    Alike sent₁ sent₂ (srConnect P con₁ transportOk) (srConnect P con₂ transportOk) := by
  have hconnectable : Connectable con₂ ↔ Connectable con₁ := by
    unfold Connectable
    rw [h.ids.2.1, h.config]
  unfold LibRasta.Retransmission.srConnect
  by_cases hpeer : Connectable con₁
  · rw [if_pos hpeer, if_pos (hconnectable.mpr hpeer)]
    cases transportOk with
    | true => exact h.resetSeqTx.openSession P
    | false => exact h.resetSeqTx
  · rw [if_neg hpeer, if_neg (fun hpeer₂ => hpeer (hconnectable.mp hpeer₂))]
    exact h

theorem Alike.sendMessages (messages : List Bytes) (h : Alike sent₁ sent₂ con₁ con₂) :
    Alike sent₁ sent₂ (sendMessages P messages con₁).1 (sendMessages P messages con₂).1 := by
  induction messages generalizing con₁ con₂ with
  | nil => exact h
  | cons message rest ih =>
    have hflushed : Alike sent₁ sent₂
        (if fifoFull con₁.fifoSend then LibRasta.Retransmission.dataSendEvent P con₁ else con₁)
        (if fifoFull con₂.fifoSend then LibRasta.Retransmission.dataSendEvent P con₂
          else con₂) := by
      rw [h.fifoSend]
      split
      · exact h.dataSendEvent P
      · exact h
    unfold LibRasta.Retransmission.sendMessages
    simp only
    generalize (if fifoFull con₁.fifoSend then LibRasta.Retransmission.dataSendEvent P con₁
      else con₁) = flushed₁ at hflushed ⊢
    generalize (if fifoFull con₂.fifoSend then LibRasta.Retransmission.dataSendEvent P con₂
      else con₂) = flushed₂ at hflushed ⊢
    rw [hflushed.fifoSend]
    split
    · refine ih ⟨?_, .inr rfl, ?_, hflushed.sent⟩
      · rw [hflushed.rest]
        rfl
      · intro i
        have hclock := hflushed.clock (1 + i)
        rw [← Nat.add_assoc, ← Nat.add_assoc] at hclock
        exact hclock
    · exact hflushed

theorem Alike.srSend (h : Alike sent₁ sent₂ con₁ con₂) (messages : List Bytes) :
    Alike sent₁ sent₂ (srSend P con₁ messages).1 (srSend P con₂ messages).1 := by
  have hrefused := (h.sendDisconnectionRequest P .serviceNotAllowed 0).setState .closed
  unfold LibRasta.Retransmission.srSend
  rw [h.currentState, h.config]
  generalize con₁.currentState = state
  cases state with
  | up =>
    simp only
    split
    · exact h
    · exact h.sendMessages P messages
  | closed => exact h.setState .closed
  | down => exact h.setState .closed
  | start => exact hrefused
  | kexReq => exact hrefused
  | kexResp => exact hrefused
  | kexAuth => exact hrefused
  | retrReq => exact hrefused
  | retrRun => exact hrefused

/-- `disable_timed_event` on both supervision timers. -/
theorem Alike.disableTimers (h : Alike sent₁ sent₂ con₁ con₂) :
    Alike sent₁ sent₂
      { con₁ with
        sendHeartbeatEvent := con₁.sendHeartbeatEvent.disable
        timeoutEvent := con₁.timeoutEvent.disable }
      { con₂ with
        sendHeartbeatEvent := con₂.sendHeartbeatEvent.disable
        timeoutEvent := con₂.timeoutEvent.disable } :=
  h.map 0
    (fun con =>
      { con with
        sendHeartbeatEvent := con.sendHeartbeatEvent.disable
        timeoutEvent := con.timeoutEvent.disable })
    (fun _ => ⟨rfl, rfl, rfl, rfl, rfl⟩) (fun _ _ => rfl)

/-- Which timers run and whether heartbeats are locked. -/
theorem Alike.timers (h : Alike sent₁ sent₂ con₁ con₂) :
    con₂.sendHeartbeatEvent.enabled = con₁.sendHeartbeatEvent.enabled ∧
      con₂.timeoutEvent.enabled = con₁.timeoutEvent.enabled ∧
      con₂.rekeyingEvent.enabled = con₁.rekeyingEvent.enabled ∧
      con₂.hbLocked = con₁.hbLocked := by
  rw [h.rest]
  exact ⟨rfl, rfl, rfl, rfl⟩

theorem Alike.eventConnectionExpired (h : Alike sent₁ sent₂ con₁ con₂) :
    Alike sent₁ sent₂ (eventConnectionExpired P con₁) (eventConnectionExpired P con₂) := by
  unfold LibRasta.Retransmission.eventConnectionExpired
  simp only
  rw [h.timers.2.2.2, h.currentState]
  split
  · exact h
  split
  · exact (h.srCloseConnection P _ _).disableTimers
  · exact h.disableTimers

theorem Alike.heartbeatSendEvent (h : Alike sent₁ sent₂ con₁ con₂) :
    Alike sent₁ sent₂ (heartbeatSendEvent P con₁) (heartbeatSendEvent P con₂) := by
  unfold LibRasta.Retransmission.heartbeatSendEvent
  rw [h.timers.2.2.2, h.currentState]
  split
  · exact h
  split
  · exact h.sendHeartbeat P false
  · exact h

theorem Alike.rescheduleRekeying (h : Alike sent₁ sent₂ con₁ con₂) :
    Alike sent₁ sent₂ (rescheduleRekeying con₁) (rescheduleRekeying con₂) := by
  unfold LibRasta.Retransmission.rescheduleRekeying
  by_cases haborted : con₁.aborted = true
  · rw [if_pos haborted, if_pos (h.aborted.trans haborted)]
    exact h
  · rw [if_neg haborted, if_neg (fun haborted₂ => haborted (h.aborted.symm.trans haborted₂))]
    exact h.map 1
      (fun con => LibRasta.Retransmission.tick
        { con with rekeyingEvent := con.rekeyingEvent.reschedule con })
      (fun _ => ⟨rfl, rfl, rfl, rfl, rfl⟩) (fun _ _ => rfl)

theorem Alike.sendTimedKeyExchange (h : Alike sent₁ sent₂ con₁ con₂) :
    Alike sent₁ sent₂ (sendTimedKeyExchange P con₁) (sendTimedKeyExchange P con₂) := by
  unfold LibRasta.Retransmission.sendTimedKeyExchange
  split
  · exact (h.sendKexRequest P).rescheduleRekeying
  · exact h

theorem Alike.srDisconnect (h : Alike sent₁ sent₂ con₁ con₂) :
    Alike sent₁ sent₂ (srDisconnect P con₁) (srDisconnect P con₂) := by
  have hclosed := h.srCloseConnection P .userRequest 0
  unfold LibRasta.Retransmission.srDisconnect
  simp only
  generalize LibRasta.Retransmission.srCloseConnection P con₁ .userRequest 0 = closed₁ at *
  generalize LibRasta.Retransmission.srCloseConnection P con₂ .userRequest 0 = closed₂ at *
  by_cases hrekeying : P.enableOpaque = true ∧ closed₁.config.rekeyingIntervalMs ≠ 0
  · have hrekeying₂ : P.enableOpaque = true ∧ closed₂.config.rekeyingIntervalMs ≠ 0 := by
      rw [hclosed.config]
      exact hrekeying
    rw [if_pos hrekeying, if_pos hrekeying₂]
    exact hclosed.map 0
      (fun con =>
        { con with
          timeoutEvent := con.timeoutEvent.disable
          sendHeartbeatEvent := con.sendHeartbeatEvent.disable
          rekeyingEvent := con.rekeyingEvent.disable })
      (fun _ => ⟨rfl, rfl, rfl, rfl, rfl⟩) (fun _ _ => rfl)
  · have hkeep₂ : ¬ (P.enableOpaque = true ∧ closed₂.config.rekeyingIntervalMs ≠ 0) := by
      rw [hclosed.config]
      exact hrekeying
    rw [if_neg hrekeying, if_neg hkeep₂]
    exact hclosed.disableTimers

theorem Alike.rastaRecv (h : Alike sent₁ sent₂ con₁ con₂) :
    Alike sent₁ sent₂ (rastaRecv con₁) (rastaRecv con₂) := by
  unfold LibRasta.Retransmission.rastaRecv
  by_cases hup : con₁.currentState = .up
  · rw [if_pos hup, if_pos (h.currentState.trans hup)]
    exact h.map 0 (fun con => { con with fifoReceive := (fifoPop con.fifoReceive).2 })
      (fun _ => ⟨rfl, rfl, rfl, rfl, rfl⟩) (fun _ _ => rfl)
  · rw [if_neg hup, if_neg (fun hup₂ => hup (h.currentState.symm.trans hup₂))]
    exact h

theorem dataSendEvent_of_empty {con : Connection} (hempty : con.fifoSend.items = []) :
    dataSendEvent P con = { con with sendEvent := con.sendEvent.disable } := by
  have hsize : fifoGetSize con.fifoSend = 0 := by
    rw [fifoGetSize, hempty]
    rfl
  have hbacklog : ¬ 0 < sendBacklogSize con := by
    unfold sendBacklogSize
    simp only [hsize, Nat.min_zero, ite_self]
    omega
  unfold dataSendEvent sendQueued stopIdleSending
  rw [if_neg hbacklog, if_pos hsize]

/-- The send timer of only one of them may be running, but then nothing is queued. -/
theorem Alike.dataSend (h : Alike sent₁ sent₂ con₁ con₂) :
    Alike sent₁ sent₂
      (if con₁.sendEvent.enabled then LibRasta.Retransmission.dataSendEvent P con₁ else con₁)
      (if con₂.sendEvent.enabled then LibRasta.Retransmission.dataSendEvent P con₂ else con₂) := by
  rcases h.sendEvent with hempty | hsame
  · have hempty₂ : con₂.fifoSend.items = [] := by
      rw [h.fifoSend]
      exact hempty
    rw [dataSendEvent_of_empty P hempty, dataSendEvent_of_empty P hempty₂]
    have hrest := h.rest
    split
    · split
      · exact ⟨by rw [hrest]; rfl, .inl hempty, h.clock, h.sent⟩
      · exact ⟨by rw [hrest]; rfl, .inl hempty, h.clock, h.sent⟩
    · split
      · exact ⟨by rw [hrest]; rfl, .inl hempty, h.clock, h.sent⟩
      · exact h
  · rw [hsame]
    split
    · exact h.dataSendEvent P
    · exact h

theorem Alike.endpointStep (h : Alike sent₁ sent₂ con₁ con₂) (event : Event) :
    Alike sent₁ sent₂ (endpointStep P con₁ event) (endpointStep P con₂ event) := by
  obtain ⟨hheartbeat, htimeout, hrekeying, -⟩ := h.timers
  unfold LibRasta.Retransmission.endpointStep
  rw [h.aborted]
  split
  · exact h
  cases event with
  | receive packet => exact h.srReceive P packet
  | dataSend => exact h.dataSend P
  | heartbeat =>
    simp only
    rw [hheartbeat]
    split
    · exact h.heartbeatSendEvent P
    · exact h
  | connectionExpired =>
    simp only
    rw [htimeout]
    split
    · exact h.eventConnectionExpired P
    · exact h
  | timedKeyExchange =>
    simp only
    rw [hrekeying]
    split
    · exact h.sendTimedKeyExchange P
    · exact h
  | send messages => exact h.srSend P messages
  | connect transportOk => exact h.srConnect P transportOk
  | connectReturn =>
    exact h.map 0 srConnectReturn (fun _ => ⟨rfl, rfl, rfl, rfl, rfl⟩) (fun _ _ => rfl)
  | disconnect => exact h.srDisconnect P
  | transportClosed => exact (h.setState .closed).srResetConnection
  | recv => exact h.rastaRecv
  | accept => exact h.resetSeqTx
  | acceptReturn =>
    exact h.map 0 rastaAcceptReturn (fun _ => ⟨rfl, rfl, rfl, rfl, rfl⟩) (fun _ _ => rfl)

end Steps

end LibRasta.Retransmission
