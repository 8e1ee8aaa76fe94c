/-
Module: LibRasta/Retransmission/Isolation.lean
source: src/c/retransmission/safety_retransmission.c, src/c/retransmission/handlers.c, src/c/redundancy/rasta_redundancy_channel.c
digest: What an earlier session leaves behind in a closed connection, and that two new sessions which find the same leftovers and empty queues send the same PDUs and deliver the same messages.
-/

import LibRasta.Retransmission.Alike
import LibRasta.Retransmission.Handshake

set_option autoImplicit false
set_option relaxedAutoImplicit false

namespace LibRasta.Retransmission

open LibRasta.Lib
open LibRasta.Util
open LibRasta.Factory

section Leftovers

variable (P : Platform)

/-- No message of an earlier session is queued. -/
def QueuesEmpty (con : Connection) : Prop :=
  con.fifoSend.items = [] ∧ con.fifoRetransmission.items = [] ∧ con.fifoReceive.items = []

instance (con : Connection) : Decidable (QueuesEmpty con) :=
  inferInstanceAs (Decidable (_ ∧ _))

/-- The state of the key exchange as `sr_init_connection` leaves it. -/
def initialKexState (con : Connection) : KeyExchangeState :=
  if P.enableOpaque then { con.kexState with lastKeyExchangedMillis := 0 } else con.kexState

/-- Two closed connections hold no messages, and they agree on everything the start of a session
by `event` leaves as it is: a client keeps the numbers received from its last peer, a server the
number of its next PDU in the redundancy layer. -/
structure SameLeftovers (event : Event) (con₁ con₂ : Connection) : Prop where
  empty₁ : QueuesEmpty con₁
  empty₂ : QueuesEmpty con₂
  lasterror : con₂.lasterror = con₁.lasterror
  key : con₂.srHashingContext.key = con₁.srHashingContext.key
  kexState : initialKexState P con₂ = initialKexState P con₁
  opaqueCalls : con₂.opaqueCalls = con₁.opaqueCalls
  rekeying : con₂.rekeyingEvent.enabled = con₁.rekeyingEvent.enabled
  client : ∀ transportOk, event = .connect transportOk →
    con₂.snR = con₁.snR ∧ con₂.csR = con₁.csR ∧ con₂.tsR = con₁.tsR
  server : ∀ packet, event = .receive packet → con₂.seqTx = con₁.seqTx

/-- The two connections were made from the same configuration. -/
structure SameConstants (con₁ con₂ : Connection) : Prop where
  config : con₂.config = con₁.config
  myId : con₂.myId = con₁.myId
  remoteId : con₂.remoteId = con₁.remoteId
  hashingContext : con₂.hashingContext = con₁.hashingContext
  srAlgorithm : con₂.srHashingContext.algorithm = con₁.srHashingContext.algorithm
  srHashLength : con₂.srHashingContext.hashLength = con₁.srHashingContext.hashLength
  fifoSend : con₂.fifoSend.maxSize = con₁.fifoSend.maxSize
  fifoReceive : con₂.fifoReceive.maxSize = con₁.fifoReceive.maxSize
  fifoRetransmission : con₂.fifoRetransmission.maxSize = con₁.fifoRetransmission.maxSize

theorem sameConstants_of_runs (config : RastaConfigInfo) (clock₁ clock₂ : ℕ → ℕ)
    (past₁ past₂ : List Event) :
    SameConstants (run (endpointStep P) (rastaLibInitConfiguration config clock₁) past₁)
      (run (endpointStep P) (rastaLibInitConfiguration config clock₂) past₂) := by
  have h₁ := run_fixed P (rastaLibInitConfiguration config clock₁) past₁
  have h₂ := run_fixed P (rastaLibInitConfiguration config clock₂) past₂
  exact ⟨h₂.config.trans h₁.config.symm, h₂.myId.trans h₁.myId.symm,
    h₂.remoteId.trans h₁.remoteId.symm, h₂.hashingContext.trans h₁.hashingContext.symm,
    h₂.srAlgorithm.trans h₁.srAlgorithm.symm, h₂.srHashLength.trans h₁.srHashLength.symm,
    h₂.fifoSend.trans h₁.fifoSend.symm, h₂.fifoReceive.trans h₁.fifoReceive.symm,
    h₂.fifoRetransmission.trans h₁.fifoRetransmission.symm⟩

end Leftovers

section Start

variable (P : Platform)

/-- The connection from which a client sends its request, with the state of the key exchange
given. -/
def clientStart (con : Connection) (kexState : KeyExchangeState) (now : UInt32) : Connection :=
  { srResetConnection con with
    role := .client
    kexState := kexState
    snT := con.config.initialSequenceNumber
    snI := con.config.initialSequenceNumber
    csT := 0
    ctsR := now
    tI := con.config.tMax
    seqTx := 0 }

theorem prepareClient_eq (con : Connection) (now : UInt32) :
    prepareClient P { con with seqTx := 0 } now =
      clientStart con (initialKexState P con) now := by
  unfold prepareClient srInitConnection initialKexState
  cases P.enableOpaque with
  | true => rfl
  | false => rfl

/-- The connection from which a server answers a request. -/
def serverStart (con : Connection) (kexState : KeyExchangeState) (packet : RastaPacket) :
    Connection :=
  noteConreq P
    { srResetConnection con with
      role := .server
      kexState := kexState
      snT := con.config.initialSequenceNumber
      snI := con.config.initialSequenceNumber
      currentState := .down } packet

theorem noteConreq_eq (con : Connection) (packet : RastaPacket) :
    noteConreq P (prepareServer P con) packet =
      serverStart P con (initialKexState P con) packet := by
  unfold prepareServer srInitConnection initialKexState serverStart
  cases P.enableOpaque with
  | true => rfl
  | false => rfl

/-- `con₁` with everything of `con₂` that the start of a session sets or that no handler reads,
and with the given values of what only one of the two kinds of start sets. -/
def overlay (con₂ con₁ : Connection) (seqTx : UInt64) (snR csR tsR : UInt32) : Connection :=
  { con₁ with
    isNew := con₂.isNew
    handshakeTimeoutEvent := con₂.handshakeTimeoutEvent
    sendHeartbeatEvent := con₂.sendHeartbeatEvent
    timeoutEvent := con₂.timeoutEvent
    rekeyingEvent := { con₂.rekeyingEvent with enabled := con₁.rekeyingEvent.enabled }
    sendEvent := con₂.sendEvent
    hbLocked := con₂.hbLocked
    currentState := con₂.currentState
    connectedRecvBufferSize := con₂.connectedRecvBufferSize
    role := con₂.role
    snT := con₂.snT
    snR := snR
    snI := con₂.snI
    csT := con₂.csT
    csR := csR
    tsR := tsR
    ctsR := con₂.ctsR
    tI := con₂.tI
    receivedDiagnosticMessageCount := con₂.receivedDiagnosticMessageCount
    diagnosticIntervals := con₂.diagnosticIntervals
    errors := con₂.errors
    kexState := con₂.kexState
    seqTx := seqTx
    clock := con₂.clock
    clockReads := con₂.clockReads
    sent := con₂.sent }

variable {P} {event : Event} {con₁ con₂ : Connection}

theorem fifo_eq_of_empty {a b : Fifo Bytes} (ha : a.items = []) (hb : b.items = [])
    (hsize : a.maxSize = b.maxSize) : a = b :=
  Fifo.ext_items (ha.trans hb.symm) hsize

theorem SameLeftovers.eq_overlay (h : SameLeftovers P event con₁ con₂)
    (hsame : SameConstants con₁ con₂) (haborted : con₂.aborted = con₁.aborted) :
    con₂ = overlay con₂ con₁ con₂.seqTx con₂.snR con₂.csR con₂.tsR := by
  have hsend := fifo_eq_of_empty h.empty₂.1 h.empty₁.1 hsame.fifoSend
  have hretransmission :=
    fifo_eq_of_empty h.empty₂.2.1 h.empty₁.2.1 hsame.fifoRetransmission
  have hreceive := fifo_eq_of_empty h.empty₂.2.2 h.empty₁.2.2 hsame.fifoReceive
  have hcontext : con₂.srHashingContext = con₁.srHashingContext := by
    have hlength := hsame.srHashLength
    have halgorithm := hsame.srAlgorithm
    have hkey := h.key
    cases hctx₁ : con₁.srHashingContext
    cases hctx₂ : con₂.srHashingContext
    rw [hctx₁, hctx₂] at hlength halgorithm hkey
    simp only at hlength halgorithm hkey
    rw [hlength, halgorithm, hkey]
  unfold overlay
  rw [← hsend, ← hretransmission, ← hreceive, ← hcontext, ← hsame.config, ← hsame.myId,
    ← hsame.remoteId, ← hsame.hashingContext, ← h.lasterror, ← h.opaqueCalls, ← h.rekeying,
    ← haborted]

/-- The clock will show the same readings from now on. -/
def SameReadings (con₁ con₂ : Connection) : Prop :=
  ∀ i, con₂.clock (con₂.clockReads + i) = con₁.clock (con₁.clockReads + i)

theorem SameLeftovers.clientStart (h : SameLeftovers P event con₁ con₂)
    (hsame : SameConstants con₁ con₂) (haborted : con₂.aborted = con₁.aborted)
    (hclock : SameReadings con₁ con₂) {transportOk : Bool} (hevent : event = .connect transportOk)
    (kexState : KeyExchangeState) (now : UInt32) :
    Alike con₁.sent con₂.sent (clientStart con₁ kexState now)
      (clientStart con₂ kexState now) where
  rest := by
    obtain ⟨hsnR, hcsR, htsR⟩ := h.client transportOk hevent
    have hover := h.eq_overlay hsame haborted
    rw [hsnR, hcsR, htsR] at hover
    rw [hover]
    rfl
  sendEvent := .inl h.empty₁.1
  clock := hclock
  sent := ⟨[], (List.append_nil _).symm, (List.append_nil _).symm⟩

theorem SameLeftovers.serverStart (h : SameLeftovers P event con₁ con₂)
    (hsame : SameConstants con₁ con₂) (haborted : con₂.aborted = con₁.aborted)
    (hclock : SameReadings con₁ con₂) {packet : RastaPacket} (hevent : event = .receive packet)
    (kexState : KeyExchangeState) :
    Alike con₁.sent con₂.sent (serverStart P con₁ kexState packet)
      (serverStart P con₂ kexState packet) where
  rest := by
    have hover := h.eq_overlay hsame haborted
    rw [h.server packet hevent] at hover
    rw [hover]
    rfl
  sendEvent := .inl h.empty₁.1
  clock := hclock
  sent := ⟨[], (List.append_nil _).symm, (List.append_nil _).symm⟩

/-- The request is accepted by both or by none. -/
theorem conreqAccepted_congr (hsame : SameConstants con₁ con₂)
    (hclosed₁ : con₁.currentState = .closed) (hclosed₂ : con₂.currentState = .closed)
    (packet : RastaPacket) :
    ConreqAccepted P con₁ packet ↔ ConreqAccepted P con₂ packet := by
  have hcheck : packet.type = .connReq →
      srCheckPacket (prepareServer P con₂) packet = srCheckPacket (prepareServer P con₁) packet := by
    intro htype
    have hmy : (prepareServer P con₂).myId = (prepareServer P con₁).myId :=
      ((prepareServer_fixed P con₂).myId.trans hsame.myId).trans
        (prepareServer_fixed P con₁).myId.symm
    have hremote : (prepareServer P con₂).remoteId = (prepareServer P con₁).remoteId :=
      ((prepareServer_fixed P con₂).remoteId.trans hsame.remoteId).trans
        (prepareServer_fixed P con₁).remoteId.symm
    simp only [srCheckPacket, srMessageAuthentic, srSnRangeValid, srCsValid, srSnInSeq, srCtsInSeq,
      htype, hmy, hremote]
    simp
  unfold ConreqAccepted
  rw [hsame.config, hclosed₁, hclosed₂]
  constructor
  · rintro ⟨htype, hstate, hpacket, hversion⟩
    exact ⟨htype, hstate, (hcheck htype).trans hpacket, hversion⟩
  · rintro ⟨htype, hstate, hpacket, hversion⟩
    exact ⟨htype, hstate, (hcheck htype).symm.trans hpacket, hversion⟩

theorem endpointStep_connect {con : Connection} (hrunning : con.aborted = false)
    (hpeer : Connectable con) :
    endpointStep P con (.connect true) =
      sendConreq P (tick (LibRasta.Retransmission.clientStart con (initialKexState P con)
        (curTimestamp con))) := by
  have hstep : endpointStep P con (.connect true) = openSession P { con with seqTx := 0 } := by
    simp [endpointStep, hrunning, srConnect, hpeer]
  rw [hstep, openSession_eq, prepareClient_eq]
  rfl

theorem endpointStep_conreq {con : Connection} {packet : RastaPacket}
    (hrunning : con.aborted = false) (h : ConreqAccepted P con packet) :
    endpointStep P con (.receive packet) =
      redundancyMuxSend P
        (setState (incrementSnT (tick (LibRasta.Retransmission.serverStart P con
          (initialKexState P con) packet))) .start)
        (createConnectionResponse P
          { nextHeader (LibRasta.Retransmission.serverStart P con (initialKexState P con)
              packet) with
            confirmedTimestamp := packet.confirmedTimestamp }
          con.config.sendMax rastaVersion con.hashingContext) := by
  obtain ⟨htype, hstate, hcheck, hversion⟩ := h
  have hconfig := prepareServer_config P con
  have hstep : endpointStep P con (.receive packet) =
      acceptConreq P (prepareServer P con) packet := by
    simp [endpointStep, hrunning, srReceive, htype, handleConreq, hstate, hcheck, hconfig,
      hversion]
  rw [hstep, acceptConreq_eq, noteConreq_eq, hconfig,
    (prepareServer_fixed P con).hashingContext]

/-- The first step of the session. -/
theorem SameLeftovers.start (h : SameLeftovers P event con₁ con₂)
    (hsame : SameConstants con₁ con₂) (hclosed₁ : con₁.currentState = .closed)
    (hclosed₂ : con₂.currentState = .closed) (hrunning₁ : con₁.aborted = false)
    (hrunning₂ : con₂.aborted = false) (hclock : SameReadings con₁ con₂)
    (hstarts : StartsSession P con₁ event) :
    Alike con₁.sent con₂.sent (endpointStep P con₁ event) (endpointStep P con₂ event) := by
  have haborted : con₂.aborted = con₁.aborted := hrunning₂.trans hrunning₁.symm
  cases event with
  | connect transportOk =>
    obtain ⟨rfl, hpeer₁⟩ := hstarts
    have hpeer₂ : Connectable con₂ := by
      unfold Connectable
      rw [hsame.remoteId, hsame.config]
      exact hpeer₁
    have hnow : curTimestamp con₂ = curTimestamp con₁ := by
      have hfirst := hclock 0
      simp only [Nat.add_zero] at hfirst
      simp only [curTimestamp, hfirst]
    rw [endpointStep_connect hrunning₁ hpeer₁, endpointStep_connect hrunning₂ hpeer₂, hnow,
      h.kexState]
    exact (h.clientStart hsame haborted hclock rfl _ _).tick.sendConreq P
  | receive packet =>
    have haccepted₂ := (conreqAccepted_congr hsame hclosed₁ hclosed₂ packet).mp hstarts
    have hnoted := h.serverStart hsame haborted hclock rfl (initialKexState P con₁)
    rw [endpointStep_conreq hrunning₁ hstarts, endpointStep_conreq hrunning₂ haccepted₂, h.kexState,
      hnoted.nextHeader, hsame.config, hsame.hashingContext]
    exact (hnoted.tick.incrementSnT.setState .start).redundancyMuxSend P _
  | _ => exact hstarts.elim

end Start

section Sessions

variable (P : Platform)

/-- The PDUs sent since the beginning of a session. -/
def sentSince (start con : Connection) : List SentPdu := con.sent.drop start.sent.length

/-- The numbers and times of a connection. -/
def sessionNumbers (con : Connection) : List UInt32 :=
  [con.snT, con.snR, con.csT, con.csR, con.tsR, con.ctsR]

variable {P} {con₁ con₂ after₁ after₂ : Connection} {sent₁ sent₂ : List SentPdu}
  {event : Event}

theorem Alike.sentSince_eq (h : Alike con₁.sent con₂.sent after₁ after₂) :
    sentSince con₂ after₂ = sentSince con₁ after₁ := by
  obtain ⟨pdus, hsent₁, hsent₂⟩ := h.sent
  unfold sentSince
  rw [hsent₁, hsent₂, List.drop_left, List.drop_left]

theorem Alike.sessionNumbers_eq (h : Alike sent₁ sent₂ con₁ con₂) :
    sessionNumbers con₂ = sessionNumbers con₁ := by
  rw [h.rest]
  rfl

/-- The first step leaves the queues alone and goes to START. -/
theorem startsSession_start {con : Connection} (hrunning : con.aborted = false)
    (hstarts : StartsSession P con event) :
    (endpointStep P con event).currentState = .start ∧
      (QueuesEmpty con → QueuesEmpty (endpointStep P con event)) := by
  cases event with
  | connect transportOk =>
    obtain ⟨rfl, hpeer⟩ := hstarts
    rw [endpointStep_connect hrunning hpeer]
    exact ⟨rfl, id⟩
  | receive packet =>
    rw [endpointStep_conreq hrunning hstarts]
    exact ⟨rfl, id⟩
  | _ => exact hstarts.elim

end Sessions

section Theorem

variable (P : Platform)

/-- Two histories of endpoints with one configuration end in closed connections, and a session
starts. If the connections hold no messages and agree on the leftovers, then at START the queues
are empty and the numbers agree, and on the same clock readings and events the sessions send the
same PDUs and deliver the same messages. -/
theorem sessions_isolated (config : RastaConfigInfo) (clock₁ clock₂ : ℕ → ℕ)
    (past₁ past₂ : List Event) (con₁ con₂ : Connection)
    (hpast₁ : con₁ = run (endpointStep P) (rastaLibInitConfiguration config clock₁) past₁)
    (hpast₂ : con₂ = run (endpointStep P) (rastaLibInitConfiguration config clock₂) past₂)
    (hclosed₁ : con₁.currentState = .closed) (hclosed₂ : con₂.currentState = .closed)
    (hrunning₁ : con₁.aborted = false) (hrunning₂ : con₂.aborted = false)
    (hclock : SameReadings con₁ con₂) (event : Event) (hstarts : StartsSession P con₁ event)
    (hleft : SameLeftovers P event con₁ con₂) :
    (endpointStep P con₁ event).currentState = .start ∧
      (endpointStep P con₂ event).currentState = .start ∧
      QueuesEmpty (endpointStep P con₁ event) ∧ QueuesEmpty (endpointStep P con₂ event) ∧
      sessionNumbers (endpointStep P con₂ event) = sessionNumbers (endpointStep P con₁ event) ∧
      ∀ events,
        sentSince con₂ (run (endpointStep P) con₂ (event :: events)) =
            sentSince con₁ (run (endpointStep P) con₁ (event :: events)) ∧
          (run (endpointStep P) con₂ (event :: events)).fifoReceive =
            (run (endpointStep P) con₁ (event :: events)).fifoReceive := by
  have hsame : SameConstants con₁ con₂ := by
    rw [hpast₁, hpast₂]
    exact sameConstants_of_runs P config clock₁ clock₂ past₁ past₂
  have hfirst := hleft.start hsame hclosed₁ hclosed₂ hrunning₁ hrunning₂ hclock hstarts
  obtain ⟨hstart₁, hempty₁⟩ := startsSession_start hrunning₁ hstarts
  have hqueues₁ := hempty₁ hleft.empty₁
  refine ⟨hstart₁, hfirst.currentState.trans hstart₁, hqueues₁, ?_, hfirst.sessionNumbers_eq, ?_⟩
  · unfold QueuesEmpty
    rw [hfirst.fifoSend, hfirst.fifoRetransmission, hfirst.fifoReceive]
    exact hqueues₁
  · intro events
    have hend := run_related (endpointStep P) (fun _ _ event h => h.endpointStep P event) hfirst
      events
    exact ⟨hend.sentSince_eq, hend.fifoReceive⟩

end Theorem

section Example

/-- The endpoint of `exampleConfig` after some events, with a clock that stands still. -/
def exampleHistory (past : List Event) : Connection :=
  run (endpointStep referencePlatform) (rastaLibInitConfiguration exampleConfig fun _ => 0) past

/-- A request the endpoint accepts. -/
def exampleConnReq : RastaPacket :=
  { exampleConnResp with type := .connReq, confirmedSequenceNumber := 0 }

/-- A server whose first session broke down before it was established and one that never had a
session. -/
theorem sessions_isolated_server :
    sentSince (exampleHistory [.receive exampleConnReq, .transportClosed, .accept])
        (run (endpointStep referencePlatform)
          (exampleHistory [.receive exampleConnReq, .transportClosed, .accept])
          [.receive exampleConnReq]) =
      sentSince (exampleHistory [])
        (run (endpointStep referencePlatform) (exampleHistory []) [.receive exampleConnReq]) := by
  have hleft : SameLeftovers referencePlatform (.receive exampleConnReq) (exampleHistory [])
      (exampleHistory [.receive exampleConnReq, .transportClosed, .accept]) :=
    ⟨by decide, by decide +kernel, by decide +kernel, by decide +kernel, by decide +kernel,
      by decide +kernel, by decide +kernel, nofun, fun _ _ => by decide +kernel⟩
  exact ((sessions_isolated referencePlatform exampleConfig (fun _ => 0) (fun _ => 0) []
    [.receive exampleConnReq, .transportClosed, .accept] _ _ rfl rfl (by decide)
    (by decide +kernel) (by decide) (by decide +kernel) (fun _ => rfl)
    (.receive exampleConnReq) (by decide +kernel) hleft).2.2.2.2.2 []).1

/-- A message that was queued when the user disconnected is still there when the next session
reaches START, and it is sent in that session. -/
theorem leftover_message_sent :
    (exampleHistory []).currentState = .closed ∧
      (exampleHistory [.connect true, .receive exampleConnResp, .send [[0x68, 0x69]],
        .disconnect]).currentState = .closed ∧
      SameReadings (exampleHistory []) (exampleHistory [.connect true, .receive exampleConnResp,
        .send [[0x68, 0x69]], .disconnect]) ∧
      StartsSession referencePlatform (exampleHistory []) (.connect true) ∧
      ¬ QueuesEmpty (endpointStep referencePlatform (exampleHistory [.connect true,
        .receive exampleConnResp, .send [[0x68, 0x69]], .disconnect]) (.connect true)) ∧
      (sentSince (exampleHistory []) (run (endpointStep referencePlatform) (exampleHistory [])
        [.connect true, .receive exampleConnResp, .dataSend])).map (fun pdu => pdu.packet.type) =
        [.connReq, .hb] ∧
      (sentSince
        (exampleHistory [.connect true, .receive exampleConnResp, .send [[0x68, 0x69]],
          .disconnect])
        (run (endpointStep referencePlatform)
          (exampleHistory [.connect true, .receive exampleConnResp, .send [[0x68, 0x69]],
            .disconnect])
          [.connect true, .receive exampleConnResp, .dataSend])).map (fun pdu => pdu.packet.type) =
        [.connReq, .hb, .data] :=
  ⟨by decide, by decide +kernel, fun _ => rfl, by decide +kernel, by decide +kernel,
    by decide +kernel, by decide +kernel⟩

end Example

end LibRasta.Retransmission
