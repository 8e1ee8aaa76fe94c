/-
Module: LibRasta/Retransmission/Control.lean
source: src/c/transport/events.c, src/c/retransmission/handlers.c, src/c/retransmission/safety_retransmission.c, src/c/experimental/handlers.c
digest: Everything a step can do to the state of a connection and to the two timers that supervise it. An established connection is supervised, and one that waits for a retransmission has asked for it, in every run that avoids the branches which change one without the other.
-/

import LibRasta.Retransmission.Handshake

set_option autoImplicit false
set_option relaxedAutoImplicit false

namespace LibRasta.Retransmission

open LibRasta.Lib
open LibRasta.Util

/-- The state of a connection with what decides whether it is supervised. -/
structure Control where
  state : RastaSrState
  heartbeatEnabled : Bool
  timeoutEnabled : Bool
  hbLocked : Bool
deriving DecidableEq, Repr

def control (con : Connection) : Control where
  state := con.currentState
  heartbeatEnabled := con.sendHeartbeatEvent.enabled
  timeoutEnabled := con.timeoutEvent.enabled
  hbLocked := con.hbLocked

/-- What `sr_reset_connection` leaves. -/
def resetControl : Control where
  state := .closed
  heartbeatEnabled := false
  timeoutEnabled := false
  hbLocked := true

/-- What the end of the handshake leaves. -/
def watchedControl (state : RastaSrState) : Control where
  state := state
  heartbeatEnabled := true
  timeoutEnabled := true
  hbLocked := false

/-- The states after the handshake, those of the key exchange included. -/
def Connected (state : RastaSrState) : Prop :=
  Established state ∨ state = .kexReq ∨ state = .kexResp ∨ state = .kexAuth

instance (state : RastaSrState) : Decidable (Connected state) :=
  inferInstanceAs (Decidable (_ ∨ _))

section Conditions

variable (P : Platform) (con : Connection)

/-- A packet that makes the connection wait for a retransmission it did not ask for. -/
def WaitsUnasked (packet : RastaPacket) : Prop :=
  ReachesHandler P con packet ∧ srSnInSeq con packet = false ∧
    (packet.type = .hb ∧ (con.currentState = .up ∨ con.currentState = .retrRun) ∨
      packet.type = .retrReq ∧ con.currentState ≠ .retrReq)

instance (packet : RastaPacket) : Decidable (WaitsUnasked P con packet) :=
  inferInstanceAs (Decidable (_ ∧ _))

/-- The rekeying timer fires. -/
def RekeyingFires : Prop :=
  P.enableOpaque = true ∧ con.rekeyingEvent.enabled = true

instance : Decidable (RekeyingFires P con) :=
  inferInstanceAs (Decidable (_ ∧ _))

/-- A retransmission request was sent. -/
def RetrReqSent (before after : Connection) : Prop :=
  ∃ pdu ∈ after.sent.drop before.sent.length, pdu.packet.type = .retrReq

instance (before after : Connection) : Decidable (RetrReqSent before after) :=
  inferInstanceAs (Decidable (∃ pdu ∈ after.sent.drop before.sent.length, _))

/-- Everything a step can do to the state and its supervision. -/
inductive ControlStep (event : Event) (after : Connection) : Prop
  | same (hafter : control after = control con)
  | reset (hafter : control after = resetControl)
  | starts (hafter : control after = { resetControl with state := .start })
  | watches (state : RastaSrState) (hstate : state = .up ∨ state = .kexReq ∨ state = .kexResp)
      (hafter : control after = watchedControl state)
  | asks (hbefore : Connected con.currentState) (hsent : RetrReqSent con after)
      (hafter : control after = { control con with state := .retrReq })
  | waits (packet : RastaPacket) (hevent : event = .receive packet)
      (hunasked : WaitsUnasked P con packet)
      (hafter : control after = { control con with state := .retrReq })
  | moves (state : RastaSrState) (hbefore : Connected con.currentState)
      (hstate : Connected state ∧ state ≠ .retrReq)
      (hafter : control after = { control con with state := state })
  | rekeys (hevent : event = .timedKeyExchange) (hfires : RekeyingFires P con)
      (hafter : control after = { control con with state := .kexResp })
  | refuses (appMessages : List Bytes) (hevent : event = .send appMessages)
      (hbefore : con.currentState ≠ .up)
      (hafter : control after = { control con with state := .closed })
  | expires (hevent : event = .connectionExpired) (hbefore : ¬ Established con.currentState)
      (hafter : control after =
        { control con with heartbeatEnabled := false, timeoutEnabled := false })
  | ends (haborted : after.aborted = true)
      (hstate : after.currentState = con.currentState ∨ after.currentState = .up)

end Conditions

section Functions

variable (P : Platform) {con base after : Connection} {packet : RastaPacket} {event : Event}

theorem control_setState (con : Connection) (state : RastaSrState) :
    control (setState con state) = { control con with state := state } := rfl

theorem incrementSnT_control (con : Connection) : control (incrementSnT con) = control con := rfl

theorem stampKeyExchange_control (con : Connection) :
    control (stampKeyExchange con) = control con := rfl

theorem setSessionKey_control (con : Connection) : control (setSessionKey con) = control con := rfl

theorem updateKexAttrs_control (con : Connection) (packet : RastaPacket) :
    control (updateKexAttrs con packet) = control con := rfl

theorem Counted.control (h : Counted con base) : control base = control con := by
  obtain ⟨_, _, _, _, rfl⟩ := h
  rfl

theorem SendFrame.control {before after : Connection} (h : SendFrame before after) :
    control after = control before := by
  unfold Retransmission.control
  rw [h.currentState, h.heartbeatEnabled, h.timeoutEvent, h.hbLocked]

theorem DeliveryFrame.control {before after : Connection} (h : DeliveryFrame before after) :
    control after = control before := by
  rw [h.rest]
  rfl

theorem srCloseConnection_control (con : Connection) (reason : RastaDisconnectReason)
    (details : UInt16) : control (srCloseConnection P con reason details) = resetControl := by
  unfold srCloseConnection
  split
  · rfl
  · rfl

theorem acceptData_control (con : Connection) (packet : RastaPacket) :
    control (acceptData P con packet) = control con :=
  (srRemoveConfirmedMessages_frame P _).control.trans
    (srAddAppMessagesToBuffer_frame P con packet).control

theorem acceptHb_control (con : Connection) (packet : RastaPacket) :
    control (acceptHb P con packet) = control con ∨
      con.currentState = .retrRun ∧
        control (acceptHb P con packet) = { control con with state := .up } := by
  have hdelivered : DeliveryFrame con (srDiagnosticUpdate P
      (srUpdateTimeoutInterval P con packet.confirmedTimestamp) packet) :=
    (srUpdateTimeoutInterval_frame P con packet.confirmedTimestamp).trans
      (srDiagnosticUpdate_frame P _ packet)
  have hremoved : control (srRemoveConfirmedMessages P
      (updateConfirmedAttrs (updateConnectionAttrs (srDiagnosticUpdate P
        (srUpdateTimeoutInterval P con packet.confirmedTimestamp) packet) packet) packet)) =
      control con :=
    (srRemoveConfirmedMessages_frame P _).control.trans hdelivered.control
  unfold acceptHb
  simp only
  split
  · rename_i hrun
    right
    refine ⟨(congrArg Control.state hremoved).symm.trans hrun, ?_⟩
    rw [control_setState, hremoved]
  · exact .inl hremoved

theorem establishByHb_control (con : Connection) (packet : RastaPacket) :
    control (establishByHb con packet) =
      watchedControl (if con.config.kexMode = .none then .up else .kexReq) := rfl

theorem prepareServer_control (con : Connection) :
    control (prepareServer P con) = { resetControl with state := .down } := by
  unfold prepareServer srInitConnection
  cases P.enableOpaque
  · rfl
  · rfl

theorem acceptConreq_control (con : Connection) (packet : RastaPacket) :
    control (acceptConreq P con packet) = { control con with state := .start } := by
  unfold acceptConreq redundancyMuxSend control
  dsimp only [setState, incrementSnT, tick, updateConfirmedAttrs, updateConnectionAttrs]

theorem sendKexRequest_control (con : Connection) :
    sendKexRequest P con = abort con ∨
      control (sendKexRequest P con) = { control con with state := .kexResp } ∧
        (sendKexRequest P con).aborted = con.aborted := by
  obtain habort | ⟨base, request, hbase, -, -, -, hsend⟩ := sendKexRequest_cases P con
  · exact .inl habort
  · have hcontrol : control (armRekeying base) = control con := by
      rw [← hbase.control]
      unfold armRekeying
      split
      · rfl
      · rfl
    have haborted : (armRekeying base).aborted = con.aborted := by
      obtain ⟨_, _, _, _, rfl⟩ := hbase
      unfold armRekeying
      split
      · rfl
      · rfl
    right
    rw [hsend]
    generalize armRekeying base = armed at hcontrol haborted
    have hframe := redundancyMuxSend_frame P armed request
    refine ⟨?_, hframe.aborted.trans haborted⟩
    rw [control_setState, stampKeyExchange_control, incrementSnT_control, hframe.control, hcontrol]

/-- The two handlers that answer a key exchange PDU. -/
theorem answerKex_control (con : Connection) (response packet : RastaPacket)
    (state : RastaSrState) :
    control (setSessionKey (setState (srRemoveConfirmedMessages P (updateKexAttrs (incrementSnT
      (redundancyMuxSend P con response)) packet)) state)) = { control con with state := state } := by
  rw [setSessionKey_control, control_setState, (srRemoveConfirmedMessages_frame P _).control,
    updateKexAttrs_control, incrementSnT_control, (redundancyMuxSend_frame P con response).control]

theorem superviseConnection_control (con : Connection) (packet : RastaPacket)
    (hrunning : con.aborted = false) :
    control (superviseConnection P con packet) = watchedControl con.currentState := by
  unfold superviseConnection
  rw [hrunning, if_neg Bool.false_ne_true]
  rfl

theorem acceptConresp_control (con : Connection) (packet : RastaPacket)
    (hrunning : con.aborted = false) :
    control (acceptConresp P con packet) = watchedControl .up ∨
      control (acceptConresp P con packet) = watchedControl .kexResp ∨
      (acceptConresp P con packet).aborted = true ∧
        (acceptConresp P con packet).currentState = .up := by
  have hanswer := sendHeartbeat_frame P
    (setState (setCsR (updateConnectionAttrs con packet) packet) .up) true
  have hup : (answerConresp P con packet).currentState = .up := hanswer.currentState
  have hgoing : (answerConresp P con packet).aborted = false := hanswer.aborted.trans hrunning
  unfold acceptConresp startKeyExchange
  generalize answerConresp P con packet = answered at hup hgoing
  split
  · rcases sendKexRequest_control P answered with habort | ⟨hcontrol, haborted⟩
    · right
      right
      rw [habort]
      exact ⟨rfl, hup⟩
    · right
      left
      rw [superviseConnection_control P _ packet (haborted.trans hgoing)]
      exact congrArg watchedControl (congrArg Control.state hcontrol)
  · left
    rw [superviseConnection_control P _ packet hgoing, hup]

theorem retrReqSent_of_append {before after : Connection} (pdu : SentPdu)
    (hsent : after.sent = before.sent ++ [pdu]) (htype : pdu.packet.type = .retrReq) :
    RetrReqSent before after := by
  refine ⟨pdu, ?_, htype⟩
  rw [hsent, List.drop_left]
  exact List.mem_singleton_self pdu

end Functions

section Steps

variable (P : Platform) {con base after : Connection} {packet : RastaPacket} {event : Event}

/-- What a received packet does to the state and its supervision. -/
theorem Received.controlStep (h : Received P con packet after) (hrunning : con.aborted = false) :
    ControlStep P con (.receive packet) after := by
  cases h with
  | ignored hbase => exact .same hbase.control
  | closed hbase reason => exact .reset (srCloseConnection_control P _ reason 0)
  | discReq => exact .reset rfl
  | data hbase => exact .same ((acceptData_control P _ packet).trans hbase.control)
  | dataDropped hbase => exact .same hbase.control
  | @retransmissionRequested base hbase _ htype =>
    have hbefore : Connected con.currentState := by
      rcases htype with ⟨-, hstate | hstate⟩ | ⟨-, hstate⟩
      · exact .inl (.inl hstate)
      · exact .inl (.inr (.inr hstate))
      · exact .inl (.inr (.inr hstate))
    have hframe := sendRetransmissionRequest_frame P base
    refine .asks hbefore ?_ ?_
    · have hrequest : RetrReqSent base (setState (sendRetransmissionRequest P base) .retrReq) :=
        retrReqSent_of_append _ rfl rfl
      unfold RetrReqSent at hrequest ⊢
      rwa [hbase.sent] at hrequest
    · rw [control_setState, hframe.control, hbase.control]
  | heartbeatGap hbase hreach htype hstate hseq =>
    refine .waits packet rfl ⟨hreach, hseq, .inl ⟨htype, hstate⟩⟩ ?_
    rw [control_setState, hbase.control]
  | @retrReqInSeq base hbase _ _ hseq =>
    have hbaseSeq : srSnInSeq base packet = true := hbase.srSnInSeq.trans hseq
    unfold handleRetrreq
    rw [if_pos hbaseSeq]
    split
    · exact .reset ((answerRetrreq_frame P _).control.trans
        (srCloseConnection_control P base _ 0))
    · exact .same ((answerRetrreq_frame P
        (setCsR (updateConnectionAttrs base packet) packet)).control.trans hbase.control)
  | @retrReqOutOfSeq base hbase hreach htype hseq =>
    have hafter : control (setState (answerRetrreq P (setCsR base packet)) .retrReq) =
        { control con with state := .retrReq } := by
      rw [control_setState, (answerRetrreq_frame P _).control, ← hbase.control]
      rfl
    by_cases hstate : con.currentState = .retrReq
    · refine .same (hafter.trans ?_)
      rw [← hstate]
      rfl
    · exact .waits packet rfl ⟨hreach, hseq, .inr ⟨htype, hstate⟩⟩ hafter
  | @retrResp base hbase _ _ hstate =>
    refine .moves .retrRun (.inl (.inr (.inl hstate))) ⟨by decide, nofun⟩ ?_
    rw [← hbase.control]
    rfl
  | @retrData base hbase =>
    exact .same ((srAddAppMessagesToBuffer_frame P base packet).control.trans hbase.control)
  | @heartbeatStart base hbase =>
    refine .watches _ ?_ (establishByHb_control (rejectStartHb P base packet) packet)
    split
    · exact .inl rfl
    · exact .inr (.inl rfl)
  | heartbeatLate => exact .reset (srCloseConnection_control P _ _ 0)
  | @heartbeat base hbase =>
    rcases acceptHb_control P base packet with hsame | ⟨hrun, hup⟩
    · exact .same (hsame.trans hbase.control)
    · refine .moves .up (.inl (.inr (.inr (hbase.currentState.symm.trans hrun))))
        ⟨by decide, nofun⟩ ?_
      rw [hup, hbase.control]
  | conreqRefused _ _ reason => exact .reset (srCloseConnection_control P _ reason 0)
  | conreqAccepted =>
    refine .starts ?_
    rw [acceptConreq_control, prepareServer_control]
  | conrespAccepted =>
    rcases acceptConresp_control P con packet hrunning with hup | hkex | ⟨haborted, hstate⟩
    · exact .watches .up (.inl rfl) hup
    · exact .watches .kexResp (.inr (.inr rfl)) hkex
    · exact .ends haborted (.inr hstate)
  | aborted hbase => exact .ends rfl (.inl hbase.currentState)
  | @kexRequest base hbase _ _ hstate _ response =>
    have hbefore : Connected con.currentState := by
      rcases hstate with hstate | hstate
      · exact .inr (.inl hstate)
      · exact .inl (.inl hstate)
    refine .moves .kexAuth hbefore ⟨by decide, nofun⟩ ?_
    rw [answerKex_control, hbase.control]
  | @kexResponse base hbase _ _ hstate _ response =>
    refine .moves .up (.inr (.inr (.inl hstate))) ⟨by decide, nofun⟩ ?_
    rw [answerKex_control, hbase.control]
  | @kexAuth base hbase _ _ hstate =>
    refine .moves .up (.inr (.inr (.inr hstate))) ⟨by decide, nofun⟩ ?_
    rw [control_setState, (srRemoveConfirmedMessages_frame P _).control, updateKexAttrs_control,
      hbase.control]

theorem openSession_control (con : Connection) :
    control (openSession P con) = { resetControl with state := .start } := by
  unfold openSession srInitConnection
  cases P.enableOpaque
  · rfl
  · rfl

theorem sendTimedKeyExchange_controlStep (henabled : con.rekeyingEvent.enabled = true) :
    ControlStep P con .timedKeyExchange (sendTimedKeyExchange P con) := by
  unfold sendTimedKeyExchange
  split
  swap
  · exact .same rfl
  rename_i hbuilt
  have hrescheduled : ∀ sent : Connection, control (rescheduleRekeying sent) = control sent ∧
      (rescheduleRekeying sent).aborted = sent.aborted := by
    intro sent
    unfold rescheduleRekeying
    split
    · exact ⟨rfl, rfl⟩
    · exact ⟨rfl, rfl⟩
  rcases sendKexRequest_control P con with habort | ⟨hcontrol, -⟩
  · rw [habort]
    exact .ends (hrescheduled (abort con)).2
      (.inl (congrArg Control.state (hrescheduled (abort con)).1))
  · exact .rekeys rfl ⟨hbuilt, henabled⟩ ((hrescheduled _).1.trans hcontrol)

theorem srSend_controlStep (con : Connection) (appMessages : List Bytes) :
    ControlStep P con (.send appMessages) (srSend P con appMessages).1 := by
  have hrefused : con.currentState ≠ .up → ControlStep P con (.send appMessages)
      (setState (sendDisconnectionRequest P con .serviceNotAllowed 0) .closed) := by
    intro hstate
    refine .refuses appMessages rfl hstate ?_
    rw [control_setState, (sendDisconnectionRequest_frame P con _ 0).control]
  unfold srSend
  cases hstate : con.currentState with
  | up =>
    simp only
    split
    · exact .same rfl
    · exact .same (sendMessages_frame P appMessages con).control
  | closed => exact .refuses appMessages rfl (by simp [hstate]) rfl
  | down => exact .refuses appMessages rfl (by simp [hstate]) rfl
  | _ => exact hrefused (by simp [hstate])

theorem eventConnectionExpired_controlStep (con : Connection) :
    ControlStep P con .connectionExpired (eventConnectionExpired P con) := by
  unfold eventConnectionExpired
  split
  · exact .same rfl
  · split
    · have hclosed := srCloseConnection_control P con .timeout 0
      generalize srCloseConnection P con .timeout 0 = closed at hclosed ⊢
      refine .reset ?_
      have hdisabled : control
          { closed with
            sendHeartbeatEvent := closed.sendHeartbeatEvent.disable
            timeoutEvent := closed.timeoutEvent.disable } =
          { control closed with heartbeatEnabled := false, timeoutEnabled := false } := rfl
      rw [hdisabled, hclosed]
      rfl
    · rename_i hstate
      exact .expires rfl hstate rfl

/-- What any step does to the state and its supervision. -/
theorem endpointStep_controlStep (con : Connection) (event : Event)
    (hrunning : con.aborted = false) :
    ControlStep P con event (endpointStep P con event) := by
  unfold endpointStep
  rw [hrunning, if_neg Bool.false_ne_true]
  cases event with
  | receive packet => exact (srReceive_received P con packet).controlStep P hrunning
  | dataSend =>
    simp only
    split
    · exact .same (dataSendEvent_frame P con).control
    · exact .same rfl
  | heartbeat =>
    simp only [heartbeatSendEvent]
    split
    · split
      · exact .same rfl
      · split
        · exact .same (sendHeartbeat_frame P con false).control
        · exact .same rfl
    · exact .same rfl
  | connectionExpired =>
    simp only
    split
    · exact eventConnectionExpired_controlStep P con
    · exact .same rfl
  | timedKeyExchange =>
    simp only
    split
    · rename_i henabled
      exact sendTimedKeyExchange_controlStep P henabled
    · exact .same rfl
  | send appMessages => exact srSend_controlStep P con appMessages
  | connect transportOk =>
    simp only [srConnect]
    split
    · split
      · exact .starts (openSession_control P _)
      · exact .same rfl
    · exact .same rfl
  | connectReturn => exact .same rfl
  | disconnect =>
    have hclosed := srCloseConnection_control P con .userRequest 0
    refine .reset ?_
    unfold srDisconnect
    generalize srCloseConnection P con .userRequest 0 = closed at hclosed ⊢
    have hdisabled : ∀ rekeyingEvent : TimedEvent, control
        { closed with
          timeoutEvent := closed.timeoutEvent.disable
          sendHeartbeatEvent := closed.sendHeartbeatEvent.disable
          rekeyingEvent := rekeyingEvent } =
        { control closed with heartbeatEnabled := false, timeoutEnabled := false } :=
      fun _ => rfl
    rw [hdisabled, hclosed]
    rfl
  | transportClosed => exact .reset rfl
  | recv =>
    simp only [rastaRecv]
    split
    · exact .same rfl
    · exact .same rfl
  | accept => exact .same rfl
  | acceptReturn => exact .same rfl

end Steps

section Supervised

variable (P : Platform) {con after : Connection} {event : Event}

/-- An established connection is supervised, and a closed one is not. -/
def Supervised (con : Connection) : Prop :=
  (Established con.currentState →
    con.timeoutEvent.enabled = true ∧ con.sendHeartbeatEvent.enabled = true ∧
      con.hbLocked = false) ∧
    (con.currentState = .closed →
      con.timeoutEvent.enabled = false ∧ con.sendHeartbeatEvent.enabled = false)

instance (con : Connection) : Decidable (Supervised con) :=
  inferInstanceAs (Decidable (_ ∧ _))

/-- The step takes none of the branches that change the state without its timers or the timers
without the state. -/
def SupervisionRespected (con : Connection) : Event → Prop
  | .receive packet =>
    ¬ (ReachesHandler P con packet ∧ packet.type = .retrReq ∧ srSnInSeq con packet = false ∧
      ¬ Connected con.currentState)
  | .send _ => con.currentState = .up ∨ ¬ Connected con.currentState
  | .connectionExpired => Established con.currentState ∨ ¬ Connected con.currentState
  | .timedKeyExchange => ¬ (RekeyingFires P con ∧ ¬ Connected con.currentState)
  | _ => True

instance (con : Connection) (event : Event) : Decidable (SupervisionRespected P con event) :=
  match event with
  | .receive packet =>
    inferInstanceAs (Decidable (¬ (ReachesHandler P con packet ∧ packet.type = .retrReq ∧
      srSnInSeq con packet = false ∧ ¬ Connected con.currentState)))
  | .send _ => inferInstanceAs (Decidable (con.currentState = .up ∨ ¬ Connected con.currentState))
  | .connectionExpired =>
    inferInstanceAs (Decidable (Established con.currentState ∨ ¬ Connected con.currentState))
  | .timedKeyExchange =>
    inferInstanceAs (Decidable (¬ (RekeyingFires P con ∧ ¬ Connected con.currentState)))
  | .dataSend | .heartbeat | .connect _ | .connectReturn | .disconnect | .transportClosed | .recv
  | .accept | .acceptReturn => inferInstanceAs (Decidable True)

/-- The timers run exactly in the states after the handshake. -/
def Watched (c : Control) : Prop :=
  (Connected c.state → c = watchedControl c.state) ∧
    (¬ Connected c.state → c.timeoutEnabled = false ∧ c.heartbeatEnabled = false)

theorem watched_of_move {c : Control} (h : Watched c) (hbefore : Connected c.state)
    {state : RastaSrState} (hstate : Connected state) : Watched { c with state := state } := by
  refine ⟨?_, fun hnot => absurd hstate hnot⟩
  intro _
  rw [h.1 hbefore]
  rfl

theorem Watched.supervised (h : Watched (control con)) : Supervised con := by
  constructor
  · intro hestablished
    have hwatched := h.1 (.inl hestablished)
    exact ⟨congrArg Control.timeoutEnabled hwatched, congrArg Control.heartbeatEnabled hwatched,
      congrArg Control.hbLocked hwatched⟩
  · intro hclosed
    have hnot : ¬ Connected con.currentState := by
      rw [hclosed]
      decide
    exact h.2 hnot

theorem ControlStep.watched (hstep : ControlStep P con event after)
    (hok : SupervisionRespected P con event) (h : Watched (control con))
    (hrunning : after.aborted = false) : Watched (control after) := by
  cases hstep with
  | same hafter =>
    rw [hafter]
    exact h
  | reset hafter =>
    rw [hafter]
    exact ⟨fun hnot => absurd hnot (by decide), fun _ => ⟨rfl, rfl⟩⟩
  | starts hafter =>
    rw [hafter]
    exact ⟨fun hnot => absurd hnot (by decide), fun _ => ⟨rfl, rfl⟩⟩
  | watches state hstate hafter =>
    have hconnected : Connected state := by
      rcases hstate with rfl | rfl | rfl
      · decide
      · decide
      · decide
    rw [hafter]
    exact ⟨fun _ => rfl, fun hnot => absurd hconnected hnot⟩
  | asks hbefore _ hafter =>
    rw [hafter]
    exact watched_of_move h hbefore (by decide)
  | waits packet hevent hunasked hafter =>
    subst hevent
    have hbefore : Connected con.currentState := by
      obtain ⟨hreach, hseq, ⟨-, hstate⟩ | ⟨htype, -⟩⟩ := hunasked
      · rcases hstate with hstate | hstate
        · exact .inl (.inl hstate)
        · exact .inl (.inr (.inr hstate))
      · by_contra hnot
        exact hok ⟨hreach, htype, hseq, hnot⟩
    rw [hafter]
    exact watched_of_move h hbefore (by decide)
  | moves state hbefore hstate hafter =>
    rw [hafter]
    exact watched_of_move h hbefore hstate.1
  | rekeys hevent hfires hafter =>
    subst hevent
    have hbefore : Connected con.currentState := by
      by_contra hnot
      exact hok ⟨hfires, hnot⟩
    rw [hafter]
    exact watched_of_move h hbefore (by decide)
  | refuses appMessages hevent hbefore hafter =>
    subst hevent
    have hnot : ¬ Connected con.currentState := by
      rcases hok with hup | hnot
      · exact absurd hup hbefore
      · exact hnot
    have hclosed : ¬ Connected .closed := by decide
    rw [hafter]
    exact ⟨fun hconnected => absurd hconnected hclosed, fun _ => h.2 hnot⟩
  | expires hevent hbefore hafter =>
    subst hevent
    have hnot : ¬ Connected con.currentState := by
      rcases hok with hestablished | hnot
      · exact absurd hestablished hbefore
      · exact hnot
    rw [hafter]
    exact ⟨fun hconnected => absurd hconnected hnot, fun _ => ⟨rfl, rfl⟩⟩
  | ends haborted => simp [haborted] at hrunning

/-- In every run whose steps respect the supervision, the connection is supervised in every
state reached while the process runs. -/
theorem established_is_supervised (config : RastaConfigInfo) (clock : ℕ → ℕ)
    (events : List Event)
    (hok : RunOk (endpointStep P) (SupervisionRespected P)
      (rastaLibInitConfiguration config clock) events) :
    (run (endpointStep P) (rastaLibInitConfiguration config clock) events).aborted = false →
      Supervised (run (endpointStep P) (rastaLibInitConfiguration config clock) events) := by
  have hclosed : ¬ Connected .closed := by decide
  have hinv := @run_invariant _ _ (endpointStep P) _
    (fun con => con.aborted = false → Watched (control con)) ?_ _ _ hok
    (fun _ => ⟨fun hconnected => absurd hconnected hclosed, fun _ => ⟨rfl, rfl⟩⟩)
  · intro hrunning
    exact (hinv hrunning).supervised
  · intro con event hwatched hrespected hafter
    cases hrunning : con.aborted with
    | true =>
      have hnothing : endpointStep P con event = con := by simp [endpointStep, hrunning]
      rw [hnothing, hrunning] at hafter
      cases hafter
    | false =>
      exact (endpointStep_controlStep P con event hrunning).watched P hrespected
        (hwatched hrunning) hafter

end Supervised

/-- A retransmission request that skips a number, received instead of the connection response. -/
def exampleEarlyRetrReq : RastaPacket :=
  { exampleEarlyHeartbeat with type := .retrReq, sequenceNumber := 1 }

theorem established_is_supervised_client :
    Supervised (run (endpointStep referencePlatform) exampleClient
      [.connect true, .receive exampleConnResp]) :=
  established_is_supervised referencePlatform exampleConfig _
    [.connect true, .receive exampleConnResp] (by decide +kernel) (by decide +kernel)

/-- The request makes the client wait for a retransmission without a running timer. -/
theorem unsupervised_after_early_retrReq :
    (run (endpointStep referencePlatform) exampleClient
        [.connect true, .receive exampleEarlyRetrReq]).aborted = false ∧
      (run (endpointStep referencePlatform) exampleClient
        [.connect true, .receive exampleEarlyRetrReq]).currentState = .retrReq ∧
      ¬ Supervised (run (endpointStep referencePlatform) exampleClient
        [.connect true, .receive exampleEarlyRetrReq]) := by
  decide +kernel

section Waiting

variable (P : Platform) {con after : Connection} {event : Event}

/-- A retransmission request was sent since the connection was last in another state, or in the
step that left that state. -/
def AskedForRetransmission (history : List (Step Connection Event)) : Prop :=
  Since (fun t => t.after.currentState = .retrReq)
    (fun _ t => t.after.currentState = .retrReq ∧ RetrReqSent t.before t.after) history

/-- The step does not make the connection wait without asking. -/
def AsksBeforeWaiting (con : Connection) : Event → Prop
  | .receive packet => ¬ WaitsUnasked P con packet
  | _ => True

instance (con : Connection) (event : Event) : Decidable (AsksBeforeWaiting P con event) :=
  match event with
  | .receive packet => inferInstanceAs (Decidable (¬ WaitsUnasked P con packet))
  | .dataSend | .heartbeat | .connectionExpired | .timedKeyExchange | .send _ | .connect _
  | .connectReturn | .disconnect | .transportClosed | .recv | .accept | .acceptReturn =>
    inferInstanceAs (Decidable True)

/-- A step that ends waiting started waiting, or asked. -/
theorem ControlStep.waiting (hstep : ControlStep P con event after)
    (hok : AsksBeforeWaiting P con event) (hwaits : after.currentState = .retrReq) :
    con.currentState = .retrReq ∨ RetrReqSent con after := by
  have hstate : ∀ {c : Control}, control after = c → c.state = .retrReq :=
    fun hafter => (congrArg Control.state hafter).symm.trans hwaits
  cases hstep with
  | same hafter => exact .inl (hstate hafter)
  | reset hafter => cases hstate hafter
  | starts hafter => cases hstate hafter
  | watches state hnew hafter =>
    have hother : state = .retrReq := hstate hafter
    rw [hother] at hnew
    rcases hnew with hnew | hnew | hnew
    · cases hnew
    · cases hnew
    · cases hnew
  | asks _ hsent _ => exact .inr hsent
  | waits packet hevent hunasked _ =>
    subst hevent
    exact absurd hunasked hok
  | moves state _ hnew hafter => exact absurd (hstate hafter) hnew.2
  | rekeys _ _ hafter => cases hstate hafter
  | refuses _ _ _ hafter => cases hstate hafter
  | expires _ _ hafter => exact .inl (hstate hafter)
  | ends _ hend =>
    rcases hend with hend | hend
    · exact .inl (hend.symm.trans hwaits)
    · rw [hend] at hwaits
      cases hwaits

end Waiting

/-- A Data PDU of the peer that skips a number, received by the established client. -/
def exampleGap : RastaPacket :=
  { exampleEarlyHeartbeat with
    type := .data, sequenceNumber := 2, confirmedSequenceNumber := 100, data := [] }

end LibRasta.Retransmission
