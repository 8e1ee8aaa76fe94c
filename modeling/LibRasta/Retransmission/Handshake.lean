/-
Module: LibRasta/Retransmission/Handshake.lean
source: src/c/retransmission/handlers.c, src/c/retransmission/safety_retransmission.c
digest: Without key exchange a connection is established by the handshake only, in every run that avoids the branches which enter UP or RETRREQ without one.
-/

import LibRasta.Retransmission.Closing

set_option autoImplicit false
set_option relaxedAutoImplicit false

namespace LibRasta.Retransmission

open LibRasta.Lib
open LibRasta.Util
open LibRasta.Factory

section Conditions

variable (P : Platform)

/-- A packet that gets a connection established, or moves its receive number on, without the
handshake. -/
def BypassesHandshake (con : Connection) (packet : RastaPacket) : Prop :=
  ReachesHandler P con packet ∧
    (packet.type = .hb ∧ con.currentState = .start ∧ srCtsInSeq con packet = true ∧
        (con.role = .client ∨ srSnInSeq con packet = false) ∨
      packet.type = .retrReq ∧ srSnInSeq con packet = false ∧ ¬ Established con.currentState ∨
      packet.type = .retrReq ∧ srSnInSeq con packet = true ∧ con.currentState = .start ∧
        con.role = .server)

instance (con : Connection) (packet : RastaPacket) :
    Decidable (BypassesHandshake P con packet) :=
  inferInstanceAs (Decidable (_ ∧ _))

/-- The step takes none of those branches. -/
def HandshakeRespected (con : Connection) : Event → Prop
  | .receive packet => ¬ BypassesHandshake P con packet
  | _ => True

instance (con : Connection) (event : Event) : Decidable (HandshakeRespected P con event) :=
  match event with
  | .receive packet => inferInstanceAs (Decidable (¬ BypassesHandshake P con packet))
  | .dataSend | .heartbeat | .connectionExpired | .timedKeyExchange | .send _ | .connect _
  | .connectReturn | .disconnect | .transportClosed | .recv | .accept | .acceptReturn =>
    inferInstanceAs (Decidable True)

/-- The step ended in CLOSED, or passed it by opening a session with `sr_connect`. -/
def PassesClosed (t : Step Connection Event) : Prop :=
  t.after.currentState = .closed ∨
    t.before.aborted = false ∧ t.event = .connect true ∧ Connectable t.before

/-- The step processed an acceptable connection response. -/
def ProcessesConnResp (t : Step Connection Event) : Prop :=
  ∃ packet, t.event = .receive packet ∧ t.before.aborted = false ∧
    ConrespAccepted P t.before packet

/-- The step processed an acceptable connection request with sequence number `sn`. -/
def ProcessesConnReq (sn : UInt32) (t : Step Connection Event) : Prop :=
  ∃ packet, t.event = .receive packet ∧ t.before.aborted = false ∧
    ConreqAccepted P t.before packet ∧ packet.sequenceNumber = sn

/-- The step processed a heartbeat with sequence number `sn` in state START. -/
def ProcessesStartHb (sn : UInt32) (t : Step Connection Event) : Prop :=
  ∃ packet, t.event = .receive packet ∧ t.before.aborted = false ∧
    ReachesHandler P t.before packet ∧ packet.type = .hb ∧ t.before.currentState = .start ∧
    packet.sequenceNumber = sn

/-- Since the connection was last closed, a connection response was accepted. -/
def ClientHandshake (history : List (Step Connection Event)) : Prop :=
  Since (fun t => ¬ PassesClosed t) (fun _ t => ProcessesConnResp P t) history

/-- Since the connection was last closed, a request with number `sn` was accepted. -/
def RequestAccepted (sn : UInt32) (history : List (Step Connection Event)) : Prop :=
  Since (fun t => ¬ PassesClosed t) (fun _ t => ProcessesConnReq P sn t) history

/-- Since the connection was last closed, a request was accepted and then the heartbeat with
the number after it was processed. -/
def ServerHandshake (history : List (Step Connection Event)) : Prop :=
  ∃ sn, Since (fun t => ¬ PassesClosed t)
    (fun past t => RequestAccepted P sn past ∧ ¬ PassesClosed t ∧
      ProcessesStartHb P (sn + 1) t) history

/-- An established connection has seen the handshake of its role. -/
def EstablishedByHandshake (history : List (Step Connection Event)) (con : Connection) : Prop :=
  Established con.currentState →
    con.role = .client ∧ ClientHandshake P history ∨
      con.role = .server ∧ ServerHandshake P history

end Conditions

section Phases

variable (P : Platform) {con base after : Connection} {packet : RastaPacket}

/-- State and role are what they were, and a server in the handshake still expects the same
number. -/
def SamePhase (before after : Connection) : Prop :=
  after.currentState = before.currentState ∧ after.role = before.role ∧
    (before.currentState = .start → before.role = .server → after.snR = before.snR)

/-- The connection was established before and still is, in the same role. -/
def StaysEstablished (before after : Connection) : Prop :=
  Established before.currentState ∧ Established after.currentState ∧
    after.role = before.role

/-- What a packet can do to the phase of a connection without key exchange, as long as it does
not bypass the handshake. -/
inductive PhaseStep (con : Connection) (packet : RastaPacket) (after : Connection) : Prop
  | closed (hclosed : after.currentState = .closed)
  | same (hsame : SamePhase con after)
  | stays (hstays : StaysEstablished con after)
  | conreq (haccepted : ConreqAccepted P con packet) (hstate : after.currentState = .start)
      (hrole : after.role = .server) (hsn : after.snR = packet.sequenceNumber + 1)
  | conresp (haccepted : ConrespAccepted P con packet) (hstate : after.currentState = .up)
      (hrole : after.role = .client)
  | startHb (hreach : ReachesHandler P con packet) (htype : packet.type = .hb)
      (hstart : con.currentState = .start) (hserver : con.role = .server)
      (hsn : packet.sequenceNumber = con.snR) (hstate : after.currentState = .up)
      (hrole : after.role = .server)

/-- The key exchange stays switched off. -/
def NoKeyExchange (con : Connection) : Prop :=
  con.config.kexMode = .none ∧ con.rekeyingEvent.enabled = false

theorem Counted.samePhase (h : Counted con base) : SamePhase con base := by
  obtain ⟨_, _, _, _, rfl⟩ := h
  exact ⟨rfl, rfl, fun _ _ => rfl⟩

theorem Counted.noKeyExchange (h : Counted con base) (hkex : NoKeyExchange con) :
    NoKeyExchange base := by
  obtain ⟨_, _, _, _, rfl⟩ := h
  exact hkex

theorem SendFrame.samePhase {before after : Connection} (h : SendFrame before after) :
    SamePhase before after :=
  ⟨h.currentState, h.role, fun _ _ => h.snR⟩

theorem SendFrame.noKeyExchange {before after : Connection} (h : SendFrame before after)
    (hkex : NoKeyExchange before) : NoKeyExchange after :=
  ⟨h.config ▸ hkex.1, h.rekeyingEvent ▸ hkex.2⟩

theorem DeliveryFrame.noKeyExchange {before after : Connection} (h : DeliveryFrame before after)
    (hkex : NoKeyExchange before) : NoKeyExchange after := by
  unfold NoKeyExchange
  rw [h.config, h.rekeyingEvent]
  exact hkex

theorem answerRetrreq_frame (con : Connection) : SendFrame con (answerRetrreq P con) :=
  ((srRemoveConfirmedMessages_frame P con).trans (sendRetransmissionResponse_frame P _)).trans
    (srRetransmitData_frame P _)

theorem srCloseConnection_state (con : Connection) (reason : RastaDisconnectReason)
    (details : UInt16) : (srCloseConnection P con reason details).currentState = .closed := by
  unfold srCloseConnection
  split <;> rfl

theorem srCloseConnection_noKeyExchange (hkex : NoKeyExchange con)
    (reason : RastaDisconnectReason) (details : UInt16) :
    NoKeyExchange (srCloseConnection P con reason details) := by
  unfold srCloseConnection
  split <;> exact hkex

theorem rejectStartHb_noKeyExchange (hkex : NoKeyExchange con) (packet : RastaPacket) :
    NoKeyExchange (rejectStartHb P con packet) :=
  rejectStartHb_related P (R := fun a b => NoKeyExchange a → NoKeyExchange b) (fun _ => id)
    (fun _ _ _ hab hbc ha => hbc (hab ha))
    (fun _ reason hc => srCloseConnection_noKeyExchange P hc reason 0) con packet hkex

theorem Counted.role (h : Counted con base) : base.role = con.role := by
  obtain ⟨_, _, _, _, rfl⟩ := h
  rfl

theorem acceptData_phase (con : Connection) (packet : RastaPacket) :
    (acceptData P con packet).currentState = con.currentState ∧
      (acceptData P con packet).role = con.role ∧
      (NoKeyExchange con → NoKeyExchange (acceptData P con packet)) := by
  have hremove := srRemoveConfirmedMessages_frame P
    (updateConfirmedAttrs (updateConnectionAttrs (srAddAppMessagesToBuffer P con packet) packet)
      packet)
  have hadd := srAddAppMessagesToBuffer_frame P con packet
  refine ⟨hremove.currentState.trans hadd.currentState, hremove.role.trans hadd.role, ?_⟩
  intro hkex
  exact hremove.noKeyExchange (hadd.noKeyExchange hkex)

theorem retrData_phase (con : Connection) (packet : RastaPacket) :
    (setCsR (updateConnectionAttrs (srAddAppMessagesToBuffer P con packet) packet)
        packet).currentState = con.currentState ∧
      (setCsR (updateConnectionAttrs (srAddAppMessagesToBuffer P con packet) packet)
        packet).role = con.role ∧
      (NoKeyExchange con → NoKeyExchange
        (setCsR (updateConnectionAttrs (srAddAppMessagesToBuffer P con packet) packet)
          packet)) := by
  have hadd := srAddAppMessagesToBuffer_frame P con packet
  exact ⟨hadd.currentState, hadd.role, hadd.noKeyExchange⟩

theorem acceptHb_phase (con : Connection) (packet : RastaPacket) :
    (acceptHb P con packet).currentState =
        (if con.currentState = .retrRun then .up else con.currentState) ∧
      (acceptHb P con packet).role = con.role ∧
      (NoKeyExchange con → NoKeyExchange (acceptHb P con packet)) := by
  have hremove := srRemoveConfirmedMessages_frame P
    (updateConfirmedAttrs (updateConnectionAttrs (srDiagnosticUpdate P
      (srUpdateTimeoutInterval P con packet.confirmedTimestamp) packet) packet) packet)
  have hstate := hremove.currentState
  unfold acceptHb
  simp only
  split
  · rename_i hrun
    have hbefore : con.currentState = .retrRun := hstate.symm.trans hrun
    exact ⟨(if_pos hbefore).symm, hremove.role, hremove.noKeyExchange⟩
  · rename_i hrun
    have hbefore : ¬ con.currentState = .retrRun := fun h => hrun (hstate.trans h)
    rw [if_neg hbefore]
    exact ⟨hstate, hremove.role, hremove.noKeyExchange⟩

theorem prepareServer_role (con : Connection) : (prepareServer P con).role = .server := by
  unfold prepareServer srInitConnection
  cases P.enableOpaque <;> rfl

theorem prepareServer_noKeyExchange (hkex : NoKeyExchange con) :
    NoKeyExchange (prepareServer P con) := by
  unfold prepareServer srInitConnection
  cases P.enableOpaque <;> exact hkex

theorem acceptConreq_phase (con : Connection) (packet : RastaPacket) :
    (acceptConreq P con packet).currentState = .start ∧
      (acceptConreq P con packet).role = con.role ∧
      (acceptConreq P con packet).snR = packet.sequenceNumber + 1 ∧
      (NoKeyExchange con → NoKeyExchange (acceptConreq P con packet)) := by
  unfold acceptConreq redundancyMuxSend NoKeyExchange
  dsimp only [setState, incrementSnT, tick, updateConfirmedAttrs, updateConnectionAttrs]
  exact ⟨rfl, rfl, rfl, id⟩

theorem superviseConnection_phase (con : Connection) (packet : RastaPacket) :
    (superviseConnection P con packet).currentState = con.currentState ∧
      (superviseConnection P con packet).role = con.role ∧
      (NoKeyExchange con → NoKeyExchange (superviseConnection P con packet)) := by
  unfold superviseConnection NoKeyExchange
  split
  · exact ⟨rfl, rfl, id⟩
  · dsimp only [enableTimeout, enableHeartbeat, tick]
    exact ⟨rfl, rfl, id⟩

theorem acceptConresp_phase (hkex : NoKeyExchange con) (packet : RastaPacket) :
    (acceptConresp P con packet).currentState = .up ∧
      (acceptConresp P con packet).role = con.role ∧
      NoKeyExchange (acceptConresp P con packet) := by
  have hanswer := sendHeartbeat_frame P
    (setState (setCsR (updateConnectionAttrs con packet) packet) .up) true
  have hstarted : startKeyExchange P (answerConresp P con packet) =
      answerConresp P con packet := by
    have hmode : (answerConresp P con packet).config.kexMode = .none :=
      (congrArg (·.kexMode) hanswer.config).trans hkex.1
    simp [startKeyExchange, hmode]
  have hkexAnswer : NoKeyExchange (answerConresp P con packet) := hanswer.noKeyExchange hkex
  obtain ⟨hstate, hrole, hkexAfter⟩ :=
    superviseConnection_phase P (answerConresp P con packet) packet
  unfold acceptConresp
  rw [hstarted]
  exact ⟨hstate.trans hanswer.currentState, hrole.trans hanswer.role, hkexAfter hkexAnswer⟩

/-- The phases a packet leads to, as long as it does not bypass the handshake. -/
theorem Received.phaseStep (h : Received P con packet after) (hkex : NoKeyExchange con)
    (hok : ¬ BypassesHandshake P con packet) : PhaseStep P con packet after := by
  cases h with
  | ignored hbase => exact .same hbase.samePhase
  | closed hbase reason => exact .closed (srCloseConnection_state P _ reason 0)
  | discReq => exact .closed rfl
  | @data base hbase _ _ hstate =>
    obtain ⟨hafter, hrole, -⟩ := acceptData_phase P base packet
    refine .stays ⟨.inl hstate, ?_, hrole.trans hbase.role⟩
    rw [hafter, hbase.currentState]
    exact .inl hstate
  | dataDropped hbase _ _ hstate =>
    exact .stays ⟨.inr (.inr hstate), .inr (.inr (hbase.currentState.trans hstate)), hbase.role⟩
  | retransmissionRequested hbase _ htype =>
    have hbefore : Established con.currentState := by
      rcases htype with ⟨-, hstate | hstate⟩ | ⟨-, hstate⟩
      · exact .inl hstate
      · exact .inr (.inr hstate)
      · exact .inr (.inr hstate)
    exact .stays ⟨hbefore, .inr (.inl rfl),
      (sendRetransmissionRequest_frame P _).role.trans hbase.role⟩
  | heartbeatGap hbase _ _ hstate =>
    have hbefore : Established con.currentState := by
      rcases hstate with hstate | hstate
      · exact .inl hstate
      · exact .inr (.inr hstate)
    exact .stays ⟨hbefore, .inr (.inl rfl), hbase.role⟩
  | @retrReqInSeq base hbase hreach htype hseq =>
    have hbaseSeq : srSnInSeq base packet = true := hbase.srSnInSeq.trans hseq
    unfold handleRetrreq
    rw [if_pos hbaseSeq]
    split
    · -- closed before the request is answered, and answering does not reopen
      exact .closed ((answerRetrreq_frame P _).currentState.trans
        (srCloseConnection_state P base _ 0))
    · have hanswer := answerRetrreq_frame P (setCsR (updateConnectionAttrs base packet) packet)
      refine .same ⟨hanswer.currentState.trans hbase.currentState,
        hanswer.role.trans hbase.role, ?_⟩
      intro hstart hserver
      exact absurd ⟨hreach, .inr (.inr ⟨htype, hseq, hstart, hserver⟩)⟩ hok
  | @retrReqOutOfSeq base hbase hreach htype hseq =>
    have hbefore : Established con.currentState := by
      by_contra hnot
      exact hok ⟨hreach, .inr (.inl ⟨htype, hseq, hnot⟩)⟩
    exact .stays ⟨hbefore, .inr (.inl rfl),
      (answerRetrreq_frame P (setCsR base packet)).role.trans hbase.role⟩
  | retrResp hbase _ _ hstate =>
    exact .stays ⟨.inr (.inl hstate), .inr (.inr rfl), hbase.role⟩
  | @retrData base hbase _ _ hstate =>
    obtain ⟨hafter, hrole, -⟩ := retrData_phase P base packet
    refine .stays ⟨.inr (.inr hstate), ?_, hrole.trans hbase.role⟩
    rw [hafter, hbase.currentState]
    exact .inr (.inr hstate)
  | @heartbeatStart base hbase hreach htype hstate hcts =>
    have hclient : con.role ≠ .client := fun hrole =>
      hok ⟨hreach, .inl ⟨htype, hstate, hcts, .inl hrole⟩⟩
    have hseq : srSnInSeq con packet = true := by
      by_contra hseq
      exact hok ⟨hreach, .inl ⟨htype, hstate, hcts, .inr (by simpa using hseq)⟩⟩
    have hserver : con.role = .server := by
      cases hrole : con.role with
      | client => exact absurd hrole hclient
      | server => rfl
    have hkept : rejectStartHb P base packet = base := by
      simp [rejectStartHb, rejectHbRole, rejectHbSn, hbase.srSnInSeq, hseq, hbase.role,
        hserver]
    have hsn : con.snR = packet.sequenceNumber := by
      simpa [srSnInSeq, htype] using hseq
    have hmode : base.config.kexMode = .none := (congrArg (·.kexMode) hbase.config).trans hkex.1
    rw [hkept]
    exact .startHb hreach htype hstate hserver hsn.symm (if_pos hmode)
      (hbase.role.trans hserver)
  | heartbeatLate => exact .closed (srCloseConnection_state P _ _ 0)
  | @heartbeat base hbase _ _ hstate =>
    obtain ⟨hafter, hrole, -⟩ := acceptHb_phase P base packet
    rw [hbase.currentState] at hafter
    rw [hbase.role] at hrole
    rcases hstate with hstate | hstate | hstate | hstate | hstate
    · exact .stays ⟨.inl hstate, .inl (by simpa [hstate] using hafter), hrole⟩
    · exact .stays ⟨.inr (.inr hstate), .inl (by simpa [hstate] using hafter), hrole⟩
    all_goals
      exact .same ⟨by simpa [hstate] using hafter, hrole, fun h => by simp [hstate] at h⟩
  | conreqRefused _ _ reason => exact .closed (srCloseConnection_state P _ reason 0)
  | conreqAccepted haccepted =>
    obtain ⟨hstate, hrole, hsn, -⟩ := acceptConreq_phase P (prepareServer P con) packet
    exact .conreq haccepted hstate (hrole.trans (prepareServer_role P con)) hsn
  | conrespAccepted haccepted =>
    obtain ⟨hstate, hrole, -⟩ := acceptConresp_phase P hkex packet
    exact .conresp haccepted hstate (hrole.trans haccepted.2.2.1)
  | aborted hbase => exact .same hbase.samePhase
  | kexRequest _ _ hmode => exact absurd hkex.1 hmode
  | kexResponse _ _ hmode => exact absurd hkex.1 hmode
  | kexAuth _ _ hmode => exact absurd hkex.1 hmode

theorem Received.noKeyExchange (h : Received P con packet after) (hkex : NoKeyExchange con) :
    NoKeyExchange after := by
  cases h with
  | ignored hbase => exact hbase.noKeyExchange hkex
  | closed hbase reason =>
    exact srCloseConnection_noKeyExchange P (hbase.noKeyExchange hkex) reason 0
  | discReq hbase => exact hbase.noKeyExchange hkex
  | data hbase => exact (acceptData_phase P _ packet).2.2 (hbase.noKeyExchange hkex)
  | dataDropped hbase => exact hbase.noKeyExchange hkex
  | retransmissionRequested hbase =>
    exact (sendRetransmissionRequest_frame P _).noKeyExchange (hbase.noKeyExchange hkex)
  | heartbeatGap hbase => exact hbase.noKeyExchange hkex
  | @retrReqInSeq base hbase _ _ hseq =>
    have hbaseSeq : srSnInSeq base packet = true := hbase.srSnInSeq.trans hseq
    have hbaseKex := hbase.noKeyExchange hkex
    unfold handleRetrreq
    rw [if_pos hbaseSeq]
    split
    · have hclosed := srCloseConnection_noKeyExchange P hbaseKex .retrFailed 0
      exact (answerRetrreq_frame P _).noKeyExchange hclosed
    · exact (answerRetrreq_frame P _).noKeyExchange hbaseKex
  | @retrReqOutOfSeq base hbase =>
    exact (answerRetrreq_frame P (setCsR base packet)).noKeyExchange (hbase.noKeyExchange hkex)
  | retrResp hbase => exact hbase.noKeyExchange hkex
  | retrData hbase => exact (retrData_phase P _ packet).2.2 (hbase.noKeyExchange hkex)
  | heartbeatStart hbase =>
    exact rejectStartHb_noKeyExchange P (hbase.noKeyExchange hkex) packet
  | heartbeatLate hbase =>
    exact srCloseConnection_noKeyExchange P
      (rejectStartHb_noKeyExchange P (hbase.noKeyExchange hkex) packet) _ 0
  | heartbeat hbase => exact (acceptHb_phase P _ packet).2.2 (hbase.noKeyExchange hkex)
  | conreqRefused _ _ reason =>
    exact srCloseConnection_noKeyExchange P (prepareServer_noKeyExchange P hkex) reason 0
  | conreqAccepted =>
    exact (acceptConreq_phase P _ packet).2.2.2 (prepareServer_noKeyExchange P hkex)
  | conrespAccepted => exact (acceptConresp_phase P hkex packet).2.2
  | aborted hbase => exact hbase.noKeyExchange hkex
  | kexRequest _ _ hmode => exact absurd hkex.1 hmode
  | kexResponse _ _ hmode => exact absurd hkex.1 hmode
  | kexAuth _ _ hmode => exact absurd hkex.1 hmode

theorem sendMessages_frame (messages : List Bytes) (con : Connection) :
    SendFrame con (sendMessages P messages con).1 := by
  induction messages generalizing con with
  | nil => exact SendFrame.refl con
  | cons message rest ih =>
    unfold sendMessages
    generalize hflushed : (if fifoFull con.fifoSend then dataSendEvent P con else con) = flushed
    have hflush : SendFrame con flushed := by
      rw [← hflushed]
      split
      · exact dataSendEvent_frame P con
      · exact SendFrame.refl con
    simp only
    split
    · have hpush : SendFrame flushed
          (enableSendEvent { flushed with fifoSend := (fifoPush flushed.fifoSend message).2 }) :=
        sendFrame_of_rfl [] 1 (List.append_nil _).symm rfl rfl
      exact (hflush.trans hpush).trans (ih _)
    · exact hflush

/-- What the other events do to the phase: they close the connection, leave it alone, or open
a session. -/
theorem endpointStep_phase (con : Connection) (event : Event) (hkex : NoKeyExchange con)
    (hrunning : con.aborted = false) (hreceive : ∀ packet, event ≠ .receive packet) :
    NoKeyExchange (endpointStep P con event) ∧
      ((endpointStep P con event).currentState = .closed ∨
        SamePhase con (endpointStep P con event) ∧
          ¬ (event = .connect true ∧ Connectable con) ∨
        event = .connect true ∧ Connectable con ∧
          (endpointStep P con event).currentState = .start ∧
          (endpointStep P con event).role = .client) := by
  have hframe : ∀ {after : Connection}, SendFrame con after →
      ¬ (event = .connect true ∧ Connectable con) →
      NoKeyExchange after ∧ (after.currentState = .closed ∨
        SamePhase con after ∧ ¬ (event = .connect true ∧ Connectable con) ∨
        event = .connect true ∧ Connectable con ∧ after.currentState = .start ∧
          after.role = .client) :=
    fun h hconnect => ⟨h.noKeyExchange hkex, .inr (.inl ⟨h.samePhase, hconnect⟩)⟩
  have hsame : SamePhase con con := (SendFrame.refl con).samePhase
  unfold endpointStep
  rw [hrunning]
  simp only [Bool.false_eq_true, if_false]
  cases event with
  | receive packet => exact absurd rfl (hreceive packet)
  | dataSend =>
    refine hframe ?_ (by simp)
    simp only
    split
    · exact dataSendEvent_frame P con
    · exact SendFrame.refl con
  | heartbeat =>
    refine hframe ?_ (by simp)
    simp only [heartbeatSendEvent]
    split
    · split
      · exact SendFrame.refl con
      · split
        · exact sendHeartbeat_frame P con false
        · exact SendFrame.refl con
    · exact SendFrame.refl con
  | connectionExpired =>
    simp only
    split
    · unfold eventConnectionExpired
      split
      · exact ⟨hkex, .inr (.inl ⟨hsame, by simp⟩)⟩
      · split
        · exact ⟨srCloseConnection_noKeyExchange P hkex .timeout 0,
            .inl (srCloseConnection_state P con .timeout 0)⟩
        · exact ⟨hkex, .inr (.inl ⟨hsame, by simp⟩)⟩
    · exact ⟨hkex, .inr (.inl ⟨hsame, by simp⟩)⟩
  | timedKeyExchange =>
    simp only [hkex.2, Bool.false_eq_true, if_false]
    exact ⟨hkex, .inr (.inl ⟨hsame, by simp⟩)⟩
  | send appMessages =>
    simp only [srSend]
    split
    · split
      · exact hframe (SendFrame.refl con) (by simp)
      · exact hframe (sendMessages_frame P appMessages con) (by simp)
    all_goals exact ⟨hkex, .inl rfl⟩
  | connect transportOk =>
    simp only [srConnect]
    by_cases hconnectable : Connectable con
    · rw [if_pos hconnectable]
      cases transportOk with
      | true =>
        simp only [if_true]
        have hopened : NoKeyExchange (openSession P { con with seqTx := 0 }) ∧
            (openSession P { con with seqTx := 0 }).currentState = .start ∧
            (openSession P { con with seqTx := 0 }).role = .client := by
          unfold openSession srInitConnection
          cases P.enableOpaque <;> exact ⟨hkex, rfl, rfl⟩
        exact ⟨hopened.1, .inr (.inr ⟨trivial, hconnectable, hopened.2⟩)⟩
      | false => exact ⟨hkex, .inr (.inl ⟨hsame, by simp⟩)⟩
    · rw [if_neg hconnectable]
      exact ⟨hkex, .inr (.inl ⟨hsame, fun h => hconnectable h.2⟩)⟩
  | connectReturn => exact ⟨hkex, .inr (.inl ⟨hsame, by simp⟩)⟩
  | disconnect =>
    have hclosed := srCloseConnection_noKeyExchange P hkex .userRequest 0
    refine ⟨⟨hclosed.1, ?_⟩, .inl (srCloseConnection_state P con .userRequest 0)⟩
    simp only [srDisconnect]
    split
    · rfl
    · exact hclosed.2
  | transportClosed => exact ⟨hkex, .inl rfl⟩
  | recv =>
    simp only [rastaRecv]
    split
    · exact ⟨hkex, .inr (.inl ⟨hsame, by simp⟩)⟩
    · exact ⟨hkex, .inr (.inl ⟨hsame, by simp⟩)⟩
  | accept => exact ⟨hkex, .inr (.inl ⟨hsame, by simp⟩)⟩
  | acceptReturn => exact ⟨hkex, .inr (.inl ⟨hsame, by simp⟩)⟩

end Phases

section Runs

variable (P : Platform) {con after : Connection} {event : Event}
  {history : List (Step Connection Event)}

/-- Where a connection stands in the handshake, and the steps that brought it there. -/
inductive Phase (history : List (Step Connection Event)) (con : Connection) : Prop
  | closed (hstate : con.currentState = .closed)
  | clientStart (hstate : con.currentState = .start) (hrole : con.role = .client)
  | serverStart (hstate : con.currentState = .start) (hrole : con.role = .server)
      (sn : UInt32) (hrequest : RequestAccepted P sn history) (hsn : con.snR = sn + 1)
  | clientUp (hstate : Established con.currentState) (hrole : con.role = .client)
      (hhandshake : ClientHandshake P history)
  | serverUp (hstate : Established con.currentState) (hrole : con.role = .server)
      (hhandshake : ServerHandshake P history)

theorem Phase.established (h : Phase P history con) : EstablishedByHandshake P history con := by
  intro hestablished
  have hother : ∀ state, con.currentState = state → ¬ Established state → False :=
    fun _ heq hnot => hnot (heq ▸ hestablished)
  cases h with
  | closed hstate => exact (hother _ hstate (by decide)).elim
  | clientStart hstate => exact (hother _ hstate (by decide)).elim
  | serverStart hstate => exact (hother _ hstate (by decide)).elim
  | clientUp _ hrole hhandshake => exact .inl ⟨hrole, hhandshake⟩
  | serverUp _ hrole hhandshake => exact .inr ⟨hrole, hhandshake⟩

/-- A step that keeps the phase and does not pass CLOSED keeps the evidence. -/
theorem Phase.keep (h : Phase P history con)
    (hafter : SamePhase con after ∨ StaysEstablished con after)
    (hconnect : ¬ (con.aborted = false ∧ event = .connect true ∧ Connectable con)) :
    Phase P (history ++ [{ before := con, event := event, after := after }]) after := by
  by_cases hclosed : after.currentState = .closed
  · exact .closed hclosed
  have hpass : ¬ PassesClosed { before := con, event := event, after := after } := by
    rintro (h | h)
    · exact hclosed h
    · exact hconnect h
  have hrole : after.role = con.role := by
    rcases hafter with h | h
    · exact h.2.1
    · exact h.2.2
  have hup : Established con.currentState → Established after.currentState := by
    intro hestablished
    rcases hafter with h | h
    · rw [h.1]
      exact hestablished
    · exact h.2.1
  have hstart : con.currentState = .start → after.currentState = .start ∧
      (con.role = .server → after.snR = con.snR) := by
    intro hstate
    rcases hafter with h | h
    · exact ⟨h.1.trans hstate, h.2.2 hstate⟩
    · have hnot := h.1
      rw [hstate] at hnot
      exact absurd hnot (by decide)
  cases h with
  | closed hstate =>
    rcases hafter with h | h
    · exact .closed (h.1.trans hstate)
    · have hnot := h.1
      rw [hstate] at hnot
      exact absurd hnot (by decide)
  | clientStart hstate hclient =>
    exact .clientStart (hstart hstate).1 (hrole.trans hclient)
  | serverStart hstate hserver sn hrequest hsn =>
    exact .serverStart (hstart hstate).1 (hrole.trans hserver) sn (hrequest.snoc hpass)
      (((hstart hstate).2 hserver).trans hsn)
  | clientUp hstate hclient hhandshake =>
    exact .clientUp (hup hstate) (hrole.trans hclient) (hhandshake.snoc hpass)
  | serverUp hstate hserver hhandshake =>
    obtain ⟨sn, hsince⟩ := hhandshake
    exact .serverUp (hup hstate) (hrole.trans hserver) ⟨sn, hsince.snoc hpass⟩

theorem Phase.receive (h : Phase P history con) {packet : RastaPacket}
    (hrunning : con.aborted = false) (hstep : PhaseStep P con packet after) :
    Phase P (history ++ [{ before := con, event := .receive packet, after := after }])
      after := by
  cases hstep with
  | closed hclosed => exact .closed hclosed
  | same hsame => exact h.keep P (.inl hsame) (by simp)
  | stays hstays => exact h.keep P (.inr hstays) (by simp)
  | conreq haccepted hstate hrole hsn =>
    exact .serverStart hstate hrole _
      (since_last ⟨packet, rfl, hrunning, haccepted, rfl⟩) hsn
  | conresp haccepted hstate hrole =>
    exact .clientUp (.inl hstate) hrole (since_last ⟨packet, rfl, hrunning, haccepted⟩)
  | startHb hreach htype hstart hserver hsn hstate hrole =>
    cases h with
    | closed hclosed => exact absurd (hstart.symm.trans hclosed) nofun
    | clientStart _ hclient => exact absurd (hserver.symm.trans hclient) nofun
    | serverStart _ _ sn hrequest hexpected =>
      have hpass : ¬ PassesClosed
          { before := con, event := .receive packet, after := after } := by
        rintro (hclosed | ⟨-, hevent, -⟩)
        · exact absurd (hstate.symm.trans hclosed) nofun
        · cases hevent
      exact .serverUp (.inl hstate) hrole
        ⟨sn, since_last ⟨hrequest, hpass, packet, rfl, hrunning, hreach, htype, hstart,
          hsn.trans hexpected⟩⟩
    | clientUp hestablished =>
      rw [hstart] at hestablished
      exact absurd hestablished (by decide)
    | serverUp hestablished =>
      rw [hstart] at hestablished
      exact absurd hestablished (by decide)

theorem endpointStep_phaseInvariant (con : Connection) (event : Event)
    (hinv : NoKeyExchange con ∧ Phase P history con)
    (hok : HandshakeRespected P con event) :
    NoKeyExchange (endpointStep P con event) ∧
      Phase P
        (history ++ [{ before := con, event := event, after := endpointStep P con event }])
        (endpointStep P con event) := by
  obtain ⟨hkex, hphase⟩ := hinv
  cases haborted : con.aborted with
  | true =>
    have hnothing : endpointStep P con event = con := by simp [endpointStep, haborted]
    have hsame : SamePhase con con := (SendFrame.refl con).samePhase
    rw [hnothing]
    exact ⟨hkex, hphase.keep P (.inl hsame) (by simp [haborted])⟩
  | false =>
    by_cases hreceive : ∃ packet, event = .receive packet
    · obtain ⟨packet, rfl⟩ := hreceive
      have hstep : endpointStep P con (.receive packet) = (srReceive P con packet).1 := by
        simp [endpointStep, haborted]
      have hreceived := srReceive_received P con packet
      rw [hstep]
      exact ⟨hreceived.noKeyExchange P hkex,
        hphase.receive P haborted (hreceived.phaseStep P hkex hok)⟩
    · have hother := endpointStep_phase P con event hkex haborted
        fun packet h => hreceive ⟨packet, h⟩
      refine ⟨hother.1, ?_⟩
      rcases hother.2 with hclosed | ⟨hsame, hconnect⟩ | ⟨-, -, hstart, hclient⟩
      · exact .closed hclosed
      · exact hphase.keep P (.inl hsame) fun h => hconnect h.2
      · exact .clientStart hstart hclient

/-- In every run of an endpoint without key exchange whose steps do not bypass the handshake,
the connection is established only after the handshake of its role, completed since it was last
closed. -/
theorem established_by_handshake (config : RastaConfigInfo) (clock : ℕ → ℕ)
    (events : List Event) (hmode : config.kexMode = .none)
    (hok : RunOk (endpointStep P) (HandshakeRespected P)
      (rastaLibInitConfiguration config clock) events) :
    EstablishedByHandshake P
      (trace (endpointStep P) (rastaLibInitConfiguration config clock) events)
      (run (endpointStep P) (rastaLibInitConfiguration config clock) events) := by
  have hinv := @trace_invariant _ _ (endpointStep P) _
    (fun history con => NoKeyExchange con ∧ Phase P history con)
    (fun history con event => endpointStep_phaseInvariant P con event) _ _ hok
    ⟨⟨hmode, rfl⟩, .closed rfl⟩
  exact hinv.2.established

end Runs

/-- The connection response `exampleClient` waits for after `sr_connect`. -/
def exampleConnResp : RastaPacket :=
  { exampleEarlyHeartbeat with
    type := .connResp
    confirmedSequenceNumber := 100
    data := connectionData rastaVersion 20 }

theorem established_by_handshake_client :
    (run (endpointStep referencePlatform) exampleClient
        [.connect true, .receive exampleConnResp]).currentState = .up ∧
      EstablishedByHandshake referencePlatform
        (trace (endpointStep referencePlatform) exampleClient
          [.connect true, .receive exampleConnResp])
        (run (endpointStep referencePlatform) exampleClient
          [.connect true, .receive exampleConnResp]) :=
  ⟨by decide +kernel,
    established_by_handshake referencePlatform exampleConfig _ _ rfl (by decide +kernel)⟩

/-- A heartbeat instead of the connection response brings the client up. -/
theorem established_without_handshake :
    exampleConfig.kexMode = .none ∧
      (run (endpointStep referencePlatform) exampleClient
        [.connect true, .receive exampleEarlyHeartbeat]).currentState = .up ∧
      ¬ EstablishedByHandshake referencePlatform
        (trace (endpointStep referencePlatform) exampleClient
          [.connect true, .receive exampleEarlyHeartbeat])
        (run (endpointStep referencePlatform) exampleClient
          [.connect true, .receive exampleEarlyHeartbeat]) := by
  have hup : (run (endpointStep referencePlatform) exampleClient
      [.connect true, .receive exampleEarlyHeartbeat]).currentState = .up := by
    decide +kernel
  have hclient : (run (endpointStep referencePlatform) exampleClient
      [.connect true, .receive exampleEarlyHeartbeat]).role = .client := by
    decide +kernel
  refine ⟨rfl, hup, ?_⟩
  intro h
  rcases h (.inl hup) with ⟨-, front, t, back, hsplit, ⟨packet, hevent, -, haccepted⟩, -⟩ | ⟨hserver, -⟩
  · -- neither step of the run received a connection response
    have hmem : t.event ∈ [Event.connect true, .receive exampleEarlyHeartbeat] := by
      have hevents := congrArg (List.map Step.event) hsplit
      simp only [trace, List.map_cons, List.map_nil, List.map_append] at hevents
      rw [hevents]
      simp
    rw [hevent] at hmem
    simp only [List.mem_cons, reduceCtorEq, Event.receive.injEq, List.not_mem_nil, or_false,
      false_or] at hmem
    rw [hmem] at haccepted
    exact absurd haccepted.1 (by decide)
  · rw [hclient] at hserver
    cases hserver

end LibRasta.Retransmission
