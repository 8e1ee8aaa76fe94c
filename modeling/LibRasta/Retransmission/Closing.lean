/-
Module: LibRasta/Retransmission/Closing.lean
source: src/c/retransmission/safety_retransmission.c, src/c/retransmission/handlers.c, src/c/transport/events.c
digest: After a disconnection request was sent or processed an endpoint stays closed and silent until a new session starts, in every run that avoids the branches which go on after closing.
-/

import LibRasta.Retransmission.Transitions

set_option autoImplicit false
set_option relaxedAutoImplicit false

namespace LibRasta.Retransmission

open LibRasta.Lib
open LibRasta.Util
open LibRasta.Factory

/-- What was sent between two states contains no disconnection request. -/
def NoDiscSent (before after : Connection) : Prop :=
  ∃ pdus, after.sent = before.sent ++ pdus ∧ ∀ pdu ∈ pdus, pdu.packet.type ≠ .discReq

section Sending

variable (P : Platform)

theorem noDiscSent_of_sent_eq {before after : Connection} (h : after.sent = before.sent) :
    NoDiscSent before after :=
  ⟨[], by simpa using h, by simp⟩

theorem NoDiscSent.trans {a b c : Connection} (hab : NoDiscSent a b) (hbc : NoDiscSent b c) :
    NoDiscSent a c := by
  obtain ⟨first, hfirst, hfirstTypes⟩ := hab
  obtain ⟨second, hsecond, hsecondTypes⟩ := hbc
  refine ⟨first ++ second, by rw [hsecond, hfirst, List.append_assoc], ?_⟩
  intro pdu hmem
  rcases List.mem_append.mp hmem with hmem | hmem
  · exact hfirstTypes pdu hmem
  · exact hsecondTypes pdu hmem

theorem noDiscSent_of_append {before after : Connection} (pdu : SentPdu)
    (hsent : after.sent = before.sent ++ [pdu]) (htype : pdu.packet.type ≠ .discReq) :
    NoDiscSent before after :=
  ⟨[pdu], hsent, by simpa using htype⟩

theorem sendHeartbeat_noDiscSent (con : Connection) (rescheduleManually : Bool) :
    NoDiscSent con (sendHeartbeat P con rescheduleManually) := by
  cases rescheduleManually
  · exact noDiscSent_of_append _ rfl nofun
  · exact noDiscSent_of_append _ rfl nofun

theorem sendRetransmissionRequest_noDiscSent (con : Connection) :
    NoDiscSent con (sendRetransmissionRequest P con) :=
  noDiscSent_of_append _ rfl nofun

theorem sendRetransmissionResponse_noDiscSent (con : Connection) :
    NoDiscSent con (sendRetransmissionResponse P con) :=
  noDiscSent_of_append _ rfl nofun

theorem dataSendEvent_noDiscSent (con : Connection) : NoDiscSent con (dataSendEvent P con) := by
  have hqueued : NoDiscSent con (sendQueued P con) := by
    unfold sendQueued
    split
    · exact noDiscSent_of_append _ rfl nofun
    · exact noDiscSent_of_sent_eq rfl
  refine hqueued.trans (noDiscSent_of_sent_eq ?_)
  unfold dataSendEvent stopIdleSending
  split <;> rfl

theorem srRemoveConfirmedMessages_noDiscSent (con : Connection) :
    NoDiscSent con (srRemoveConfirmedMessages P con) := by
  have hpop : NoDiscSent con (popConfirmed P con) := noDiscSent_of_sent_eq rfl
  unfold srRemoveConfirmedMessages
  split
  · exact hpop.trans (dataSendEvent_noDiscSent P _)
  · exact hpop

theorem retransmitPackets_noDiscSent (packets : List Bytes) (con : Connection) :
    NoDiscSent con (packets.foldl (retransmitPacket P) con) := by
  induction packets generalizing con with
  | nil => exact noDiscSent_of_sent_eq rfl
  | cons element rest ih =>
    have hfirst : NoDiscSent con (retransmitPacket P con element) :=
      noDiscSent_of_append _ rfl nofun
    exact hfirst.trans (ih _)

theorem srRetransmitData_noDiscSent (con : Connection) :
    NoDiscSent con (srRetransmitData P con) := by
  have hpackets := retransmitPackets_noDiscSent P con.fifoRetransmission.items
    { con with
      fifoRetransmission :=
        fifoPopMany con.fifoRetransmission con.fifoRetransmission.items.length }
  have hstart : NoDiscSent con
      { con with
        fifoRetransmission :=
          fifoPopMany con.fifoRetransmission con.fifoRetransmission.items.length } :=
    noDiscSent_of_sent_eq rfl
  exact (hstart.trans hpackets).trans (sendHeartbeat_noDiscSent P _ true)

theorem answerRetrreq_noDiscSent (con : Connection) : NoDiscSent con (answerRetrreq P con) :=
  ((srRemoveConfirmedMessages_noDiscSent P con).trans
    (sendRetransmissionResponse_noDiscSent P _)).trans (srRetransmitData_noDiscSent P _)

theorem addAppMessages_sent (packet : RastaPacket) (messages : List Bytes) (con : Connection) :
    (addAppMessages P packet messages con).sent = con.sent :=
  (addAppMessages_frame P packet messages con).sent

theorem redundancyMuxSend_noDiscSent (con : Connection) {data : RastaPacket}
    (htype : data.type ≠ .discReq) : NoDiscSent con (redundancyMuxSend P con data) :=
  noDiscSent_of_append _ rfl htype

theorem armRekeying_sent (con : Connection) : (armRekeying con).sent = con.sent := by
  unfold armRekeying
  split <;> rfl

theorem Counted.sent {con base : Connection} (h : Counted con base) : base.sent = con.sent := by
  obtain ⟨_, _, _, _, rfl⟩ := h
  rfl

theorem sendKexRequest_noDiscSent (con : Connection) : NoDiscSent con (sendKexRequest P con) := by
  obtain habort | ⟨base, request, hbase, htype, -, -, hsend⟩ := sendKexRequest_cases P con
  · rw [habort]
    exact noDiscSent_of_sent_eq rfl
  · have harmed : NoDiscSent con (armRekeying base) :=
      noDiscSent_of_sent_eq ((armRekeying_sent base).trans hbase.sent)
    have hrequest : request.type ≠ .discReq := by
      rw [htype]
      nofun
    rw [hsend]
    exact (harmed.trans (redundancyMuxSend_noDiscSent P _ hrequest)).trans
      (noDiscSent_of_sent_eq rfl)

/-- Making room in the send queue, as the loop of `sr_send` does. -/
theorem flush_noDiscSent (con : Connection) :
    NoDiscSent con (if fifoFull con.fifoSend then dataSendEvent P con else con) := by
  split
  · exact dataSendEvent_noDiscSent P con
  · exact noDiscSent_of_sent_eq rfl

theorem sendMessages_noDiscSent (messages : List Bytes) (con : Connection) :
    NoDiscSent con (sendMessages P messages con).1 := by
  induction messages generalizing con with
  | nil => exact noDiscSent_of_sent_eq rfl
  | cons message rest ih =>
    unfold sendMessages
    generalize hflushed : (if fifoFull con.fifoSend then dataSendEvent P con else con) = flushed
    have hflush : NoDiscSent con flushed := hflushed ▸ flush_noDiscSent P con
    simp only
    split
    · have hpush : NoDiscSent flushed
          (enableSendEvent
            { flushed with fifoSend := (fifoPush flushed.fifoSend message).2 }) :=
        noDiscSent_of_sent_eq rfl
      exact (hflush.trans hpush).trans (ih _)
    · exact hflush

end Sending

/-- The connection ended up closed, and all that was sent on the way is at most one
disconnection request. -/
def ClosedAfter (before after : Connection) : Prop :=
  after.currentState = .closed ∧
    (after.sent = before.sent ∨
      ∃ disc : SentPdu, after.sent = before.sent ++ [disc] ∧ disc.packet.type = .discReq)

/-- A disconnection request is the last thing sent, and then the connection is closed. -/
def DiscIsLast (before after : Connection) : Prop :=
  NoDiscSent before after ∨ ClosedAfter before after

section Conditions

variable (P : Platform) (con : Connection)

/-- A packet for which `handle_retrreq` or `handle_hb` goes on after closing, or answers on a
closed connection. -/
def GoesOnAfterClosing (packet : RastaPacket) : Prop :=
  ReachesHandler P con packet ∧
    (packet.type = .retrReq ∧
        (con.currentState = .closed ∨
          con.currentState = .retrRun ∧ srSnInSeq con packet = true) ∨
      packet.type = .hb ∧ con.currentState = .start ∧ srCtsInSeq con packet = true ∧
        (con.role = .client ∨ srSnInSeq con packet = false))

instance (packet : RastaPacket) : Decidable (GoesOnAfterClosing P con packet) :=
  inferInstanceAs (Decidable (_ ∧ _))

/-- The step takes none of the branches that disregard a closed connection: those of the two
handlers, the send timer with messages left over, and the rekeying timer. -/
def ClosingRespected : Event → Prop
  | .receive packet => ¬ GoesOnAfterClosing P con packet
  | .dataSend =>
    ¬ (con.sendEvent.enabled = true ∧ con.currentState = .closed ∧ 0 < sendBacklogSize con)
  | .timedKeyExchange =>
    ¬ (P.enableOpaque = true ∧ con.rekeyingEvent.enabled = true ∧ con.currentState = .closed)
  | _ => True

instance (event : Event) : Decidable (ClosingRespected P con event) :=
  match event with
  | .receive _ | .dataSend | .timedKeyExchange => inferInstanceAs (Decidable (¬ _))
  | .heartbeat | .connectionExpired | .send _ | .connect _ | .connectReturn | .disconnect
  | .transportClosed | .recv | .accept | .acceptReturn => inferInstanceAs (Decidable True)

/-- The step starts a new session. -/
def StartsSession : Event → Prop
  | .connect transportOk => transportOk = true ∧ Connectable con
  | .receive packet => ConreqAccepted P con packet
  | _ => False

instance (event : Event) : Decidable (StartsSession P con event) :=
  match event with
  | .connect _ => inferInstanceAs (Decidable (_ ∧ _))
  | .receive packet => inferInstanceAs (Decidable (ConreqAccepted P con packet))
  | .dataSend | .heartbeat | .connectionExpired | .timedKeyExchange | .send _ | .connectReturn
  | .disconnect | .transportClosed | .recv | .accept | .acceptReturn =>
    inferInstanceAs (Decidable False)

/-- The step processes a disconnection request of the peer. -/
def ProcessesDiscReq : Event → Prop
  | .receive packet =>
    con.aborted = false ∧ packet.type = .discReq ∧ ReachesHandler P con packet
  | _ => False

instance (event : Event) : Decidable (ProcessesDiscReq P con event) :=
  match event with
  | .receive _ => inferInstanceAs (Decidable (_ ∧ _))
  | .dataSend | .heartbeat | .connectionExpired | .timedKeyExchange | .send _ | .connect _
  | .connectReturn | .disconnect | .transportClosed | .recv | .accept | .acceptReturn =>
    inferInstanceAs (Decidable False)

/-- The step sends a disconnection request or processes one. -/
def Closes (event : Event) : Prop :=
  (∃ pdu ∈ (endpointStep P con event).sent.drop con.sent.length,
      pdu.packet.type = .discReq) ∨ ProcessesDiscReq P con event

instance (event : Event) : Decidable (Closes P con event) :=
  inferInstanceAs (Decidable (_ ∨ _))

end Conditions

section Steps

variable (P : Platform) {con base after : Connection} {packet : RastaPacket}

theorem srCloseConnection_of_closed (h : con.currentState = .closed)
    (reason : RastaDisconnectReason) (details : UInt16) :
    (srCloseConnection P con reason details).currentState = .closed ∧
      (srCloseConnection P con reason details).sent = con.sent := by
  simp [srCloseConnection, h, srResetConnection]

theorem srCloseConnection_closedAfter {middle : Connection}
    (h : middle.sent = con.sent ∨ ClosedAfter con middle) (reason : RastaDisconnectReason)
    (details : UInt16) : ClosedAfter con (srCloseConnection P middle reason details) := by
  by_cases hclosed : middle.currentState = .closed
  · obtain ⟨hstate, hsent⟩ := srCloseConnection_of_closed P hclosed reason details
    refine ⟨hstate, ?_⟩
    rw [hsent]
    rcases h with h | h
    · exact .inl h
    · exact h.2
  · have hsame : middle.sent = con.sent := by
      rcases h with h | h
      · exact h
      · exact absurd h.1 hclosed
    unfold srCloseConnection
    split
    · exact ⟨rfl, .inl hsame⟩
    · exact ⟨rfl, .inr ⟨_, congrArg (· ++ _) hsame, rfl⟩⟩

theorem rejectHbSn_outcome (con : Connection) (packet : RastaPacket) :
    rejectHbSn P con packet = con ∧ srSnInSeq con packet = true ∨
      ClosedAfter con (rejectHbSn P con packet) := by
  unfold rejectHbSn
  split
  · rename_i hseq
    exact .inl ⟨rfl, hseq⟩
  · right
    split <;> exact srCloseConnection_closedAfter P (.inl rfl) _ _

theorem rejectStartHb_outcome (con : Connection) (packet : RastaPacket) :
    rejectStartHb P con packet = con ∨ ClosedAfter con (rejectStartHb P con packet) := by
  unfold rejectStartHb rejectHbRole
  rcases rejectHbSn_outcome P con packet with ⟨hkept, -⟩ | hclosed
  · rw [hkept]
    split
    · exact .inr (srCloseConnection_closedAfter P (.inl rfl) _ _)
    · exact .inl rfl
  · right
    split
    · exact srCloseConnection_closedAfter P (.inr hclosed) _ _
    · exact hclosed

theorem establishByHb_sent (con : Connection) (packet : RastaPacket) :
    (establishByHb con packet).sent = con.sent := rfl

theorem acceptHb_noDiscSent (con : Connection) (packet : RastaPacket) :
    NoDiscSent con (acceptHb P con packet) := by
  have hremove := srRemoveConfirmedMessages_noDiscSent P
    (updateConfirmedAttrs (updateConnectionAttrs (srDiagnosticUpdate P
      (srUpdateTimeoutInterval P con packet.confirmedTimestamp) packet) packet) packet)
  have hstart : NoDiscSent con
      (updateConfirmedAttrs (updateConnectionAttrs (srDiagnosticUpdate P
        (srUpdateTimeoutInterval P con packet.confirmedTimestamp) packet) packet) packet) :=
    noDiscSent_of_sent_eq rfl
  unfold acceptHb
  simp only
  split
  · exact (hstart.trans hremove).trans (noDiscSent_of_sent_eq rfl)
  · exact hstart.trans hremove

theorem startKeyExchange_noDiscSent (con : Connection) :
    NoDiscSent con (startKeyExchange P con) := by
  unfold startKeyExchange
  split
  · exact sendKexRequest_noDiscSent P con
  · exact noDiscSent_of_sent_eq rfl

theorem superviseConnection_sent (con : Connection) (packet : RastaPacket) :
    (superviseConnection P con packet).sent = con.sent := by
  unfold superviseConnection
  split <;> rfl

theorem acceptConresp_noDiscSent (con : Connection) (packet : RastaPacket) :
    NoDiscSent con (acceptConresp P con packet) := by
  have hattrs : NoDiscSent con
      (setState (setCsR (updateConnectionAttrs con packet) packet) .up) :=
    noDiscSent_of_sent_eq rfl
  have hanswer : NoDiscSent con (answerConresp P con packet) :=
    hattrs.trans (sendHeartbeat_noDiscSent P _ true)
  exact (hanswer.trans (startKeyExchange_noDiscSent P _)).trans
    (noDiscSent_of_sent_eq (superviseConnection_sent P _ packet))

theorem prepareServer_sent (con : Connection) : (prepareServer P con).sent = con.sent := by
  unfold prepareServer srInitConnection
  cases P.enableOpaque <;> rfl

theorem prepareServer_state (con : Connection) :
    (prepareServer P con).currentState = .down := by
  unfold prepareServer srInitConnection
  cases P.enableOpaque <;> rfl

theorem acceptConreq_sent (con : Connection) (packet : RastaPacket) :
    ∃ conresp : SentPdu, (acceptConreq P con packet).sent = con.sent ++ [conresp] ∧
      conresp.packet.type = .connResp := by
  -- comparing the connections themselves would evaluate the extracted connection data
  unfold acceptConreq redundancyMuxSend
  dsimp only [setState, incrementSnT, tick, updateConfirmedAttrs, updateConnectionAttrs]
  exact ⟨_, rfl, rfl⟩

/-- Whatever a received packet causes, a disconnection request is the end of it. -/
theorem Received.discIsLast (h : Received P con packet after)
    (hok : ¬ GoesOnAfterClosing P con packet) : DiscIsLast con after := by
  have hsame : ∀ {base : Connection}, Counted con base → NoDiscSent con base :=
    fun hbase => noDiscSent_of_sent_eq hbase.sent
  cases h with
  | ignored hbase => exact .inl (hsame hbase)
  | closed hbase reason =>
    exact .inr (srCloseConnection_closedAfter P (.inl hbase.sent) reason 0)
  | discReq hbase hreach htype => exact .inl (noDiscSent_of_sent_eq hbase.sent)
  | @data base hbase =>
    have hadd : NoDiscSent base
        (updateConfirmedAttrs (updateConnectionAttrs
          (srAddAppMessagesToBuffer P base packet) packet) packet) :=
      noDiscSent_of_sent_eq (addAppMessages_sent P packet _ base)
    exact .inl (((hsame hbase).trans hadd).trans (srRemoveConfirmedMessages_noDiscSent P _))
  | dataDropped hbase => exact .inl ((hsame hbase).trans (noDiscSent_of_sent_eq rfl))
  | retransmissionRequested hbase =>
    exact .inl (((hsame hbase).trans (sendRetransmissionRequest_noDiscSent P _)).trans
      (noDiscSent_of_sent_eq rfl))
  | heartbeatGap hbase => exact .inl ((hsame hbase).trans (noDiscSent_of_sent_eq rfl))
  | @retrReqInSeq base hbase hreach htype hseq =>
    have hrun : base.currentState ≠ .retrRun := by
      rw [hbase.currentState]
      intro hstate
      exact hok ⟨hreach, .inl ⟨htype, .inr ⟨hstate, hseq⟩⟩⟩
    have hbranch : (handleRetrreq P base packet).1 =
        answerRetrreq P (setCsR (updateConnectionAttrs base packet) packet) := by
      simp [handleRetrreq, hbase.srSnInSeq, hseq, hrun]
    have hattrs : NoDiscSent base (setCsR (updateConnectionAttrs base packet) packet) :=
      noDiscSent_of_sent_eq rfl
    rw [hbranch]
    exact .inl (((hsame hbase).trans hattrs).trans (answerRetrreq_noDiscSent P _))
  | @retrReqOutOfSeq base hbase =>
    have hattrs : NoDiscSent base (setCsR base packet) := noDiscSent_of_sent_eq rfl
    exact .inl ((((hsame hbase).trans hattrs).trans (answerRetrreq_noDiscSent P _)).trans
      (noDiscSent_of_sent_eq rfl))
  | retrResp hbase => exact .inl ((hsame hbase).trans (noDiscSent_of_sent_eq rfl))
  | @retrData base hbase =>
    exact .inl ((hsame hbase).trans
      (noDiscSent_of_sent_eq (addAppMessages_sent P packet _ base)))
  | @heartbeatStart base hbase hreach htype hstate hcts =>
    -- the rejections were excluded, so the heartbeat completes the handshake of a server
    have hrole : con.role ≠ .client := fun hrole =>
      hok ⟨hreach, .inr ⟨htype, hstate, hcts, .inl hrole⟩⟩
    have hseq : srSnInSeq con packet = true := by
      by_contra hseq
      exact hok ⟨hreach, .inr ⟨htype, hstate, hcts, .inr (by simpa using hseq)⟩⟩
    have hkept : rejectStartHb P base packet = base := by
      have hbaseRole : base.role = con.role := by
        obtain ⟨_, _, _, _, rfl⟩ := hbase
        rfl
      simp [rejectStartHb, rejectHbRole, rejectHbSn, hbase.srSnInSeq, hseq, hbaseRole, hrole]
    rw [hkept]
    exact .inl ((hsame hbase).trans (noDiscSent_of_sent_eq (establishByHb_sent base packet)))
  | @heartbeatLate base hbase =>
    have hreject : (rejectStartHb P base packet).sent = con.sent ∨
        ClosedAfter con (rejectStartHb P base packet) := by
      rcases rejectStartHb_outcome P base packet with hkept | ⟨hclosed, hsent⟩
      · rw [hkept]
        exact .inl hbase.sent
      · rw [hbase.sent] at hsent
        exact .inr ⟨hclosed, hsent⟩
    exact .inr (srCloseConnection_closedAfter P hreject _ _)
  | heartbeat hbase => exact .inl ((hsame hbase).trans (acceptHb_noDiscSent P _ packet))
  | conreqRefused htype hstate reason =>
    exact .inr (srCloseConnection_closedAfter P (.inl (prepareServer_sent P con)) reason 0)
  | conreqAccepted =>
    have hprepared : NoDiscSent con (prepareServer P con) :=
      noDiscSent_of_sent_eq (prepareServer_sent P con)
    obtain ⟨conresp, hsent, htype⟩ := acceptConreq_sent P (prepareServer P con) packet
    refine .inl (hprepared.trans (noDiscSent_of_append conresp hsent ?_))
    rw [htype]
    simp
  | conrespAccepted => exact .inl (acceptConresp_noDiscSent P con packet)
  | aborted hbase => exact .inl ((hsame hbase).trans (noDiscSent_of_sent_eq rfl))
  | @kexRequest base hbase hreach hmode hstate hseq response hresponse =>
    have hsend : NoDiscSent base
        (updateKexAttrs (incrementSnT (redundancyMuxSend P base response)) packet) :=
      noDiscSent_of_append _ rfl (by rw [hresponse]; simp)
    exact .inl ((((hsame hbase).trans hsend).trans
      (srRemoveConfirmedMessages_noDiscSent P _)).trans (noDiscSent_of_sent_eq rfl))
  | @kexResponse base hbase hreach hmode hstate hseq response hresponse =>
    have hsend : NoDiscSent base
        (updateKexAttrs (incrementSnT (redundancyMuxSend P base response)) packet) :=
      noDiscSent_of_append _ rfl (by rw [hresponse]; simp)
    exact .inl ((((hsame hbase).trans hsend).trans
      (srRemoveConfirmedMessages_noDiscSent P _)).trans (noDiscSent_of_sent_eq rfl))
  | @kexAuth base hbase =>
    have hattrs : NoDiscSent base (updateKexAttrs base packet) := noDiscSent_of_sent_eq rfl
    exact .inl ((((hsame hbase).trans hattrs).trans
      (srRemoveConfirmedMessages_noDiscSent P _)).trans (noDiscSent_of_sent_eq rfl))

theorem endpointStep_discIsLast (con : Connection) (event : Event)
    (hok : ClosingRespected P con event) : DiscIsLast con (endpointStep P con event) := by
  have hnothing : DiscIsLast con con := .inl (noDiscSent_of_sent_eq rfl)
  unfold endpointStep
  split
  · exact hnothing
  cases event with
  | receive packet => exact (srReceive_received P con packet).discIsLast P hok
  | dataSend =>
    simp only
    split
    · exact .inl (dataSendEvent_noDiscSent P con)
    · exact hnothing
  | heartbeat =>
    simp only
    split
    · unfold heartbeatSendEvent
      split
      · exact hnothing
      · split
        · exact .inl (sendHeartbeat_noDiscSent P con false)
        · exact hnothing
    · exact hnothing
  | connectionExpired =>
    simp only
    split
    · unfold eventConnectionExpired
      split
      · exact hnothing
      · split
        · exact .inr (srCloseConnection_closedAfter P (.inl rfl) .timeout 0)
        · exact .inl (noDiscSent_of_sent_eq rfl)
    · exact hnothing
  | timedKeyExchange =>
    simp only
    split
    · unfold sendTimedKeyExchange
      split
      · have hrescheduled : NoDiscSent (sendKexRequest P con)
            (rescheduleRekeying (sendKexRequest P con)) := by
          unfold rescheduleRekeying
          split
          · exact noDiscSent_of_sent_eq rfl
          · exact noDiscSent_of_sent_eq rfl
        exact .inl ((sendKexRequest_noDiscSent P con).trans hrescheduled)
      · exact hnothing
    · exact hnothing
  | send appMessages =>
    simp only [srSend]
    split
    · split
      · exact hnothing
      · exact .inl (sendMessages_noDiscSent P appMessages con)
    · exact .inl (noDiscSent_of_sent_eq rfl)
    · exact .inl (noDiscSent_of_sent_eq rfl)
    all_goals exact .inr ⟨rfl, .inr ⟨_, rfl, rfl⟩⟩
  | connect transportOk =>
    simp only [srConnect]
    split
    · split
      · unfold openSession srInitConnection
        cases P.enableOpaque
        · exact .inl (noDiscSent_of_append _ rfl nofun)
        · exact .inl (noDiscSent_of_append _ rfl nofun)
      · exact .inl (noDiscSent_of_sent_eq rfl)
    · exact hnothing
  | connectReturn => exact .inl (noDiscSent_of_sent_eq rfl)
  | disconnect => exact .inr (srCloseConnection_closedAfter P (.inl rfl) .userRequest 0)
  | transportClosed => exact .inl (noDiscSent_of_sent_eq rfl)
  | recv =>
    simp only [rastaRecv]
    split
    · exact .inl (noDiscSent_of_sent_eq rfl)
    · exact hnothing
  | accept => exact .inl (noDiscSent_of_sent_eq rfl)
  | acceptReturn => exact .inl (noDiscSent_of_sent_eq rfl)

/-- A packet that starts no session has no effect worth mentioning on a closed connection. -/
theorem Received.quiet (h : Received P con packet after) (hclosed : con.currentState = .closed)
    (hok : ¬ GoesOnAfterClosing P con packet) (hno : ¬ ConreqAccepted P con packet) :
    after.currentState = .closed ∧ after.sent = con.sent := by
  have hother : ∀ state, con.currentState = state → state ≠ .closed → False := by
    intro state hstate hne
    exact hne (hstate.symm.trans hclosed)
  cases h with
  | ignored hbase => exact ⟨hbase.currentState.trans hclosed, hbase.sent⟩
  | closed hbase reason =>
    obtain ⟨hstate, hsent⟩ := srCloseConnection_of_closed P
      (hbase.currentState.trans hclosed) reason 0
    exact ⟨hstate, hsent.trans hbase.sent⟩
  | discReq hbase => exact ⟨rfl, hbase.sent⟩
  | data _ _ _ hstate => exact (hother _ hstate nofun).elim
  | dataDropped _ _ _ hstate => exact (hother _ hstate nofun).elim
  | retransmissionRequested _ _ htype =>
    rcases htype with ⟨-, hstate | hstate⟩ | ⟨-, hstate⟩ <;>
      exact (hother _ hstate nofun).elim
  | heartbeatGap _ _ _ hstate =>
    rcases hstate with hstate | hstate <;> exact (hother _ hstate nofun).elim
  | retrReqInSeq _ hreach htype => exact (hok ⟨hreach, .inl ⟨htype, .inl hclosed⟩⟩).elim
  | retrReqOutOfSeq _ hreach htype => exact (hok ⟨hreach, .inl ⟨htype, .inl hclosed⟩⟩).elim
  | retrResp _ _ _ hstate => exact (hother _ hstate nofun).elim
  | retrData _ _ _ hstate => exact (hother _ hstate nofun).elim
  | heartbeatStart _ _ _ hstate => exact (hother _ hstate nofun).elim
  | heartbeatLate _ _ _ hstate => exact (hother _ hstate nofun).elim
  | heartbeat _ _ _ hstate =>
    rcases hstate with h | h | h | h | h <;> exact (hother _ h nofun).elim
  | conreqRefused htype hstate reason =>
    have hreset : srCloseConnection P (prepareServer P con) reason 0 =
        srResetConnection (prepareServer P con) := by
      simp [srCloseConnection, prepareServer_state]
    rw [hreset]
    exact ⟨rfl, prepareServer_sent P con⟩
  | conreqAccepted haccepted => exact (hno haccepted).elim
  | conrespAccepted haccepted => exact (hother _ haccepted.2.1 nofun).elim
  | aborted hbase => exact ⟨hbase.currentState.trans hclosed, hbase.sent⟩
  | kexRequest _ _ _ hstate =>
    rcases hstate with hstate | hstate <;> exact (hother _ hstate nofun).elim
  | kexResponse _ _ _ hstate => exact (hother _ hstate nofun).elim
  | kexAuth _ _ _ hstate => exact (hother _ hstate nofun).elim

theorem endpointStep_quiet (con : Connection) (event : Event)
    (hclosed : con.currentState = .closed) (hok : ClosingRespected P con event)
    (hno : ¬ StartsSession P con event) :
    (endpointStep P con event).currentState = .closed ∧
      (endpointStep P con event).sent = con.sent := by
  have hestablished : ¬ Established con.currentState := by
    rw [hclosed]
    decide
  unfold endpointStep
  split
  · exact ⟨hclosed, rfl⟩
  cases event with
  | receive packet => exact (srReceive_received P con packet).quiet P hclosed hok hno
  | dataSend =>
    simp only
    split
    · rename_i henabled
      have hnone : sendQueued P con = con := by
        have hbacklog : ¬ 0 < sendBacklogSize con := fun h => hok ⟨henabled, hclosed, h⟩
        rw [sendQueued, if_neg hbacklog]
      unfold dataSendEvent stopIdleSending
      rw [hnone]
      split
      · exact ⟨hclosed, rfl⟩
      · exact ⟨hclosed, rfl⟩
    · exact ⟨hclosed, rfl⟩
  | heartbeat =>
    have hsame : heartbeatSendEvent P con = con := by
      unfold heartbeatSendEvent
      rw [if_neg hestablished, ite_self]
    simp only [hsame, ite_self]
    exact ⟨hclosed, trivial⟩
  | connectionExpired =>
    simp only
    split
    · unfold eventConnectionExpired
      rw [if_neg hestablished]
      split
      · exact ⟨hclosed, rfl⟩
      · exact ⟨hclosed, rfl⟩
    · exact ⟨hclosed, rfl⟩
  | timedKeyExchange =>
    simp only
    split
    · rename_i henabled
      unfold sendTimedKeyExchange
      split
      · rename_i hbuilt
        exact (hok ⟨hbuilt, henabled, hclosed⟩).elim
      · exact ⟨hclosed, rfl⟩
    · exact ⟨hclosed, rfl⟩
  | send appMessages => simp [srSend, hclosed, setState]
  | connect transportOk =>
    simp only [srConnect]
    split
    · rename_i hconnectable
      split
      · rename_i hok
        exact (hno ⟨hok, hconnectable⟩).elim
      · exact ⟨hclosed, rfl⟩
    · exact ⟨hclosed, rfl⟩
  | connectReturn => exact ⟨hclosed, rfl⟩
  | disconnect => exact srCloseConnection_of_closed P hclosed .userRequest 0
  | transportClosed => exact ⟨rfl, rfl⟩
  | recv => simp [rastaRecv, hclosed]
  | accept => exact ⟨hclosed, rfl⟩
  | acceptReturn => exact ⟨hclosed, rfl⟩

theorem processesDiscReq_effect (con : Connection) (event : Event)
    (h : ProcessesDiscReq P con event) :
    (endpointStep P con event).currentState = .closed ∧
      (endpointStep P con event).sent = con.sent := by
  cases event with
  | receive packet =>
    obtain ⟨hrunning, htype, hreach⟩ := h
    obtain ⟨reads, hreceive⟩ := srReceive_of_reaches P (by simp [htype]) (by simp [htype]) hreach
    simp only [endpointStep, hrunning, Bool.false_eq_true, if_false, hreceive,
      handleReceivedPacket, htype, handleDiscreq]
    exact ⟨rfl, rfl⟩
  | _ => exact h.elim

/-- The step that closes leaves the connection closed, with nothing sent after a disconnection
request. -/
theorem closes_effect (con : Connection) (event : Event) (hok : ClosingRespected P con event)
    (hcloses : Closes P con event) :
    (endpointStep P con event).currentState = .closed ∧
      ∃ pdus, (endpointStep P con event).sent = con.sent ++ pdus ∧
        (∀ pdu ∈ pdus.dropLast, pdu.packet.type ≠ .discReq) ∧
        (ProcessesDiscReq P con event → pdus = []) := by
  by_cases hprocessed : ProcessesDiscReq P con event
  · obtain ⟨hstate, hsent⟩ := processesDiscReq_effect P con event hprocessed
    exact ⟨hstate, [], by simpa using hsent, by simp, fun _ => rfl⟩
  rcases hcloses with ⟨pdu, hmem, htype⟩ | h
  · rcases endpointStep_discIsLast P con event hok with ⟨pdus, hsent, htypes⟩ | ⟨hstate, hsent⟩
    · rw [hsent, List.drop_left] at hmem
      exact absurd htype (htypes pdu hmem)
    · refine ⟨hstate, ?_⟩
      rcases hsent with hsent | ⟨disc, hsent, -⟩
      · exact ⟨[], by simpa using hsent, by simp, fun _ => rfl⟩
      · exact ⟨[disc], hsent, by simp, fun h => absurd h hprocessed⟩
  · exact absurd h hprocessed

theorem closed_run_quiet (con : Connection) (events : List Event)
    (hclosed : con.currentState = .closed)
    (hok : RunOk (endpointStep P) (ClosingRespected P) con events)
    (hno : RunOk (endpointStep P) (fun con event => ¬ StartsSession P con event) con events) :
    (run (endpointStep P) con events).currentState = .closed ∧
      (run (endpointStep P) con events).sent = con.sent := by
  have hboth : RunOk (endpointStep P)
      (fun con event => ClosingRespected P con event ∧ ¬ StartsSession P con event) con events :=
    fun t ht => ⟨hok t ht, hno t ht⟩
  refine @run_invariant _ _ (endpointStep P) _
    (fun c => c.currentState = .closed ∧ c.sent = con.sent) ?_ _ _ hboth ⟨hclosed, rfl⟩
  rintro c event ⟨hstate, hsent⟩ ⟨hrespected, hstarts⟩
  obtain ⟨hstate', hsent'⟩ := endpointStep_quiet P c event hstate hrespected hstarts
  exact ⟨hstate', hsent'.trans hsent⟩

/-- In every run whose steps respect closing: from the step on that sends a disconnection
request or processes one, the connection is closed and sends nothing, until a new session
starts; and the closing step itself sends nothing after its disconnection request, or nothing
at all if it processed one. -/
theorem closing_is_final (con : Connection) (front rest : List Event) (event : Event)
    (hok : RunOk (endpointStep P) (ClosingRespected P) con (front ++ event :: rest))
    (hcloses : Closes P (run (endpointStep P) con front) event)
    (hno : RunOk (endpointStep P) (fun con event => ¬ StartsSession P con event)
      (run (endpointStep P) con (front ++ [event])) rest) :
    (run (endpointStep P) con (front ++ event :: rest)).currentState = .closed ∧
      (run (endpointStep P) con (front ++ event :: rest)).sent =
        (run (endpointStep P) con (front ++ [event])).sent ∧
      ∃ pdus, (run (endpointStep P) con (front ++ [event])).sent =
          (run (endpointStep P) con front).sent ++ pdus ∧
        (∀ pdu ∈ pdus.dropLast, pdu.packet.type ≠ .discReq) ∧
        (ProcessesDiscReq P (run (endpointStep P) con front) event → pdus = []) := by
  obtain ⟨-, hrestOk⟩ := (runOk_append (endpointStep P)).mp hok
  obtain ⟨hstepOk, hafterOk⟩ := (runOk_cons (endpointStep P)).mp hrestOk
  have hsplit : front ++ event :: rest = front ++ [event] ++ rest := by simp
  have hone : run (endpointStep P) con (front ++ [event]) =
      endpointStep P (run (endpointStep P) con front) event := by
    rw [run_append, run_cons, run_nil]
  rw [hone] at hno
  obtain ⟨hstate, hpdus⟩ := closes_effect P _ event hstepOk hcloses
  obtain ⟨hfinal, hsilent⟩ := closed_run_quiet P _ rest hstate hafterOk hno
  rw [hsplit, run_append, hone]
  exact ⟨hfinal, hsilent, hpdus⟩

end Steps

/-- An endpoint right after the library was initialised, with a clock that advances by one
millisecond at each reading. -/
def exampleClient : Connection :=
  rastaLibInitConfiguration exampleConfig fun reading => (5000 + reading) * 10 ^ 6

/-- A heartbeat of the peer that arrives while `exampleClient` waits for the response. -/
def exampleEarlyHeartbeat : RastaPacket :=
  { exampleHeartbeat with
    receiverId := exampleClient.myId
    senderId := exampleClient.remoteId
    sequenceNumber := 0
    confirmedTimestamp := 5000
    checksumCorrect := true }

theorem closing_is_final_disconnect :
    (run (endpointStep referencePlatform) exampleClient
        ([.connect true] ++ .disconnect :: [.dataSend, .heartbeat, .send [[1]]])).currentState =
      .closed :=
  (closing_is_final referencePlatform exampleClient [.connect true]
    [.dataSend, .heartbeat, .send [[1]]] .disconnect (by decide +kernel) (by decide +kernel)
    (by decide +kernel)).1

/-- The client answers the early heartbeat with a disconnection request, is up all the same,
and sends a heartbeat when its timer fires. -/
theorem heartbeat_after_disconnection_request :
    Closes referencePlatform
        (run (endpointStep referencePlatform) exampleClient [.connect true])
        (.receive exampleEarlyHeartbeat) ∧
      ¬ StartsSession referencePlatform
        (run (endpointStep referencePlatform) exampleClient [.connect true])
        (.receive exampleEarlyHeartbeat) ∧
      (run (endpointStep referencePlatform) exampleClient
        [.connect true, .receive exampleEarlyHeartbeat]).currentState = .up ∧
      ((run (endpointStep referencePlatform) exampleClient
        [.connect true, .receive exampleEarlyHeartbeat, .heartbeat]).sent.map
          (·.packet.type)) = [.connReq, .discReq, .hb] := by
  decide +kernel

end LibRasta.Retransmission
