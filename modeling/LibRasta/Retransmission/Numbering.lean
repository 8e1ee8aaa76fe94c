/-
Module: LibRasta/Retransmission/Numbering.lean
source: src/c/retransmission/messages.c, src/c/transport/events.c, src/c/retransmission/safety_retransmission.c, src/c/experimental/handlers.c
digest: The PDUs an endpoint sends in one session carry consecutive sequence numbers, over all sending sites and all runs.
-/

import LibRasta.Retransmission.Closing

set_option autoImplicit false
set_option relaxedAutoImplicit false

namespace LibRasta.Retransmission

open LibRasta.Lib
open LibRasta.Util
open LibRasta.Factory

/-- The PDUs carry the numbers from `number` on, up to and including the first disconnection
request among them. -/
def NumberedFrom : UInt32 → List SentPdu → Prop
  | _, [] => True
  | number, pdu :: rest =>
    pdu.packet.sequenceNumber = number ∧
      (pdu.packet.type ≠ .discReq → NumberedFrom (number + 1) rest)

theorem numberedFrom_append {number : UInt32} {first second : List SentPdu}
    (hfirst : NumberedFrom number first)
    (hsecond : (∀ pdu ∈ first, pdu.packet.type ≠ .discReq) →
      NumberedFrom (number + UInt32.ofNat first.length) second) :
    NumberedFrom number (first ++ second) := by
  induction first generalizing number with
  | nil =>
    have hall := hsecond (by simp)
    simpa using hall
  | cons pdu rest ih =>
    obtain ⟨hnumber, hrest⟩ := hfirst
    refine ⟨hnumber, ?_⟩
    intro htype
    refine ih (hrest htype) ?_
    intro hothers
    have hall : ∀ other ∈ pdu :: rest, other.packet.type ≠ .discReq := by
      intro other hmem
      rcases List.mem_cons.mp hmem with rfl | hmem
      · exact htype
      · exact hothers other hmem
    have hlength : UInt32.ofNat (pdu :: rest).length = 1 + UInt32.ofNat rest.length := by
      rw [List.length_cons, Nat.add_comm, UInt32.ofNat_add]
      rfl
    have hshifted := hsecond hall
    rwa [hlength, ← UInt32.add_assoc] at hshifted

theorem NumberedFrom.get {number : UInt32} {pdus : List SentPdu} (h : NumberedFrom number pdus)
    {i : ℕ} {pdu : SentPdu} (hget : pdus[i]? = some pdu)
    (hbefore : ∀ j other, j < i → pdus[j]? = some other → other.packet.type ≠ .discReq) :
    pdu.packet.sequenceNumber = number + UInt32.ofNat i := by
  induction pdus generalizing number i with
  | nil => simp at hget
  | cons head rest ih =>
    cases i with
    | zero =>
      obtain rfl : head = pdu := by simpa using hget
      simpa using h.1
    | succ i =>
      have htype := hbefore 0 head (by omega) rfl
      have hrest := ih (h.2 htype) (by simpa using hget) (by
        intro j other hj hother
        exact hbefore (j + 1) other (by omega) (by simpa using hother))
      rw [hrest, Nat.add_comm i 1, UInt32.ofNat_add, ← UInt32.add_assoc]
      rfl

/-- Between two states of a connection PDUs were sent with consecutive numbers, and unless a
disconnection request is among them `sn_t` is the number after the last. -/
def SendsInOrder (before after : Connection) : Prop :=
  ∃ pdus, after.sent = before.sent ++ pdus ∧ NumberedFrom before.snT pdus ∧
    ((∀ pdu ∈ pdus, pdu.packet.type ≠ .discReq) →
      after.snT = before.snT + UInt32.ofNat pdus.length)

section Sending

variable (P : Platform)

theorem sendsInOrder_of_eq {before after : Connection} (hsent : after.sent = before.sent)
    (hsnT : after.snT = before.snT) : SendsInOrder before after :=
  ⟨[], by simpa using hsent, trivial, by simpa using hsnT⟩

theorem SendsInOrder.trans {a b c : Connection} (hab : SendsInOrder a b)
    (hbc : SendsInOrder b c) : SendsInOrder a c := by
  obtain ⟨first, hfirst, hfirstNumbers, hb⟩ := hab
  obtain ⟨second, hsecond, hsecondNumbers, hc⟩ := hbc
  refine ⟨first ++ second, by rw [hsecond, hfirst, List.append_assoc], ?_, ?_⟩
  · refine numberedFrom_append hfirstNumbers ?_
    intro hall
    rw [← hb hall]
    exact hsecondNumbers
  · intro hall
    have hfirstAll : ∀ pdu ∈ first, pdu.packet.type ≠ .discReq := by
      intro pdu hmem
      exact hall pdu (List.mem_append_left _ hmem)
    have hsecondAll : ∀ pdu ∈ second, pdu.packet.type ≠ .discReq := by
      intro pdu hmem
      exact hall pdu (List.mem_append_right _ hmem)
    rw [hc hsecondAll, hb hfirstAll, List.length_append, UInt32.ofNat_add, UInt32.add_assoc]

theorem sendsInOrder_of_append {before after : Connection} (pdu : SentPdu)
    (hsent : after.sent = before.sent ++ [pdu])
    (hnumber : pdu.packet.sequenceNumber = before.snT)
    (hsnT : after.snT = before.snT + 1) : SendsInOrder before after :=
  ⟨[pdu], hsent, ⟨hnumber, fun _ => trivial⟩, fun _ => hsnT⟩

theorem sendDisconnectionRequest_inOrder (con : Connection) (reason : RastaDisconnectReason)
    (details : UInt16) : SendsInOrder con (sendDisconnectionRequest P con reason details) := by
  refine ⟨[_], rfl, ⟨rfl, fun _ => trivial⟩, ?_⟩
  intro hall
  exact absurd rfl (hall _ (List.mem_singleton_self _))

theorem sendHeartbeat_inOrder (con : Connection) (rescheduleManually : Bool) :
    SendsInOrder con (sendHeartbeat P con rescheduleManually) := by
  cases rescheduleManually
  · exact sendsInOrder_of_append _ rfl rfl rfl
  · exact sendsInOrder_of_append _ rfl rfl rfl

theorem sendRetransmissionRequest_inOrder (con : Connection) :
    SendsInOrder con (sendRetransmissionRequest P con) :=
  sendsInOrder_of_append _ rfl rfl rfl

theorem sendRetransmissionResponse_inOrder (con : Connection) :
    SendsInOrder con (sendRetransmissionResponse P con) :=
  sendsInOrder_of_append _ rfl rfl rfl

theorem dataSendEvent_inOrder (con : Connection) : SendsInOrder con (dataSendEvent P con) := by
  have hqueued : SendsInOrder con (sendQueued P con) := by
    unfold sendQueued
    split
    · exact sendsInOrder_of_append _ rfl rfl rfl
    · exact sendsInOrder_of_eq rfl rfl
  refine hqueued.trans ?_
  unfold dataSendEvent stopIdleSending
  split
  · exact sendsInOrder_of_eq rfl rfl
  · exact sendsInOrder_of_eq rfl rfl

theorem srRemoveConfirmedMessages_inOrder (con : Connection) :
    SendsInOrder con (srRemoveConfirmedMessages P con) := by
  have hpop : SendsInOrder con (popConfirmed P con) := sendsInOrder_of_eq rfl rfl
  unfold srRemoveConfirmedMessages
  split
  · exact hpop.trans (dataSendEvent_inOrder P _)
  · exact hpop

theorem retransmitPackets_inOrder (packets : List Bytes) (con : Connection) :
    SendsInOrder con (packets.foldl (retransmitPacket P) con) := by
  induction packets generalizing con with
  | nil => exact sendsInOrder_of_eq rfl rfl
  | cons element rest ih =>
    have hfirst : SendsInOrder con (retransmitPacket P con element) :=
      sendsInOrder_of_append _ rfl rfl rfl
    exact hfirst.trans (ih _)

theorem srRetransmitData_inOrder (con : Connection) :
    SendsInOrder con (srRetransmitData P con) := by
  have hpackets := retransmitPackets_inOrder P con.fifoRetransmission.items
    { con with
      fifoRetransmission :=
        fifoPopMany con.fifoRetransmission con.fifoRetransmission.items.length }
  have hstart : SendsInOrder con
      { con with
        fifoRetransmission :=
          fifoPopMany con.fifoRetransmission con.fifoRetransmission.items.length } :=
    sendsInOrder_of_eq rfl rfl
  exact (hstart.trans hpackets).trans (sendHeartbeat_inOrder P _ true)

theorem answerRetrreq_inOrder (con : Connection) : SendsInOrder con (answerRetrreq P con) :=
  ((srRemoveConfirmedMessages_inOrder P con).trans
    (sendRetransmissionResponse_inOrder P _)).trans (srRetransmitData_inOrder P _)

theorem srCloseConnection_inOrder (con : Connection) (reason : RastaDisconnectReason)
    (details : UInt16) : SendsInOrder con (srCloseConnection P con reason details) := by
  have hreset : SendsInOrder con (srResetConnection con) := sendsInOrder_of_eq rfl rfl
  unfold srCloseConnection
  split
  · exact hreset
  · exact (hreset.trans (sendDisconnectionRequest_inOrder P _ reason details)).trans
      (sendsInOrder_of_eq rfl rfl)

theorem armRekeying_snT (con : Connection) : (armRekeying con).snT = con.snT := by
  unfold armRekeying
  split <;> rfl

/-- A PDU built with the number `sn_t` is sent and `sn_t` counted up. -/
theorem sendNext_inOrder (con : Connection) {data : RastaPacket}
    (hnumber : data.sequenceNumber = con.snT) :
    SendsInOrder con (incrementSnT (redundancyMuxSend P con data)) :=
  sendsInOrder_of_append _ rfl hnumber rfl

theorem Counted.inOrder {con base : Connection} (h : Counted con base) : SendsInOrder con base :=
  sendsInOrder_of_eq h.sent h.snT

theorem sendKexRequest_inOrder (con : Connection) : SendsInOrder con (sendKexRequest P con) := by
  obtain habort | ⟨base, request, hbase, -, -, hnumber, hsend⟩ := sendKexRequest_cases P con
  · rw [habort]
    exact sendsInOrder_of_eq rfl rfl
  · have harmedSnT : (armRekeying base).snT = con.snT := (armRekeying_snT base).trans hbase.snT
    have harmed : SendsInOrder con (armRekeying base) :=
      sendsInOrder_of_eq ((armRekeying_sent base).trans hbase.sent) harmedSnT
    rw [hsend]
    exact (harmed.trans (sendNext_inOrder P _ (hnumber.trans harmedSnT.symm))).trans
      (sendsInOrder_of_eq rfl rfl)

theorem sendMessages_inOrder (messages : List Bytes) (con : Connection) :
    SendsInOrder con (sendMessages P messages con).1 := by
  induction messages generalizing con with
  | nil => exact sendsInOrder_of_eq rfl rfl
  | cons message rest ih =>
    unfold sendMessages
    generalize hflushed : (if fifoFull con.fifoSend then dataSendEvent P con else con) = flushed
    have hflush : SendsInOrder con flushed := by
      rw [← hflushed]
      split
      · exact dataSendEvent_inOrder P con
      · exact sendsInOrder_of_eq rfl rfl
    simp only
    split
    · have hpush : SendsInOrder flushed
          (enableSendEvent
            { flushed with fifoSend := (fifoPush flushed.fifoSend message).2 }) :=
        sendsInOrder_of_eq rfl rfl
      exact (hflush.trans hpush).trans (ih _)
    · exact hflush

end Sending

section Steps

variable (P : Platform) {con after : Connection} {packet : RastaPacket}

theorem rejectStartHb_inOrder (con : Connection) (packet : RastaPacket) :
    SendsInOrder con (rejectStartHb P con packet) :=
  rejectStartHb_related P (fun _ => sendsInOrder_of_eq rfl rfl)
    (fun _ _ _ hab hbc => hab.trans hbc) (fun c reason => srCloseConnection_inOrder P c reason 0) con
    packet

theorem establishByHb_snT (con : Connection) (packet : RastaPacket) :
    (establishByHb con packet).snT = con.snT := rfl

theorem acceptHb_inOrder (con : Connection) (packet : RastaPacket) :
    SendsInOrder con (acceptHb P con packet) := by
  have hupdated : SendsInOrder con
      (updateConfirmedAttrs (updateConnectionAttrs (srDiagnosticUpdate P
        (srUpdateTimeoutInterval P con packet.confirmedTimestamp) packet) packet) packet) :=
    sendsInOrder_of_eq rfl rfl
  have hremoved := hupdated.trans (srRemoveConfirmedMessages_inOrder P _)
  unfold acceptHb
  simp only
  split
  · exact hremoved.trans (sendsInOrder_of_eq rfl rfl)
  · exact hremoved

theorem superviseConnection_snT (con : Connection) (packet : RastaPacket) :
    (superviseConnection P con packet).snT = con.snT := by
  unfold superviseConnection
  split <;> rfl

theorem acceptConresp_inOrder (con : Connection) (packet : RastaPacket) :
    SendsInOrder con (acceptConresp P con packet) := by
  have hupdated : SendsInOrder con
      (setState (setCsR (updateConnectionAttrs con packet) packet) .up) :=
    sendsInOrder_of_eq rfl rfl
  have hanswer : SendsInOrder con (answerConresp P con packet) :=
    hupdated.trans (sendHeartbeat_inOrder P _ true)
  have hstarted : SendsInOrder (answerConresp P con packet)
      (startKeyExchange P (answerConresp P con packet)) := by
    unfold startKeyExchange
    split
    · exact sendKexRequest_inOrder P _
    · exact sendsInOrder_of_eq rfl rfl
  exact (hanswer.trans hstarted).trans
    (sendsInOrder_of_eq (superviseConnection_sent P _ packet) (superviseConnection_snT P _ packet))

theorem handleRetrreq_inOrder (con : Connection) (packet : RastaPacket) :
    SendsInOrder con (handleRetrreq P con packet).1 := by
  unfold handleRetrreq
  split
  · generalize hclosed : (if con.currentState = .retrRun then
      srCloseConnection P con .retrFailed 0 else con) = closed
    have hclose : SendsInOrder con closed := by
      rw [← hclosed]
      split
      · exact srCloseConnection_inOrder P con _ 0
      · exact sendsInOrder_of_eq rfl rfl
    have hupdated : SendsInOrder closed (setCsR (updateConnectionAttrs closed packet) packet) :=
      sendsInOrder_of_eq rfl rfl
    exact (hclose.trans hupdated).trans (answerRetrreq_inOrder P _)
  · have hset : SendsInOrder con (setCsR con packet) := sendsInOrder_of_eq rfl rfl
    exact (hset.trans (answerRetrreq_inOrder P _)).trans (sendsInOrder_of_eq rfl rfl)

theorem answerKex_inOrder {base : Connection} (hbase : Counted con base) {response : RastaPacket}
    (hnumber : response.sequenceNumber = con.snT) (state : RastaSrState) :
    SendsInOrder con (setSessionKey (setState (srRemoveConfirmedMessages P
      (updateKexAttrs (incrementSnT (redundancyMuxSend P base response)) packet)) state)) := by
  have hresponse : SendsInOrder con (incrementSnT (redundancyMuxSend P base response)) :=
    hbase.inOrder.trans (sendNext_inOrder P base (hnumber.trans hbase.snT.symm))
  have hupdated : SendsInOrder (incrementSnT (redundancyMuxSend P base response))
      (updateKexAttrs (incrementSnT (redundancyMuxSend P base response)) packet) :=
    sendsInOrder_of_eq rfl rfl
  exact ((hresponse.trans hupdated).trans (srRemoveConfirmedMessages_inOrder P _)).trans
    (sendsInOrder_of_eq rfl rfl)

/-- A packet that does not start a session leaves the numbering in order, or the connection is
closed and nothing was sent. -/
theorem Received.inOrder (hreceived : Received P con packet after)
    (hstart : ¬ ConreqAccepted P con packet) :
    SendsInOrder con after ∨ after.currentState = .closed ∧ after.sent = con.sent := by
  cases hreceived with
  | ignored hbase => exact .inl hbase.inOrder
  | closed hbase reason => exact .inl (hbase.inOrder.trans (srCloseConnection_inOrder P _ _ 0))
  | discReq hbase => exact .inr ⟨rfl, hbase.sent⟩
  | @data base hbase =>
    have hadded := srAddAppMessagesToBuffer_frame P base packet
    have hupdated : SendsInOrder con
        (updateConfirmedAttrs (updateConnectionAttrs (srAddAppMessagesToBuffer P base packet)
          packet) packet) := by
      exact sendsInOrder_of_eq (hadded.sent.trans hbase.sent) (hadded.snT.trans hbase.snT)
    exact .inl (hupdated.trans (srRemoveConfirmedMessages_inOrder P _))
  | dataDropped hbase => exact .inl (hbase.inOrder.trans (sendsInOrder_of_eq rfl rfl))
  | retransmissionRequested hbase =>
    exact .inl ((hbase.inOrder.trans (sendRetransmissionRequest_inOrder P _)).trans
      (sendsInOrder_of_eq rfl rfl))
  | heartbeatGap hbase => exact .inl (hbase.inOrder.trans (sendsInOrder_of_eq rfl rfl))
  | retrReqInSeq hbase => exact .inl (hbase.inOrder.trans (handleRetrreq_inOrder P _ packet))
  | @retrReqOutOfSeq base hbase =>
    have hset : SendsInOrder base (setCsR base packet) := sendsInOrder_of_eq rfl rfl
    exact .inl (((hbase.inOrder.trans hset).trans (answerRetrreq_inOrder P _)).trans
      (sendsInOrder_of_eq rfl rfl))
  | retrResp hbase => exact .inl (hbase.inOrder.trans (sendsInOrder_of_eq rfl rfl))
  | @retrData base hbase =>
    have hadded := srAddAppMessagesToBuffer_frame P base packet
    exact .inl (hbase.inOrder.trans (sendsInOrder_of_eq hadded.sent hadded.snT))
  | heartbeatStart hbase =>
    exact .inl ((hbase.inOrder.trans (rejectStartHb_inOrder P _ packet)).trans
      (sendsInOrder_of_eq (establishByHb_sent _ packet) (establishByHb_snT _ packet)))
  | heartbeatLate hbase =>
    exact .inl ((hbase.inOrder.trans (rejectStartHb_inOrder P _ packet)).trans
      (srCloseConnection_inOrder P _ _ 0))
  | heartbeat hbase => exact .inl (hbase.inOrder.trans (acceptHb_inOrder P _ packet))
  | conreqRefused _ _ reason =>
    -- `sn_t` was set for a session that does not come about
    right
    have hdown := prepareServer_state P con
    have hsent := prepareServer_sent P con
    generalize prepareServer P con = prepared at hdown hsent ⊢
    unfold srCloseConnection
    rw [if_pos (.inl hdown)]
    exact ⟨rfl, hsent⟩
  | conreqAccepted haccepted => exact absurd haccepted hstart
  | conrespAccepted => exact .inl (acceptConresp_inOrder P con packet)
  | aborted hbase => exact .inl (hbase.inOrder.trans (sendsInOrder_of_eq rfl rfl))
  | kexRequest hbase _ _ _ _ response _ _ hnumber =>
    exact .inl (answerKex_inOrder P hbase hnumber .kexAuth)
  | kexResponse hbase _ _ _ _ response _ _ hnumber =>
    exact .inl (answerKex_inOrder P hbase hnumber .up)
  | @kexAuth base hbase =>
    have hupdated : SendsInOrder base (updateKexAttrs base packet) := sendsInOrder_of_eq rfl rfl
    exact .inl (((hbase.inOrder.trans hupdated).trans
      (srRemoveConfirmedMessages_inOrder P _)).trans (sendsInOrder_of_eq rfl rfl))

theorem srSend_inOrder (con : Connection) (appMessages : List Bytes) :
    SendsInOrder con (srSend P con appMessages).1 := by
  have hrefused : SendsInOrder con
      (setState (sendDisconnectionRequest P con .serviceNotAllowed 0) .closed) :=
    (sendDisconnectionRequest_inOrder P con _ 0).trans (sendsInOrder_of_eq rfl rfl)
  unfold srSend
  cases con.currentState with
  | up =>
    simp only
    split
    · exact sendsInOrder_of_eq rfl rfl
    · exact sendMessages_inOrder P appMessages con
  | closed => exact sendsInOrder_of_eq rfl rfl
  | down => exact sendsInOrder_of_eq rfl rfl
  | _ => exact hrefused

theorem eventConnectionExpired_inOrder (con : Connection) :
    SendsInOrder con (eventConnectionExpired P con) := by
  unfold eventConnectionExpired
  split
  · exact sendsInOrder_of_eq rfl rfl
  · split
    · exact (srCloseConnection_inOrder P con .timeout 0).trans (sendsInOrder_of_eq rfl rfl)
    · exact sendsInOrder_of_eq rfl rfl

theorem sendTimedKeyExchange_inOrder (con : Connection) :
    SendsInOrder con (sendTimedKeyExchange P con) := by
  unfold sendTimedKeyExchange
  split
  · refine (sendKexRequest_inOrder P con).trans ?_
    unfold rescheduleRekeying
    split
    · exact sendsInOrder_of_eq rfl rfl
    · exact sendsInOrder_of_eq rfl rfl
  · exact sendsInOrder_of_eq rfl rfl

/-- Every step that does not start a session leaves the numbering in order, or the connection
is closed and nothing was sent. -/
theorem endpointStep_inOrder (con : Connection) (event : Event)
    (hstart : ¬ StartsSession P con event) :
    SendsInOrder con (endpointStep P con event) ∨
      (endpointStep P con event).currentState = .closed ∧
        (endpointStep P con event).sent = con.sent := by
  unfold endpointStep
  split
  · exact .inl (sendsInOrder_of_eq rfl rfl)
  cases event with
  | receive packet => exact (srReceive_received P con packet).inOrder P hstart
  | dataSend =>
    simp only
    split
    · exact .inl (dataSendEvent_inOrder P con)
    · exact .inl (sendsInOrder_of_eq rfl rfl)
  | heartbeat =>
    simp only
    split
    · unfold heartbeatSendEvent
      split
      · exact .inl (sendsInOrder_of_eq rfl rfl)
      · split
        · exact .inl (sendHeartbeat_inOrder P con false)
        · exact .inl (sendsInOrder_of_eq rfl rfl)
    · exact .inl (sendsInOrder_of_eq rfl rfl)
  | connectionExpired =>
    simp only
    split
    · exact .inl (eventConnectionExpired_inOrder P con)
    · exact .inl (sendsInOrder_of_eq rfl rfl)
  | timedKeyExchange =>
    simp only
    split
    · exact .inl (sendTimedKeyExchange_inOrder P con)
    · exact .inl (sendsInOrder_of_eq rfl rfl)
  | send appMessages => exact .inl (srSend_inOrder P con appMessages)
  | connect transportOk =>
    simp only [srConnect]
    split
    · rename_i hconnectable
      split
      · rename_i hok
        exact absurd ⟨hok, hconnectable⟩ hstart
      · exact .inl (sendsInOrder_of_eq rfl rfl)
    · exact .inl (sendsInOrder_of_eq rfl rfl)
  | connectReturn => exact .inl (sendsInOrder_of_eq rfl rfl)
  | disconnect =>
    exact .inl ((srCloseConnection_inOrder P con .userRequest 0).trans
      (sendsInOrder_of_eq rfl rfl))
  | transportClosed => exact .inl (sendsInOrder_of_eq rfl rfl)
  | recv =>
    simp only [rastaRecv]
    split
    · exact .inl (sendsInOrder_of_eq rfl rfl)
    · exact .inl (sendsInOrder_of_eq rfl rfl)
  | accept => exact .inl (sendsInOrder_of_eq rfl rfl)
  | acceptReturn => exact .inl (sendsInOrder_of_eq rfl rfl)

/-- The session a step belongs to goes on: the connection is not closed before the step, and
the step does not start a session anew. -/
def SessionGoesOn (con : Connection) (event : Event) : Prop :=
  con.currentState ≠ .closed ∧ ¬ StartsSession P con event

instance (con : Connection) (event : Event) : Decidable (SessionGoesOn P con event) :=
  inferInstanceAs (Decidable (_ ∧ _))

theorem run_numberedFrom (con : Connection) (events : List Event)
    (hopen : RunOk (endpointStep P) (SessionGoesOn P) con events) :
    ∃ pdus, (run (endpointStep P) con events).sent = con.sent ++ pdus ∧
      NumberedFrom con.snT pdus := by
  induction events generalizing con with
  | nil => exact ⟨[], by simp, trivial⟩
  | cons event rest ih =>
    obtain ⟨⟨-, hstart⟩, hrest⟩ := (runOk_cons (endpointStep P)).mp hopen
    obtain ⟨later, hlater, hlaterNumbers⟩ := ih _ hrest
    rw [run_cons]
    rcases endpointStep_inOrder P con event hstart with
      ⟨pdus, hsent, hnumbers, hsnT⟩ | ⟨hclosed, hsent⟩
    · refine ⟨pdus ++ later, by rw [hlater, hsent, List.append_assoc], ?_⟩
      refine numberedFrom_append hnumbers ?_
      intro hall
      rw [← hsnT hall]
      exact hlaterNumbers
    · -- the session is over, so this was the last step
      cases rest with
      | nil => exact ⟨[], by simpa using hsent, trivial⟩
      | cons next rest =>
        obtain ⟨⟨hopen, -⟩, -⟩ := (runOk_cons (endpointStep P)).mp hrest
        exact absurd hclosed hopen

theorem acceptConreq_first (con : Connection) (packet : RastaPacket) :
    ∃ first : SentPdu, (acceptConreq P con packet).sent = con.sent ++ [first] ∧
      first.packet.sequenceNumber = con.snT ∧ first.packet.type = .connResp ∧
      (acceptConreq P con packet).snT = con.snT + 1 := by
  unfold acceptConreq
  dsimp only [redundancyMuxSend, setState, incrementSnT, tick]
  exact ⟨_, rfl, rfl, rfl, rfl⟩

theorem openSession_first (con : Connection) :
    ∃ first : SentPdu, (openSession P con).sent = con.sent ++ [first] ∧
      first.packet.sequenceNumber = con.config.initialSequenceNumber ∧
      first.packet.type = .connReq ∧
      (openSession P con).snT = con.config.initialSequenceNumber + 1 := by
  unfold openSession srInitConnection
  cases P.enableOpaque
  · exact ⟨_, rfl, rfl, rfl, rfl⟩
  · exact ⟨_, rfl, rfl, rfl, rfl⟩

theorem prepareServer_snT (con : Connection) :
    (prepareServer P con).snT = con.config.initialSequenceNumber := by
  unfold prepareServer srInitConnection
  cases P.enableOpaque <;> rfl

theorem handleConreq_of_accepted (h : ConreqAccepted P con packet) :
    handleConreq P con packet = acceptConreq P (prepareServer P con) packet := by
  obtain ⟨-, hstate, hcheck, hversion⟩ := h
  unfold handleConreq
  rw [if_pos hstate]
  simp only [prepareServer_config, hcheck, hversion, if_true]

/-- The first PDU of a session carries the initial sequence number. -/
theorem startsSession_first (con : Connection) (event : Event) (hrunning : con.aborted = false)
    (hstart : StartsSession P con event) :
    ∃ first : SentPdu, (endpointStep P con event).sent = con.sent ++ [first] ∧
      first.packet.sequenceNumber = con.config.initialSequenceNumber ∧
      first.packet.type ≠ .discReq ∧
      (endpointStep P con event).snT = con.config.initialSequenceNumber + 1 := by
  unfold endpointStep
  rw [hrunning, if_neg Bool.false_ne_true]
  cases event with
  | connect transportOk =>
    obtain ⟨rfl, hconnectable⟩ := hstart
    obtain ⟨first, hsent, hnumber, htype, hsnT⟩ := openSession_first P { con with seqTx := 0 }
    simp only [srConnect, if_pos hconnectable, if_true]
    exact ⟨first, hsent, hnumber, by rw [htype]; simp, hsnT⟩
  | receive packet =>
    have haccepted : ConreqAccepted P con packet := hstart
    obtain ⟨first, hsent, hnumber, htype, hsnT⟩ :=
      acceptConreq_first P (prepareServer P con) packet
    rw [prepareServer_snT] at hnumber hsnT
    rw [prepareServer_sent] at hsent
    simp only [srReceive, if_pos haccepted.1, handleConreq_of_accepted P haccepted]
    exact ⟨first, hsent, hnumber, by rw [htype]; simp, hsnT⟩
  | _ => exact hstart.elim

end Steps

end LibRasta.Retransmission
