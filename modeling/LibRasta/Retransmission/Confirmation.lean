/-
Module: LibRasta/Retransmission/Confirmation.lean
source: src/c/retransmission/messages.c, src/c/retransmission/handlers.c, src/c/experimental/handlers.c, src/c/transport/events.c
digest: What the PDUs of an endpoint confirm: every sending site stamps the attributes of the last packet accepted from the peer, except the connection response.
-/

import LibRasta.Retransmission.Conveyance
import LibRasta.Retransmission.Handshake
import LibRasta.Retransmission.Numbering

set_option autoImplicit false
set_option relaxedAutoImplicit false

namespace LibRasta.Retransmission

open LibRasta.Lib
open LibRasta.Util
open LibRasta.Factory

/-- The PDU confirms the sequence number and the timestamp. -/
def Confirms (number timestamp : UInt32) (pdu : SentPdu) : Prop :=
  pdu.packet.confirmedSequenceNumber = number ∧ pdu.packet.confirmedTimestamp = timestamp

instance (number timestamp : UInt32) (pdu : SentPdu) : Decidable (Confirms number timestamp pdu) :=
  inferInstanceAs (Decidable (_ ∧ _))

/-- Between two states PDUs were sent that all confirm the same, `sn_t` was counted up for each
of them that uses a number, and no handshake began. -/
structure SendsConfirming (number timestamp : UInt32) (before after : Connection) : Prop where
  output : ∃ out, after.sent = before.sent ++ out ∧ (∀ pdu ∈ out, Confirms number timestamp pdu) ∧
    after.snT = before.snT + UInt32.ofNat (numbersUsed out)
  role : after.role = before.role
  start : after.currentState = .start → before.currentState = .start

/-- The endpoint sends on what it knows of the peer and learns nothing. -/
structure Repeats (before after : Connection) : Prop where
  sends : SendsConfirming before.csT before.tsR before after
  snR : after.snR = before.snR
  csT : after.csT = before.csT
  tsR : after.tsR = before.tsR

/-- The endpoint accepts the attributes of a packet and sends on them. -/
structure Absorbs (packet : RastaPacket) (before after : Connection) : Prop where
  sends : SendsConfirming packet.sequenceNumber packet.timestamp before after
  snR : after.snR = packet.sequenceNumber + 1
  csT : after.csT = packet.sequenceNumber
  tsR : after.tsR = packet.timestamp

section Composition

variable {number timestamp : UInt32} {packet : RastaPacket} {a b c before after : Connection}

theorem SendsConfirming.trans (hab : SendsConfirming number timestamp a b)
    (hbc : SendsConfirming number timestamp b c) : SendsConfirming number timestamp a c := by
  obtain ⟨first, hfirst, hfirstAll, hfirstSnT⟩ := hab.output
  obtain ⟨second, hsecond, hsecondAll, hsecondSnT⟩ := hbc.output
  refine ⟨⟨first ++ second, ?_, ?_, ?_⟩, hbc.role.trans hab.role, fun h => hab.start (hbc.start h)⟩
  · rw [hsecond, hfirst, List.append_assoc]
  · intro pdu hmem
    rcases List.mem_append.mp hmem with hmem | hmem
    · exact hfirstAll pdu hmem
    · exact hsecondAll pdu hmem
  · rw [hsecondSnT, hfirstSnT, numbersUsed_append, UInt32.ofNat_add, UInt32.add_assoc]

theorem sendsConfirming_of_eq (number timestamp : UInt32) (hsent : after.sent = before.sent)
    (hsnT : after.snT = before.snT) (hrole : after.role = before.role)
    (hstart : after.currentState = .start → before.currentState = .start) :
    SendsConfirming number timestamp before after :=
  ⟨⟨[], by simpa using hsent, by simp, by simpa [numbersUsed] using hsnT⟩, hrole, hstart⟩

theorem Repeats.trans (hab : Repeats a b) (hbc : Repeats b c) : Repeats a c := by
  have hsends := hbc.sends
  rw [hab.csT, hab.tsR] at hsends
  exact ⟨hab.sends.trans hsends, hbc.snR.trans hab.snR, hbc.csT.trans hab.csT,
    hbc.tsR.trans hab.tsR⟩

theorem repeats_of_eq (hsent : after.sent = before.sent) (hsnT : after.snT = before.snT)
    (hrole : after.role = before.role)
    (hstart : after.currentState = .start → before.currentState = .start)
    (hsnR : after.snR = before.snR) (hcsT : after.csT = before.csT)
    (htsR : after.tsR = before.tsR) : Repeats before after :=
  ⟨sendsConfirming_of_eq _ _ hsent hsnT hrole hstart, hsnR, hcsT, htsR⟩

theorem Repeats.refl (con : Connection) : Repeats con con :=
  repeats_of_eq rfl rfl rfl id rfl rfl rfl

theorem Absorbs.trans (hab : Absorbs packet a b) (hbc : Repeats b c) : Absorbs packet a c := by
  have hsends := hbc.sends
  rw [hab.csT, hab.tsR] at hsends
  exact ⟨hab.sends.trans hsends, hbc.snR.trans hab.snR, hbc.csT.trans hab.csT,
    hbc.tsR.trans hab.tsR⟩

/-- Sending keeps everything but the log and `sn_t`. -/
theorem SendFrame.repeats (h : SendFrame before after) {out : List SentPdu}
    (hsent : after.sent = before.sent ++ out)
    (hout : ∀ pdu ∈ out, Confirms before.csT before.tsR pdu)
    (hsnT : after.snT = before.snT + UInt32.ofNat (numbersUsed out)) : Repeats before after :=
  ⟨⟨⟨out, hsent, hout, hsnT⟩, h.role, fun hstart => h.currentState ▸ hstart⟩, h.snR, h.csT, h.tsR⟩

/-- One numbered PDU that confirms what the connection holds. -/
theorem SendFrame.repeats_numbered (h : SendFrame before after) (pdu : SentPdu)
    (hsent : after.sent = before.sent ++ [pdu]) (hpdu : Confirms before.csT before.tsR pdu)
    (htype : pdu.packet.type ≠ .discReq) (hsnT : after.snT = before.snT + 1) :
    Repeats before after := by
  refine h.repeats hsent ?_ ?_
  · intro other hmem
    rw [List.mem_singleton.mp hmem]
    exact hpdu
  · have hused : numbersUsed [pdu] = 1 := by simp [numbersUsed, htype]
    rw [hused]
    exact hsnT

theorem setState_repeats (con : Connection) {state : RastaSrState} (hstate : state ≠ .start) :
    Repeats con (setState con state) :=
  repeats_of_eq rfl rfl rfl (fun h => absurd h hstate) rfl rfl rfl

theorem setCsR_repeats (con : Connection) (packet : RastaPacket) : Repeats con (setCsR con packet) :=
  repeats_of_eq rfl rfl rfl id rfl rfl rfl

theorem updateConnectionAttrs_absorbs (con : Connection) (packet : RastaPacket) :
    Absorbs packet con (updateConnectionAttrs con packet) :=
  ⟨sendsConfirming_of_eq _ _ rfl rfl rfl id, rfl, rfl, rfl⟩

theorem updateKexAttrs_absorbs (con : Connection) (packet : RastaPacket) :
    Absorbs packet con (updateKexAttrs con packet) :=
  ⟨sendsConfirming_of_eq _ _ rfl rfl rfl id, rfl, rfl, rfl⟩

theorem Counted.repeats (h : Counted before after) : Repeats before after := by
  obtain ⟨_, _, _, _, rfl⟩ := h
  exact repeats_of_eq rfl rfl rfl id rfl rfl rfl

/-- What happened before the packet was accepted does not matter to what is sent after. -/
theorem DeliveryFrame.repeats (h : DeliveryFrame before after) : Repeats before after := by
  rw [h.rest]
  exact repeats_of_eq rfl rfl rfl id rfl rfl rfl

end Composition

section Sending

variable (P : Platform)

theorem sendDisconnectionRequest_repeats (con : Connection) (reason : RastaDisconnectReason)
    (details : UInt16) : Repeats con (sendDisconnectionRequest P con reason details) := by
  refine (sendDisconnectionRequest_frame P con reason details).repeats rfl ?_ ?_
  · intro pdu hmem
    rw [List.mem_singleton.mp hmem]
    exact ⟨rfl, rfl⟩
  · exact (UInt32.add_zero con.snT).symm

theorem sendHeartbeat_repeats (con : Connection) (rescheduleManually : Bool) :
    Repeats con (sendHeartbeat P con rescheduleManually) := by
  cases rescheduleManually with
  | false =>
    exact (sendHeartbeat_frame P con false).repeats_numbered _ rfl ⟨rfl, rfl⟩ nofun rfl
  | true =>
    exact (sendHeartbeat_frame P con true).repeats_numbered _ rfl ⟨rfl, rfl⟩ nofun rfl

theorem sendRetransmissionRequest_repeats (con : Connection) :
    Repeats con (sendRetransmissionRequest P con) :=
  (sendRetransmissionRequest_frame P con).repeats_numbered _ rfl ⟨rfl, rfl⟩ nofun rfl

theorem sendRetransmissionResponse_repeats (con : Connection) :
    Repeats con (sendRetransmissionResponse P con) :=
  (sendRetransmissionResponse_frame P con).repeats_numbered _ rfl ⟨rfl, rfl⟩ nofun rfl

theorem dataSendEvent_repeats (con : Connection) : Repeats con (dataSendEvent P con) := by
  have hqueued : Repeats con (sendQueued P con) := by
    unfold sendQueued
    split
    · exact (sendBatch_frame P con _).repeats_numbered _ rfl ⟨rfl, rfl⟩ nofun rfl
    · exact .refl con
  refine hqueued.trans ?_
  unfold dataSendEvent stopIdleSending
  split
  · exact repeats_of_eq rfl rfl rfl id rfl rfl rfl
  · exact .refl _

theorem srRemoveConfirmedMessages_repeats (con : Connection) :
    Repeats con (srRemoveConfirmedMessages P con) := by
  have hpop : Repeats con (popConfirmed P con) := repeats_of_eq rfl rfl rfl id rfl rfl rfl
  unfold srRemoveConfirmedMessages
  split
  · exact hpop.trans (dataSendEvent_repeats P _)
  · exact hpop

theorem retransmitPackets_repeats (packets : List Bytes) (con : Connection) :
    Repeats con (packets.foldl (retransmitPacket P) con) := by
  induction packets generalizing con with
  | nil => exact .refl con
  | cons element rest ih =>
    have hfirst : Repeats con (retransmitPacket P con element) :=
      (retransmitPacket_frame P con element).repeats_numbered _ rfl ⟨rfl, rfl⟩ nofun rfl
    exact hfirst.trans (ih _)

theorem srRetransmitData_repeats (con : Connection) : Repeats con (srRetransmitData P con) := by
  have hpop : Repeats con (setQueues con con.fifoSend
      (fifoPopMany con.fifoRetransmission con.fifoRetransmission.items.length) con.lasterror) :=
    repeats_of_eq rfl rfl rfl id rfl rfl rfl
  rw [srRetransmitData_eq]
  exact (hpop.trans (retransmitPackets_repeats P _ _)).trans (sendHeartbeat_repeats P _ true)

theorem answerRetrreq_repeats (con : Connection) : Repeats con (answerRetrreq P con) :=
  ((srRemoveConfirmedMessages_repeats P con).trans
    (sendRetransmissionResponse_repeats P _)).trans (srRetransmitData_repeats P _)

theorem srResetConnection_repeats (con : Connection) : Repeats con (srResetConnection con) :=
  repeats_of_eq rfl rfl rfl nofun rfl rfl rfl

theorem srCloseConnection_repeats (con : Connection) (reason : RastaDisconnectReason)
    (details : UInt16) : Repeats con (srCloseConnection P con reason details) := by
  unfold srCloseConnection
  split
  · exact srResetConnection_repeats con
  · exact ((srResetConnection_repeats con).trans
      (sendDisconnectionRequest_repeats P _ reason details)).trans (setState_repeats _ nofun)

theorem rejectStartHb_repeats (con : Connection) (packet : RastaPacket) :
    Repeats con (rejectStartHb P con packet) :=
  rejectStartHb_related P Repeats.refl (fun _ _ _ hab hbc => hab.trans hbc)
    (fun c reason => srCloseConnection_repeats P c reason 0) con packet

/-- A numbered PDU that was built beforehand. -/
theorem sendNext_confirming (con : Connection) (data : RastaPacket) (htype : data.type ≠ .discReq) :
    SendsConfirming data.confirmedSequenceNumber data.confirmedTimestamp con
      (incrementSnT (redundancyMuxSend P con data)) := by
  refine ⟨⟨[_], rfl, ?_, ?_⟩, rfl, id⟩
  · intro pdu hmem
    rw [List.mem_singleton.mp hmem]
    exact ⟨rfl, rfl⟩
  · simp only [numbersUsed, htype, ne_eq, not_false_eq_true, decide_true, List.filter_cons_of_pos,
      List.filter_nil, List.length_singleton]
    rfl

theorem armRekeying_repeats (con : Connection) : Repeats con (armRekeying con) := by
  unfold armRekeying
  split
  · exact repeats_of_eq rfl rfl rfl id rfl rfl rfl
  · exact repeats_of_eq rfl rfl rfl id rfl rfl rfl

theorem stampKeyExchange_repeats (con : Connection) : Repeats con (stampKeyExchange con) :=
  repeats_of_eq rfl rfl rfl id rfl rfl rfl

theorem createKexRequest_header {con after : Connection} {request : RastaPacket}
    (h : createKexRequest P con = some (request, after)) :
    Counted con after ∧ request.type = .kexRequest ∧
      request.confirmedSequenceNumber = con.csT ∧ request.confirmedTimestamp = con.tsR := by
  unfold createKexRequest at h
  simp only at h
  split at h
  · cases h
  · obtain ⟨rfl, rfl⟩ := Prod.mk.inj (Option.some.inj h)
    exact ⟨⟨_, _, _, _, rfl⟩, rfl, rfl, rfl⟩

theorem sendKexRequest_repeats (con : Connection) : Repeats con (sendKexRequest P con) := by
  unfold sendKexRequest
  split
  swap
  · exact repeats_of_eq rfl rfl rfl id rfl rfl rfl
  cases hcreated : createKexRequest P con with
  | none => exact repeats_of_eq rfl rfl rfl id rfl rfl rfl
  | some created =>
    obtain ⟨request, after⟩ := created
    obtain ⟨hcounted, htype, hnumber, htimestamp⟩ := createKexRequest_header P hcreated
    have harmed : Repeats con (armRekeying (tick after)) :=
      (hcounted.trans ⟨_, _, _, _, rfl⟩).repeats.trans (armRekeying_repeats _)
    dsimp only
    generalize armRekeying (tick after) = armed at harmed ⊢
    have hsend : Repeats armed (incrementSnT (redundancyMuxSend P armed request)) := by
      have hsends := sendNext_confirming P armed request (by rw [htype]; nofun)
      rw [hnumber, htimestamp, ← harmed.csT, ← harmed.tsR] at hsends
      exact ⟨hsends, rfl, rfl, rfl⟩
    exact ((harmed.trans hsend).trans (stampKeyExchange_repeats _)).trans
      (setState_repeats _ nofun)

theorem sendMessages_repeats (messages : List Bytes) (con : Connection) :
    Repeats con (sendMessages P messages con).1 := by
  induction messages generalizing con with
  | nil => exact .refl con
  | cons message rest ih =>
    unfold sendMessages
    generalize hflushed : (if fifoFull con.fifoSend then dataSendEvent P con else con) = flushed
    have hflush : Repeats con flushed := by
      rw [← hflushed]
      split
      · exact dataSendEvent_repeats P con
      · exact .refl con
    simp only
    split
    · have hpush : Repeats flushed
          (enableSendEvent
            { flushed with fifoSend := (fifoPush flushed.fifoSend message).2 }) :=
        repeats_of_eq rfl rfl rfl id rfl rfl rfl
      exact (hflush.trans hpush).trans (ih _)
    · exact hflush

end Sending

section Acceptance

variable (P : Platform)

/-- The handler of the packet takes its attributes over. -/
def HandlerAccepts (con : Connection) (packet : RastaPacket) : Prop :=
  match packet.type with
  | .data => InSequence con packet ∧ (con.currentState = .up ∨ con.currentState = .retrRun)
  | .retrData => InSequence con packet ∧ con.currentState = .retrRun
  | .retrReq => srSnInSeq con packet = true
  | .retrResp => con.currentState = .retrReq
  | .hb =>
    srCtsInSeq con packet = true ∧
      (con.currentState = .start ∨ srSnInSeq con packet = true ∧
        (con.currentState = .up ∨ con.currentState = .retrRun ∨ con.currentState = .kexReq ∨
          con.currentState = .kexResp ∨ con.currentState = .kexAuth))
  | .kexRequest =>
    P.enableOpaque = true ∧ InSequence con packet ∧
      (con.currentState = .kexReq ∨ con.config.rekeyingIntervalMs ≠ 0 ∧ con.currentState = .up) ∧
      con.config.kexMode ≠ .none ∧ (createKexResponse P con packet).isSome = true
  | .kexResponse =>
    P.enableOpaque = true ∧ InSequence con packet ∧ con.currentState = .kexResp ∧
      con.config.kexMode ≠ .none ∧ (kexRecoverCredential P con packet.data).1 = 0
  | .kexAuthentication =>
    P.enableOpaque = true ∧ InSequence con packet ∧ con.currentState = .kexAuth ∧
      con.config.kexMode ≠ .none ∧ kexAuthenticateUser P con packet.data = 0
  | .connReq | .connResp | .discReq | .other _ _ => False

instance (con : Connection) (packet : RastaPacket) : Decidable (HandlerAccepts P con packet) := by
  unfold HandlerAccepts
  split <;> infer_instance

/-- `sr_receive` takes the attributes of the packet over. -/
def AcceptsAttributes (con : Connection) (packet : RastaPacket) : Prop :=
  ConreqAccepted P con packet ∨ ConrespAccepted P con packet ∨
    ReachesHandler P con packet ∧ HandlerAccepts P con packet

instance (con : Connection) (packet : RastaPacket) : Decidable (AcceptsAttributes P con packet) :=
  inferInstanceAs (Decidable (_ ∨ _))

/-- The connection when `sr_receive` comes to take the attributes of the packet over: a
disconnection request may have been sent before. -/
def acceptancePoint (con : Connection) (packet : RastaPacket) : Connection :=
  if packet.type = .hb ∧ con.currentState = .start then
    rejectStartHb P (srRekeyingSkipped P con).2 packet
  else if packet.type = .retrReq ∧ con.currentState = .retrRun then
    srCloseConnection P (srRekeyingSkipped P con).2 .retrFailed 0
  else con

/-- The packet reinitialises the connection, whether it is accepted or not. -/
def ConreqTaken (con : Connection) (packet : RastaPacket) : Prop :=
  packet.type = .connReq ∧ (con.currentState = .closed ∨ con.currentState = .down)

instance (con : Connection) (packet : RastaPacket) : Decidable (ConreqTaken con packet) :=
  inferInstanceAs (Decidable (_ ∧ _))

/-- The packet belongs to the key exchange. -/
def IsKexType (type : RastaConnType) : Prop :=
  type = .kexRequest ∨ type = .kexResponse ∨ type = .kexAuthentication

instance (type : RastaConnType) : Decidable (IsKexType type) :=
  inferInstanceAs (Decidable (_ ∨ _))

variable {P} {con after : Connection} {packet : RastaPacket}

/-- A packet whose attributes are not accepted is answered on what is known already. The key
exchange types are left to their handlers. -/
theorem Received.repeats (h : Received P con packet after)
    (hno : ReachesHandler P con packet → ¬ HandlerAccepts P con packet)
    (hconreq : ¬ ConreqTaken con packet) (hconresp : ¬ ConrespAccepted P con packet)
    (hkex : ReachesHandler P con packet → ¬ IsKexType packet.type) : Repeats con after := by
  cases h with
  | ignored hbase => exact hbase.repeats
  | closed hbase reason => exact hbase.repeats.trans (srCloseConnection_repeats P _ reason 0)
  | discReq hbase =>
    exact (hbase.repeats.trans (@setState_repeats _ .closed nofun)).trans
      (srResetConnection_repeats _)
  | data _ hreach htype hstate hseq =>
    refine absurd ?_ (hno hreach)
    simp [HandlerAccepts, htype, hstate, hseq]
  | dataDropped _ hreach htype hstate hseq =>
    refine absurd ?_ (hno hreach)
    simp [HandlerAccepts, htype, hstate, hseq]
  | retransmissionRequested hbase =>
    exact (hbase.repeats.trans (sendRetransmissionRequest_repeats P _)).trans
      (setState_repeats _ nofun)
  | heartbeatGap hbase => exact hbase.repeats.trans (setState_repeats _ nofun)
  | retrReqInSeq _ hreach htype hseq =>
    refine absurd ?_ (hno hreach)
    simp [HandlerAccepts, htype, hseq]
  | retrReqOutOfSeq hbase =>
    exact ((hbase.repeats.trans (setCsR_repeats _ packet)).trans
      (answerRetrreq_repeats P _)).trans (setState_repeats _ nofun)
  | retrResp _ hreach htype hstate =>
    refine absurd ?_ (hno hreach)
    simp [HandlerAccepts, htype, hstate]
  | retrData _ hreach htype hstate hseq =>
    refine absurd ?_ (hno hreach)
    simp [HandlerAccepts, htype, hstate, hseq]
  | heartbeatStart _ hreach htype hstate hcts =>
    refine absurd ?_ (hno hreach)
    simp [HandlerAccepts, htype, hstate, hcts]
  | heartbeatLate hbase =>
    exact (hbase.repeats.trans (rejectStartHb_repeats P _ packet)).trans
      (srCloseConnection_repeats P _ _ 0)
  | heartbeat _ hreach htype hstate hseq =>
    refine absurd ?_ (hno hreach)
    simp [HandlerAccepts, htype, hseq.1, hseq.2, hstate]
  | conreqRefused htype hstate => exact absurd ⟨htype, hstate⟩ hconreq
  | conreqAccepted haccepted => exact absurd ⟨haccepted.1, haccepted.2.1⟩ hconreq
  | conrespAccepted haccepted => exact absurd haccepted hconresp
  | aborted hbase => exact hbase.repeats.trans (repeats_of_eq rfl rfl rfl id rfl rfl rfl)
  | kexRequest _ hreach _ _ _ _ _ _ _ _ htype => exact absurd (.inl htype) (hkex hreach)
  | kexResponse _ hreach _ _ _ _ _ _ _ _ htype => exact absurd (.inr (.inl htype)) (hkex hreach)
  | kexAuth _ hreach _ _ _ htype => exact absurd (.inr (.inr htype)) (hkex hreach)

theorem kexPrepareCredentialResponse_isSome (con : Connection) (request : Bytes) :
    (kexPrepareCredentialResponse P con request).isSome =
      decide (request.length = P.libOpaque.userSessionPublicLen.toNat ∧
        (P.libOpaque.createCredentialResponse con.opaqueCalls request con.kexState.userRecord
          (hostToBe32 con.myId) (hostToBe32 con.remoteId) (hostToBe32 con.snI)).1 = 0) := by
  unfold kexPrepareCredentialResponse
  split
  · rename_i hlength
    simp [hlength]
  · rename_i hlength
    simp only [ne_eq, not_not] at hlength
    simp only [hlength, true_and]
    split
    · rename_i hresult
      simp [hresult]
    · rename_i hresult
      simp only [ne_eq, not_not] at hresult
      simp [hresult]

/-- Whether a key exchange request can be answered does not depend on the time. -/
theorem createKexResponse_isSome_clock (con : Connection) (packet : RastaPacket) (reads : ℕ)
    (millis : UInt64) :
    (createKexResponse P
      { con with
        clockReads := reads
        kexState := { con.kexState with lastKeyExchangedMillis := millis } } packet).isSome =
      (createKexResponse P con packet).isSome := by
  unfold createKexResponse
  simp only [Option.isSome_map]
  unfold prepareUserRecord
  cases con.config.pskRecord with
  | some record => simp only [Option.bind_some, kexPrepareCredentialResponse_isSome]
  | none =>
    simp only
    split
    · rfl
    · simp only [Option.bind_some, kexPrepareCredentialResponse_isSome]

theorem handlerAccepts_reads (con : Connection) (packet : RastaPacket) (reads : ℕ) :
    HandlerAccepts P { con with clockReads := reads } packet ↔ HandlerAccepts P con packet := by
  have hcreated := @createKexResponse_isSome_clock P con packet reads
    con.kexState.lastKeyExchangedMillis
  have hrecovered : (kexRecoverCredential P { con with clockReads := reads } packet.data).1 =
      (kexRecoverCredential P con packet.data).1 := by
    unfold kexRecoverCredential
    split
    · rfl
    · rfl
  unfold HandlerAccepts
  cases packet.type with
  | kexRequest =>
    simp only
    rw [hcreated]
    rfl
  | kexResponse =>
    simp only
    rw [hrecovered]
    rfl
  | _ => rfl

/-- Nothing is sent while messages are delivered. -/
theorem DeliveryFrame.sendsConfirming {before after : Connection} (h : DeliveryFrame before after)
    (number timestamp : UInt32) : SendsConfirming number timestamp before after := by
  rw [h.rest]
  exact sendsConfirming_of_eq _ _ rfl rfl rfl id

theorem SendsConfirming.absorbs {a b c : Connection}
    (hab : SendsConfirming packet.sequenceNumber packet.timestamp a b)
    (hbc : Absorbs packet b c) : Absorbs packet a c :=
  ⟨hab.trans hbc.sends, hbc.snR, hbc.csT, hbc.tsR⟩

theorem updateConfirmedAttrs_repeats (con : Connection) (packet : RastaPacket) :
    Repeats con (updateConfirmedAttrs con packet) :=
  repeats_of_eq rfl rfl rfl id rfl rfl rfl

theorem handleData_absorbs (htype : packet.type = .data) (h : HandlerAccepts P con packet) :
    Absorbs packet con (handleData P con packet).1 := by
  simp only [HandlerAccepts, htype] at h
  obtain ⟨⟨hsn, hcts⟩, hstate | hstate⟩ := h
  · have hadded := srAddAppMessagesToBuffer_frame P con packet
    have hafter : (handleData P con packet).1 = acceptData P con packet := by
      simp [handleData, hsn, hcts, hstate]
    rw [hafter]
    exact ((hadded.sendsConfirming _ _).absorbs (updateConnectionAttrs_absorbs _ packet)).trans
      ((updateConfirmedAttrs_repeats _ packet).trans (srRemoveConfirmedMessages_repeats P _))
  · have hafter : (handleData P con packet).1 = updateConnectionAttrs con packet := by
      simp [handleData, hsn, hcts, hstate]
    rw [hafter]
    exact updateConnectionAttrs_absorbs con packet

theorem handleRetrdata_absorbs (htype : packet.type = .retrData)
    (h : HandlerAccepts P con packet) : Absorbs packet con (handleRetrdata P con packet).1 := by
  simp only [HandlerAccepts, htype] at h
  obtain ⟨⟨hsn, hcts⟩, hstate⟩ := h
  have hadded := srAddAppMessagesToBuffer_frame P con packet
  have hafter : (handleRetrdata P con packet).1 =
      setCsR (updateConnectionAttrs (srAddAppMessagesToBuffer P con packet) packet) packet := by
    simp [handleRetrdata, hsn, hcts, hstate]
  rw [hafter]
  exact ((hadded.sendsConfirming _ _).absorbs (updateConnectionAttrs_absorbs _ packet)).trans
    (setCsR_repeats _ packet)

theorem handleRetrresp_absorbs (htype : packet.type = .retrResp)
    (h : HandlerAccepts P con packet) : Absorbs packet con (handleRetrresp P con packet).1 := by
  simp only [HandlerAccepts, htype] at h
  have hafter : (handleRetrresp P con packet).1 =
      updateConfirmedAttrs (updateConnectionAttrs (setState con .retrRun) packet) packet := by
    simp [handleRetrresp, h]
  have hset : SendsConfirming packet.sequenceNumber packet.timestamp con (setState con .retrRun) :=
    sendsConfirming_of_eq _ _ rfl rfl rfl nofun
  rw [hafter]
  exact (hset.absorbs (updateConnectionAttrs_absorbs _ packet)).trans
    (updateConfirmedAttrs_repeats _ packet)

theorem handleRetrreq_absorbs (hsn : srSnInSeq con packet = true) :
    Absorbs packet
      (if con.currentState = .retrRun then srCloseConnection P con .retrFailed 0 else con)
      (handleRetrreq P con packet).1 := by
  have hafter : (handleRetrreq P con packet).1 =
      answerRetrreq P (setCsR (updateConnectionAttrs
        (if con.currentState = .retrRun then srCloseConnection P con .retrFailed 0 else con)
        packet) packet) := by
    simp [handleRetrreq, hsn]
  rw [hafter]
  exact (updateConnectionAttrs_absorbs _ packet).trans
    ((setCsR_repeats _ packet).trans (answerRetrreq_repeats P _))

theorem superviseNew_repeats (con : Connection) : Repeats con (superviseNew con) :=
  repeats_of_eq rfl rfl rfl id rfl rfl rfl

theorem establishByHb_absorbs (con : Connection) (packet : RastaPacket) :
    Absorbs packet con (establishByHb con packet) := by
  have hstate : (if con.config.kexMode = .none then RastaSrState.up else .kexReq) ≠ .start := by
    split
    · nofun
    · nofun
  have hupdated := (updateConnectionAttrs_absorbs con packet).trans (setCsR_repeats _ packet)
  rw [establishByHb_eq]
  exact (hupdated.trans (setState_repeats _ hstate)).trans (superviseNew_repeats _)

theorem acceptHb_absorbs (con : Connection) (packet : RastaPacket) :
    Absorbs packet con (acceptHb P con packet) := by
  have hsupervised := (srUpdateTimeoutInterval_frame P con packet.confirmedTimestamp).trans
    (srDiagnosticUpdate_frame P _ packet)
  have hupdated := ((hsupervised.sendsConfirming _ _).absorbs
    (updateConnectionAttrs_absorbs _ packet)).trans
    ((updateConfirmedAttrs_repeats _ packet).trans (srRemoveConfirmedMessages_repeats P _))
  unfold acceptHb
  simp only
  split
  · exact hupdated.trans (setState_repeats _ nofun)
  · exact hupdated

theorem setSessionKey_repeats (con : Connection) : Repeats con (setSessionKey con) :=
  repeats_of_eq rfl rfl rfl id rfl rfl rfl

/-- The answers of the key exchange carry the stamps of the packet they answer. -/
theorem answerKex_absorbs (con : Connection) {response : RastaPacket}
    (htype : response.type ≠ .discReq)
    (hnumber : response.confirmedSequenceNumber = packet.sequenceNumber)
    (htimestamp : response.confirmedTimestamp = packet.timestamp) {state : RastaSrState}
    (hstate : state ≠ .start) :
    Absorbs packet con (setSessionKey (setState (srRemoveConfirmedMessages P
      (updateKexAttrs (incrementSnT (redundancyMuxSend P con response)) packet)) state)) := by
  have hsent := sendNext_confirming P con response htype
  rw [hnumber, htimestamp] at hsent
  exact (hsent.absorbs (updateKexAttrs_absorbs _ packet)).trans
    (((srRemoveConfirmedMessages_repeats P _).trans (setState_repeats _ hstate)).trans
      (setSessionKey_repeats _))

theorem acceptConresp_absorbs (con : Connection) (packet : RastaPacket) :
    Absorbs packet con (acceptConresp P con packet) := by
  have hupdated : Absorbs packet con
      (setState (setCsR (updateConnectionAttrs con packet) packet) .up) :=
    (updateConnectionAttrs_absorbs con packet).trans
      ((setCsR_repeats _ packet).trans (setState_repeats _ nofun))
  have hanswer : Absorbs packet con (answerConresp P con packet) :=
    hupdated.trans (sendHeartbeat_repeats P _ true)
  have hstarted : Repeats (answerConresp P con packet)
      (startKeyExchange P (answerConresp P con packet)) := by
    unfold startKeyExchange
    split
    · exact sendKexRequest_repeats P _
    · exact .refl _
  refine (hanswer.trans hstarted).trans ?_
  unfold acceptConresp superviseConnection
  split
  · exact .refl _
  · exact repeats_of_eq rfl rfl rfl id rfl rfl rfl

theorem handleKexRequest_absorbs (htype : packet.type = .kexRequest)
    (h : HandlerAccepts P con packet) : Absorbs packet con (handleKexRequest P con packet).1 := by
  simp only [HandlerAccepts, htype] at h
  obtain ⟨henable, ⟨hsn, hcts⟩, hexpected, hmode, hsome⟩ := h
  have hphase : ¬ (con.currentState ≠ .kexReq ∧
      (con.config.rekeyingIntervalMs = 0 ∨ con.currentState ≠ .up)) := by
    rcases hexpected with hstate | ⟨hinterval, hstate⟩
    · simp [hstate]
    · simp [hinterval, hstate]
  have hafter : (handleKexRequest P con packet).1 = answerKexRequest P con packet := by
    unfold handleKexRequest
    rw [if_pos hsn, if_neg hphase, if_pos hcts, if_neg hmode, if_pos henable]
  rw [hafter]
  have hstamped := @createKexResponse_isSome_clock P con packet (con.clockReads + 1)
    (getCurrentTimeMs con)
  rw [hsome] at hstamped
  obtain ⟨⟨response, answered⟩, hcreated⟩ := Option.isSome_iff_exists.mp hstamped
  have hstamp : createKexResponse P (stampKeyExchange con) packet = some (response, answered) :=
    hcreated
  obtain ⟨hcounted, hresponse, -, -, hnumber, htimestamp⟩ := createKexResponse_counted P hstamp
  unfold answerKexRequest
  rw [hstamp]
  have hready : SendsConfirming packet.sequenceNumber packet.timestamp con (tick answered) := by
    obtain ⟨_, _, _, _, rfl⟩ := hcounted
    exact sendsConfirming_of_eq _ _ rfl rfl rfl id
  exact hready.absorbs (answerKex_absorbs _ (by rw [hresponse]; nofun) hnumber htimestamp nofun)

theorem handleKexResponse_absorbs (htype : packet.type = .kexResponse)
    (h : HandlerAccepts P con packet) : Absorbs packet con (handleKexResponse P con packet).1 := by
  simp only [HandlerAccepts, htype] at h
  obtain ⟨henable, ⟨hsn, hcts⟩, hstate, hmode, hrecovered⟩ := h
  have hcounted := @kexRecoverCredential_counted P con packet.data
  unfold handleKexResponse
  rw [if_pos hsn, if_neg (not_not.mpr hstate), if_pos hcts, if_neg hmode, if_pos henable]
  simp only [hrecovered, ne_eq, not_true_eq_false, if_false]
  have hready : SendsConfirming packet.sequenceNumber packet.timestamp con
      (tick (kexRecoverCredential P con packet.data).2) := by
    obtain ⟨_, _, _, _, hbase⟩ := hcounted
    rw [hbase]
    exact sendsConfirming_of_eq _ _ rfl rfl rfl id
  apply hready.absorbs
  apply answerKex_absorbs
  · nofun
  · rfl
  · rfl
  · nofun

theorem handleKexAuth_absorbs (htype : packet.type = .kexAuthentication)
    (h : HandlerAccepts P con packet) : Absorbs packet con (handleKexAuth P con packet).1 := by
  simp only [HandlerAccepts, htype] at h
  obtain ⟨henable, ⟨hsn, hcts⟩, hstate, hmode, hauthenticated⟩ := h
  unfold handleKexAuth
  rw [if_pos hsn, if_neg (not_not.mpr hstate), if_pos hcts, if_neg hmode, if_pos henable,
    if_neg (not_not.mpr hauthenticated)]
  have hready : SendsConfirming packet.sequenceNumber packet.timestamp con (countOpaqueCall con) :=
    sendsConfirming_of_eq _ _ rfl rfl rfl id
  exact (hready.absorbs (updateKexAttrs_absorbs _ packet)).trans
    ((srRemoveConfirmedMessages_repeats P _).trans (setState_repeats _ nofun))

/-- A refused key exchange PDU closes the connection or ends the process. -/
theorem handleKexRequest_repeats (hno : ¬ HandlerAccepts P con packet)
    (htype : packet.type = .kexRequest) : Repeats con (handleKexRequest P con packet).1 := by
  simp only [HandlerAccepts, htype, not_and] at hno
  have hcountCs : Repeats con (countCsError con) := repeats_of_eq rfl rfl rfl id rfl rfl rfl
  unfold handleKexRequest
  split
  swap
  · exact srCloseConnection_repeats P con _ 0
  rename_i hsn
  split
  · exact srCloseConnection_repeats P con _ 0
  rename_i hphase
  split
  swap
  · exact hcountCs.trans (srCloseConnection_repeats P _ _ 0)
  rename_i hcts
  split
  · exact srCloseConnection_repeats P con _ 0
  rename_i hmode
  split
  swap
  · exact repeats_of_eq rfl rfl rfl id rfl rfl rfl
  rename_i henable
  have hexpected : con.currentState = .kexReq ∨
      con.config.rekeyingIntervalMs ≠ 0 ∧ con.currentState = .up := by
    by_contra hnot
    refine hphase ⟨fun hstate => hnot (.inl hstate), ?_⟩
    by_contra hother
    push Not at hother
    exact hnot (.inr hother)
  have hnone := hno henable ⟨hsn, hcts⟩ hexpected hmode
  rw [← @createKexResponse_isSome_clock P con packet (con.clockReads + 1) (getCurrentTimeMs con),
    Bool.not_eq_true, Option.isSome_eq_false_iff, Option.isNone_iff_eq_none] at hnone
  have hstamp : createKexResponse P (stampKeyExchange con) packet = none := hnone
  unfold answerKexRequest
  rw [hstamp]
  exact repeats_of_eq rfl rfl rfl id rfl rfl rfl

theorem handleKexResponse_repeats (hno : ¬ HandlerAccepts P con packet)
    (htype : packet.type = .kexResponse) : Repeats con (handleKexResponse P con packet).1 := by
  simp only [HandlerAccepts, htype, not_and] at hno
  have hcountCs : Repeats con (countCsError con) := repeats_of_eq rfl rfl rfl id rfl rfl rfl
  unfold handleKexResponse
  split
  swap
  · exact srCloseConnection_repeats P con _ 0
  rename_i hsn
  split
  · exact srCloseConnection_repeats P con _ 0
  rename_i hstate
  split
  swap
  · exact hcountCs.trans (srCloseConnection_repeats P _ _ 0)
  rename_i hcts
  split
  · exact srCloseConnection_repeats P con _ 0
  rename_i hmode
  split
  swap
  · exact repeats_of_eq rfl rfl rfl id rfl rfl rfl
  rename_i henable
  have hfailed := hno henable ⟨hsn, hcts⟩ (not_not.mp hstate) hmode
  simp only [ne_eq, hfailed, not_false_eq_true, if_true]
  exact (kexRecoverCredential_counted P packet.data).repeats.trans
    (srCloseConnection_repeats P _ _ 0)

theorem handleKexAuth_repeats (hno : ¬ HandlerAccepts P con packet)
    (htype : packet.type = .kexAuthentication) : Repeats con (handleKexAuth P con packet).1 := by
  simp only [HandlerAccepts, htype, not_and] at hno
  have hcountCs : Repeats con (countCsError con) := repeats_of_eq rfl rfl rfl id rfl rfl rfl
  unfold handleKexAuth
  split
  swap
  · exact srCloseConnection_repeats P con _ 0
  rename_i hsn
  split
  · exact srCloseConnection_repeats P con _ 0
  rename_i hstate
  split
  swap
  · exact hcountCs.trans (srCloseConnection_repeats P _ _ 0)
  rename_i hcts
  split
  · exact srCloseConnection_repeats P con _ 0
  rename_i hmode
  split
  swap
  · exact repeats_of_eq rfl rfl rfl id rfl rfl rfl
  rename_i henable
  have hfailed := hno henable ⟨hsn, hcts⟩ (not_not.mp hstate) hmode
  simp only [ne_eq, hfailed, not_false_eq_true, if_true]
  exact srCloseConnection_repeats P con _ 0

theorem handleReceivedPacket_repeats (hno : ¬ HandlerAccepts P con packet)
    (hkex : IsKexType packet.type) : Repeats con (handleReceivedPacket P con packet).1 := by
  have hcounted : Repeats con (countTypeError con) := repeats_of_eq rfl rfl rfl id rfl rfl rfl
  unfold handleReceivedPacket
  rcases hkex with htype | htype | htype
  · simp only [htype]
    split
    · exact handleKexRequest_repeats hno htype
    · exact hcounted
  · simp only [htype]
    split
    · exact handleKexResponse_repeats hno htype
    · exact hcounted
  · simp only [htype]
    split
    · exact handleKexAuth_repeats hno htype
    · exact hcounted

theorem srReceive_repeats (hno : ¬ AcceptsAttributes P con packet)
    (hconreq : ¬ ConreqTaken con packet) : Repeats con (srReceive P con packet).1 := by
  simp only [AcceptsAttributes, not_or, not_and] at hno
  obtain ⟨-, hconresp, hhandler⟩ := hno
  by_cases hkex : ReachesHandler P con packet ∧ IsKexType packet.type
  · obtain ⟨hreach, hkex⟩ := hkex
    have hreq : packet.type ≠ .connReq := by rcases hkex with h | h | h <;> simp [h]
    have hresp : packet.type ≠ .connResp := by rcases hkex with h | h | h <;> simp [h]
    obtain ⟨reads, hreceive⟩ := srReceive_of_reaches P hreq hresp hreach
    have hrefused : ¬ HandlerAccepts P { con with clockReads := reads } packet := by
      rw [handlerAccepts_reads]
      exact hhandler hreach
    rw [hreceive]
    exact (counted_reads con reads).repeats.trans (handleReceivedPacket_repeats hrefused hkex)
  · exact (srReceive_received P con packet).repeats hhandler hconreq hconresp
      fun hreach htype => hkex ⟨hreach, htype⟩

/-- A refused connection request leaves what is known of the peer, and nothing is sent. -/
theorem srReceive_conreqRefused (htaken : ConreqTaken con packet)
    (hno : ¬ ConreqAccepted P con packet) :
    (srReceive P con packet).1.sent = con.sent ∧ (srReceive P con packet).1.csT = con.csT ∧
      (srReceive P con packet).1.tsR = con.tsR := by
  obtain ⟨htype, hstate⟩ := htaken
  have hprepared : (prepareServer P con).currentState = .down ∧
      (prepareServer P con).sent = con.sent ∧ (prepareServer P con).csT = con.csT ∧
      (prepareServer P con).tsR = con.tsR := by
    unfold prepareServer srInitConnection
    cases P.enableOpaque <;> exact ⟨rfl, rfl, rfl, rfl⟩
  have hclosed : ∃ reason, (srReceive P con packet).1 =
      srCloseConnection P (prepareServer P con) reason 0 := by
    rw [srReceive, if_pos htype]
    simp only [handleConreq, if_pos hstate]
    split
    · rename_i hcheck
      split
      · rename_i hversion
        rw [prepareServer_config] at hversion
        exact absurd ⟨htype, hstate, hcheck, hversion⟩ hno
      · exact ⟨_, rfl⟩
    · exact ⟨_, rfl⟩
  obtain ⟨reason, hafter⟩ := hclosed
  rw [hafter]
  generalize prepareServer P con = prepared at hprepared ⊢
  obtain ⟨hdown, hsent, hcsT, htsR⟩ := hprepared
  rw [srCloseConnection, if_pos (.inl hdown)]
  exact ⟨hsent, hcsT, htsR⟩

theorem handleReceivedPacket_absorbs (h : HandlerAccepts P con packet) :
    Absorbs packet
      (if packet.type = .hb ∧ con.currentState = .start then rejectStartHb P con packet
        else if packet.type = .retrReq ∧ con.currentState = .retrRun then
          srCloseConnection P con .retrFailed 0
        else con)
      (handleReceivedPacket P con packet).1 := by
  unfold handleReceivedPacket
  cases htype : packet.type with
  | data => simpa [htype] using handleData_absorbs htype h
  | retrData => simpa [htype] using handleRetrdata_absorbs htype h
  | retrResp => simpa [htype] using handleRetrresp_absorbs htype h
  | retrReq =>
    simp only [HandlerAccepts, htype] at h
    simpa [htype] using @handleRetrreq_absorbs P con packet h
  | hb =>
    simp only [HandlerAccepts, htype] at h
    obtain ⟨hcts, hstate | ⟨hsn, hstate⟩⟩ := h
    · have hafter : (handleHb P con packet).1 =
          establishByHb (rejectStartHb P con packet) packet := by
        simp [handleHb, hstate, rejectStartHb_srCtsInSeq, hcts]
      simp only [hstate, and_self, if_true, hafter]
      exact establishByHb_absorbs _ packet
    · have hstart : con.currentState ≠ .start := by
        rcases hstate with h | h | h | h | h <;> simp [h]
      have hafter : (handleHb P con packet).1 = acceptHb P con packet := by
        rcases hstate with h | h | h | h | h <;> simp [handleHb, hsn, hcts, h]
      simp only [hstart, and_false, if_false, reduceCtorEq, false_and, hafter]
      exact acceptHb_absorbs con packet
  | kexRequest =>
    have henable : P.enableOpaque = true := by
      simp only [HandlerAccepts, htype] at h
      exact h.1
    simpa [htype, henable] using handleKexRequest_absorbs htype h
  | kexResponse =>
    have henable : P.enableOpaque = true := by
      simp only [HandlerAccepts, htype] at h
      exact h.1
    simpa [htype, henable] using handleKexResponse_absorbs htype h
  | kexAuthentication =>
    have henable : P.enableOpaque = true := by
      simp only [HandlerAccepts, htype] at h
      exact h.1
    simpa [htype, henable] using handleKexAuth_absorbs htype h
  | discReq => simp [HandlerAccepts, htype] at h
  | connReq => simp [HandlerAccepts, htype] at h
  | connResp => simp [HandlerAccepts, htype] at h
  | other code unknown => simp [HandlerAccepts, htype] at h

theorem acceptancePoint_repeats (con : Connection) (packet : RastaPacket) :
    Repeats con (acceptancePoint P con packet) := by
  obtain ⟨reads, hreads⟩ := srRekeyingSkipped_snd P con
  have hbase : Repeats con (srRekeyingSkipped P con).2 := by
    rw [hreads]
    exact (counted_reads con reads).repeats
  unfold acceptancePoint
  split
  · exact hbase.trans (rejectStartHb_repeats P _ packet)
  · split
    · exact hbase.trans (srCloseConnection_repeats P _ _ 0)
    · exact .refl con

/-- From the acceptance point on everything sent carries the stamps of the packet. -/
theorem srReceive_absorbs (h : AcceptsAttributes P con packet)
    (hconreq : ¬ ConreqAccepted P con packet) :
    Absorbs packet (acceptancePoint P con packet) (srReceive P con packet).1 := by
  rcases h with hconreq' | haccepted | ⟨hreach, hhandler⟩
  · exact absurd hconreq' hconreq
  · have hafter : (srReceive P con packet).1 = acceptConresp P con packet := by
      obtain ⟨htype, hstate, hrole, hcheck, hversion⟩ := haccepted
      simp [srReceive, handleConresp, htype, hstate, hrole, hcheck, hversion]
    have hpoint : acceptancePoint P con packet = con := by
      simp [acceptancePoint, haccepted.1]
    rw [hafter, hpoint]
    exact acceptConresp_absorbs con packet
  · have hreq : packet.type ≠ .connReq := by
      intro htype
      simp [HandlerAccepts, htype] at hhandler
    have hresp : packet.type ≠ .connResp := by
      intro htype
      simp [HandlerAccepts, htype] at hhandler
    obtain ⟨reads, hreads⟩ := srRekeyingSkipped_snd P con
    have hskipped : (srRekeyingSkipped P con).1 = false := hreach.2.2.2.2
    have hreceive : (srReceive P con packet).1 =
        (handleReceivedPacket P { con with clockReads := reads } packet).1 := by
      obtain ⟨hchecksum, hauth, hrange, hcs, -⟩ := hreach
      simp [srReceive, hreq, hresp, hchecksum, hauth, hrange, hcs, hskipped, hreads]
    have hbase : SendsConfirming packet.sequenceNumber packet.timestamp con
        { con with clockReads := reads } := sendsConfirming_of_eq _ _ rfl rfl rfl id
    have habsorbs := handleReceivedPacket_absorbs ((handlerAccepts_reads con packet reads).mpr hhandler)
    rw [hreceive]
    unfold acceptancePoint
    rw [hreads]
    by_cases hhb : packet.type = .hb ∧ con.currentState = .start
    · rw [if_pos hhb] at habsorbs ⊢
      exact habsorbs
    · rw [if_neg hhb] at habsorbs ⊢
      by_cases hretr : packet.type = .retrReq ∧ con.currentState = .retrRun
      · rw [if_pos hretr] at habsorbs ⊢
        exact habsorbs
      · rw [if_neg hretr] at habsorbs ⊢
        exact hbase.absorbs habsorbs

end Acceptance

section Steps

variable {P : Platform} {con : Connection} {event : Event}

theorem eventConnectionExpired_repeats (con : Connection) :
    Repeats con (eventConnectionExpired P con) := by
  unfold eventConnectionExpired
  split
  · exact .refl con
  · split
    · exact (srCloseConnection_repeats P con .timeout 0).trans
        (repeats_of_eq rfl rfl rfl id rfl rfl rfl)
    · exact repeats_of_eq rfl rfl rfl id rfl rfl rfl

theorem srSend_repeats (con : Connection) (appMessages : List Bytes) :
    Repeats con (srSend P con appMessages).1 := by
  have hrefused : Repeats con
      (setState (sendDisconnectionRequest P con .serviceNotAllowed 0) .closed) :=
    (sendDisconnectionRequest_repeats P con _ 0).trans (setState_repeats _ nofun)
  unfold srSend
  cases con.currentState with
  | up =>
    simp only
    split
    · exact .refl con
    · exact sendMessages_repeats P appMessages con
  | closed => exact setState_repeats con nofun
  | down => exact setState_repeats con nofun
  | _ => exact hrefused

theorem sendTimedKeyExchange_repeats (con : Connection) :
    Repeats con (sendTimedKeyExchange P con) := by
  unfold sendTimedKeyExchange
  split
  · refine (sendKexRequest_repeats P con).trans ?_
    unfold rescheduleRekeying
    split
    · exact .refl _
    · exact repeats_of_eq rfl rfl rfl id rfl rfl rfl
  · exact .refl con

/-- Timers and calls of the application send on what is known of the peer. -/
theorem endpointStep_repeats (hown : ∀ packet, event ≠ .receive packet)
    (hstart : ¬ StartsSession P con event) : Repeats con (endpointStep P con event) := by
  unfold endpointStep
  split
  · exact .refl con
  cases event with
  | receive packet => exact absurd rfl (hown packet)
  | dataSend =>
    simp only
    split
    · exact dataSendEvent_repeats P con
    · exact .refl con
  | heartbeat =>
    simp only
    split
    · unfold heartbeatSendEvent
      split
      · exact .refl con
      · split
        · exact sendHeartbeat_repeats P con false
        · exact .refl con
    · exact .refl con
  | connectionExpired =>
    simp only
    split
    · exact eventConnectionExpired_repeats con
    · exact .refl con
  | timedKeyExchange =>
    simp only
    split
    · exact sendTimedKeyExchange_repeats con
    · exact .refl con
  | send appMessages => exact srSend_repeats con appMessages
  | connect transportOk =>
    simp only [srConnect]
    split
    · rename_i hconnectable
      split
      · rename_i hok
        exact absurd ⟨hok, hconnectable⟩ hstart
      · exact repeats_of_eq rfl rfl rfl id rfl rfl rfl
    · exact .refl con
  | connectReturn => exact repeats_of_eq rfl rfl rfl id rfl rfl rfl
  | disconnect =>
    exact (srCloseConnection_repeats P con .userRequest 0).trans
      (repeats_of_eq rfl rfl rfl id rfl rfl rfl)
  | transportClosed =>
    exact (@setState_repeats con .closed (by simp)).trans (srResetConnection_repeats _)
  | recv =>
    simp only [rastaRecv]
    split
    · exact repeats_of_eq rfl rfl rfl id rfl rfl rfl
    · exact .refl con
  | accept => exact repeats_of_eq rfl rfl rfl id rfl rfl rfl
  | acceptReturn => exact repeats_of_eq rfl rfl rfl id rfl rfl rfl

end Steps

section Runs

variable (P : Platform)

/-- The packet whose attributes a step accepts. -/
def acceptedBy (con : Connection) : Event → Option RastaPacket
  | .receive packet =>
    if con.aborted = false ∧ AcceptsAttributes P con packet then some packet else none
  | _ => none

/-- The PDU carries the sequence number and the timestamp of the last accepted packet, if there
is one. -/
def StampedBy (last : Option RastaPacket) (pdu : SentPdu) : Prop :=
  ∀ packet ∈ last, Confirms packet.sequenceNumber packet.timestamp pdu

instance (last : Option RastaPacket) (pdu : SentPdu) : Decidable (StampedBy last pdu) :=
  match last with
  | none => isTrue nofun
  | some packet =>
    decidable_of_iff (Confirms packet.sequenceNumber packet.timestamp pdu)
      (by simp [StampedBy])

/-- Everything a step sends is stamped; what a packet makes the endpoint send before its
attributes are accepted counts as sent before it. -/
def StepStamped (last : Option RastaPacket) (con : Connection) (event : Event) : Prop :=
  match acceptedBy P con event with
  | none => ∀ pdu ∈ newlySent con (endpointStep P con event), StampedBy last pdu
  | some packet =>
    (∀ pdu ∈ newlySent con (acceptancePoint P con packet), StampedBy last pdu) ∧
      ∀ pdu ∈ newlySent (acceptancePoint P con packet) (endpointStep P con event),
        StampedBy (some packet) pdu

/-- The same for a run, with the last packet accepted before it. -/
def RunStamped : Option RastaPacket → Connection → List Event → Prop
  | _, _, [] => True
  | last, con, event :: rest =>
    StepStamped P last con event ∧
      RunStamped ((acceptedBy P con event).or last) (endpointStep P con event) rest

/-- The connection holds the attributes of the last accepted packet. -/
def Known (last : Option RastaPacket) (con : Connection) : Prop :=
  ∀ packet ∈ last, con.csT = packet.sequenceNumber ∧ con.tsR = packet.timestamp

variable {P} {last : Option RastaPacket} {con after : Connection} {event : Event}

theorem SendsConfirming.newlySent {number timestamp : UInt32} {before after : Connection}
    (h : SendsConfirming number timestamp before after) :
    ∀ pdu ∈ newlySent before after, Confirms number timestamp pdu := by
  obtain ⟨out, hsent, hout, -⟩ := h.output
  rw [newlySent_eq hsent]
  exact hout

theorem Known.stamped (hknown : Known last con) (h : Repeats con after) :
    ∀ pdu ∈ newlySent con after, StampedBy last pdu := by
  intro pdu hmem packet hlast
  obtain ⟨hnumber, htimestamp⟩ := hknown packet hlast
  rw [← hnumber, ← htimestamp]
  exact h.sends.newlySent pdu hmem

theorem Known.repeats (hknown : Known last con) (h : Repeats con after) : Known last after := by
  intro packet hlast
  rw [h.csT, h.tsR]
  exact hknown packet hlast

/-- A step that accepts nothing stamps what is known. -/
theorem Known.step_of_repeats (hknown : Known last con) (hno : acceptedBy P con event = none)
    (h : Repeats con (endpointStep P con event)) :
    StepStamped P last con event ∧
      Known ((acceptedBy P con event).or last) (endpointStep P con event) := by
  unfold StepStamped
  rw [hno]
  exact ⟨hknown.stamped h, hknown.repeats h⟩

theorem Known.receive (hknown : Known last con) (hrunning : con.aborted = false)
    {packet : RastaPacket} (hstart : ¬ ConreqAccepted P con packet) :
    StepStamped P last con (.receive packet) ∧
      Known ((acceptedBy P con (.receive packet)).or last)
        (endpointStep P con (.receive packet)) := by
  have hafter : endpointStep P con (.receive packet) = (srReceive P con packet).1 := by
    simp [endpointStep, hrunning]
  by_cases haccepts : AcceptsAttributes P con packet
  · have haccepted : acceptedBy P con (.receive packet) = some packet := by
      simp [acceptedBy, hrunning, haccepts]
    have habsorbs := srReceive_absorbs haccepts hstart
    unfold StepStamped
    rw [haccepted, hafter]
    refine ⟨⟨hknown.stamped (acceptancePoint_repeats con packet), ?_⟩, ?_⟩
    · rintro pdu hmem _ ⟨⟩
      exact habsorbs.sends.newlySent pdu hmem
    · rintro _ ⟨⟩
      exact ⟨habsorbs.csT, habsorbs.tsR⟩
  · have hnone : acceptedBy P con (.receive packet) = none := by
      simp [acceptedBy, haccepts]
    by_cases htaken : ConreqTaken con packet
    · obtain ⟨hsent, hcsT, htsR⟩ := srReceive_conreqRefused htaken hstart
      have hnothing : newlySent con (srReceive P con packet).1 = [] :=
        newlySent_eq (by simpa using hsent)
      unfold StepStamped
      rw [hnone, hafter, hnothing]
      refine ⟨(by simp), ?_⟩
      intro other hlast
      rw [hcsT, htsR]
      exact hknown other hlast
    · refine hknown.step_of_repeats hnone ?_
      rw [hafter]
      exact srReceive_repeats haccepts htaken

theorem Known.step (hknown : Known last con) (hstart : ¬ StartsSession P con event) :
    StepStamped P last con event ∧
      Known ((acceptedBy P con event).or last) (endpointStep P con event) := by
  cases haborted : con.aborted with
  | true =>
    have hsame : endpointStep P con event = con := by simp [endpointStep, haborted]
    refine hknown.step_of_repeats ?_ ?_
    · cases event <;> simp [acceptedBy, haborted]
    · rw [hsame]
      exact .refl con
  | false =>
    cases event with
    | receive packet => exact hknown.receive haborted hstart
    | _ => exact hknown.step_of_repeats rfl (endpointStep_repeats (by simp) hstart)

theorem Known.run (hknown : Known last con) {events : List Event}
    (hsame : RunOk (endpointStep P) (fun con event => ¬ StartsSession P con event) con events) :
    RunStamped P last con events := by
  induction events generalizing last con with
  | nil => trivial
  | cons event rest ih =>
    obtain ⟨hfirst, hrest⟩ := (runOk_cons (endpointStep P)).mp hsame
    obtain ⟨hstamped, hnext⟩ := hknown.step hfirst
    exact ⟨hstamped, ih hnext hrest⟩

/-- The connection response carries the confirmed timestamp of the request it answers. -/
theorem acceptConreq_stamps (con : Connection) (packet : RastaPacket) :
    ∃ response : SentPdu, (acceptConreq P con packet).sent = con.sent ++ [response] ∧
      Confirms packet.sequenceNumber packet.confirmedTimestamp response ∧
      (acceptConreq P con packet).csT = packet.sequenceNumber ∧
      (acceptConreq P con packet).tsR = packet.timestamp := by
  unfold acceptConreq
  dsimp only [redundancyMuxSend, setState, incrementSnT, tick]
  exact ⟨_, rfl, ⟨rfl, rfl⟩, rfl, rfl⟩

theorem handleConreq_stamped_iff (hrunning : con.aborted = false) {request : RastaPacket}
    (haccepted : ConreqAccepted P con request) (last : Option RastaPacket) :
    (StepStamped P last con (.receive request) ↔
        request.confirmedTimestamp = request.timestamp) ∧
      Known (some request) (endpointStep P con (.receive request)) ∧
      acceptedBy P con (.receive request) = some request := by
  obtain ⟨response, hsent, ⟨hnumber, htimestamp⟩, hcsT, htsR⟩ :=
    @acceptConreq_stamps P (prepareServer P con) request
  rw [prepareServer_sent] at hsent
  have hafter : endpointStep P con (.receive request) =
      acceptConreq P (prepareServer P con) request := by
    simp [endpointStep, hrunning, srReceive, haccepted.1, handleConreq_of_accepted P haccepted]
  have haccept : acceptedBy P con (.receive request) = some request := by
    have hattributes : AcceptsAttributes P con request := .inl haccepted
    simp [acceptedBy, hrunning, hattributes]
  have hpoint : acceptancePoint P con request = con := by
    simp [acceptancePoint, haccepted.1]
  refine ⟨?_, ?_, haccept⟩
  · have hnothing : newlySent con con = [] := newlySent_eq (by simp)
    unfold StepStamped
    rw [haccept]
    simp only [hpoint, hafter, newlySent_eq hsent, hnothing]
    simp [StampedBy, Confirms, hnumber, htimestamp]
  · rw [hafter]
    rintro _ ⟨⟩
    exact ⟨hcsT, htsR⟩

end Runs

/-- The peer of `exampleClient`, right after the library was initialised. -/
def exampleServer : Connection :=
  rastaLibInitConfiguration exampleRemoteConfig fun reading => (9000 + reading) * 10 ^ 6

/-- The connection request `exampleClient` sends. -/
def exampleRequest : RastaPacket :=
  { zeroPacket with
    type := .connReq
    receiverId := exampleServer.myId
    senderId := exampleServer.remoteId
    sequenceNumber := 100
    timestamp := 5001
    data := connectionData rastaVersion 20
    checksumCorrect := true }

end LibRasta.Retransmission
