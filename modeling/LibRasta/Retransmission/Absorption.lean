/-
Module: LibRasta/Retransmission/Absorption.lean
source: src/c/retransmission/handlers.c, src/c/retransmission/safety_retransmission.c
digest: Every branch of `sr_receive` as moves of the renumbering protocol: those of the direction the packet comes from, and those of the direction the endpoint answers in.
-/

import LibRasta.Retransmission.Conveyance
import LibRasta.Retransmission.Delivery
import LibRasta.Retransmission.Handshake

set_option autoImplicit false
set_option relaxedAutoImplicit false

namespace LibRasta.Retransmission

open LibRasta.Lib
open LibRasta.Lib.Renumbering
open LibRasta.Util
open LibRasta.Factory

section Receiver

variable (P : Platform)

/-- The decoded packet is the PDU. -/
structure Matches (packet : RastaPacket) (pdu : Pdu Bytes) : Prop where
  number : packet.sequenceNumber = UInt32.ofNat pdu.number
  kind : kindOf packet.type = pdu.kind
  messages : pdu.kind = .data → extractMessageData P packet = pdu.messages

/-- The connection is the receiver of the direction. -/
structure Receiving (con : Connection) (d : Direction Bytes) : Prop where
  accepting : con.currentState = .up ∨ con.currentState = .retrRun →
    d.mode = .accepting ∧ con.snR = UInt32.ofNat d.expected ∧
      ∃ last, last + 1 = d.expected ∧ con.csT = UInt32.ofNat last
  starting : con.currentState = .start → d.mode = .idle
  pending : d.requests ≠ [] → con.snR = UInt32.ofNat d.expected
  unkeyed : con.currentState ≠ .kexReq ∧ con.currentState ≠ .kexResp ∧
    con.currentState ≠ .kexAuth

/-- The direction after its receiver took a PDU and became `after`: it asked for retransmissions
and appended messages. -/
structure Absorbed (after : Connection) (asked : List UInt32) (appended : List Bytes)
    (rest : List (Pdu Bytes)) (d d' : Direction Bytes) : Prop where
  moves : Moves d d'
  receiving : Receiving after d'
  flight : d'.flight = rest
  delivered : d'.delivered = d.delivered ++ appended
  requests : d'.requests.map UInt32.ofNat = d.requests.map UInt32.ofNat ++ asked
  queue : d'.queue = d.queue
  kept : d'.kept = d.kept
  next : d'.next = d.next
  pushed : d'.pushed = d.pushed

variable {P} {con after : Connection} {packet : RastaPacket} {d : Direction Bytes}
  {pdu : Pdu Bytes} {rest : List (Pdu Bytes)}

theorem Receiving.lose (h : Receiving con d) (hflight : d.flight = pdu :: rest)
    (hstate : after.currentState = con.currentState) (hsnR : after.snR = con.snR)
    (hcsT : after.csT = con.csT) :
    Absorbed after [] [] rest d { d with flight := rest } := by
  refine ⟨.single (.lose d rest ?_), ?_, rfl, by simp, by simp, rfl, rfl, rfl, rfl⟩
  · rw [hflight]
    exact List.sublist_cons_self pdu rest
  · constructor
    · rw [hstate, hsnR, hcsT]
      exact h.accepting
    · rw [hstate]
      exact h.starting
    · rw [hsnR]
      exact h.pending
    · rw [hstate]
      exact h.unkeyed

/-- The receiver no longer follows the numbers. -/
theorem Receiving.leave (h : Receiving con d) (hflight : d.flight = pdu :: rest)
    (hstate : after.currentState = .closed ∨ after.currentState = .down ∨
      after.currentState = .retrReq)
    (hpending : d.requests ≠ [] → after.snR = con.snR) :
    Absorbed after [] [] rest d { d with flight := rest, mode := .closed } := by
  refine ⟨?_, ?_, rfl, by simp, by simp, rfl, rfl, rfl, rfl⟩
  · have hlost : Move d { d with flight := rest } :=
      .lose d rest (by rw [hflight]; exact List.sublist_cons_self pdu rest)
    exact (Relation.ReflTransGen.single hlost).tail (.stop _ .closed (.inl rfl))
  · constructor
    · intro hrunning
      rcases hstate with hs | hs | hs <;> rw [hs] at hrunning <;> simp at hrunning
    · intro hstart
      rcases hstate with hs | hs | hs <;> rw [hs] at hstart <;> cases hstart
    · intro hrequests
      rw [hpending hrequests]
      exact h.pending hrequests
    · rcases hstate with hs | hs | hs <;> rw [hs] <;> decide

/-- The receiver follows the numbers again, from the PDU it took on. -/
theorem receiving_after {d' : Direction Bytes} (hmatch : Matches P packet pdu)
    (hmode : d'.mode = .accepting) (hexpected : d'.expected = pdu.number + 1)
    (hstate : after.currentState = .up ∨ after.currentState = .retrRun)
    (hsnR : after.snR = packet.sequenceNumber + 1) (hcsT : after.csT = packet.sequenceNumber) :
    Receiving after d' := by
  have hnumber : after.snR = UInt32.ofNat d'.expected := by
    rw [hsnR, hmatch.number, hexpected, ofNat_succ]
  constructor
  · intro _
    exact ⟨hmode, hnumber, pdu.number, hexpected.symm, hcsT.trans hmatch.number⟩
  · intro hstart
    rcases hstate with hs | hs <;> rw [hs] at hstart <;> cases hstart
  · intro _
    exact hnumber
  · rcases hstate with hs | hs <;> rw [hs] <;> decide

/-- A PDU in sequence has the expected number. -/
theorem number_eq_expected_iff (hinv : Renumbering.Inv d)
    (hflight : d.flight = pdu :: rest) (hmatch : Matches P packet pdu) (hrange : d.next < 2 ^ 32)
    (hexpected : con.snR = UInt32.ofNat d.expected) :
    packet.sequenceNumber = con.snR ↔ pdu.number = d.expected := by
  have hbelow := hinv.flight_below (hflight ▸ List.mem_cons_self : pdu ∈ d.flight)
  have hnumber := pdu.number_le_stop
  have hreached := hinv.reached
  rw [hmatch.number, hexpected]
  constructor
  · intro heq
    exact ofNat_inj (by omega) (by omega) heq
  · intro heq
    rw [heq]

theorem Receiving.skip (h : Receiving con d) (hinv : Renumbering.Inv d)
    (hflight : d.flight = pdu :: rest) (hmatch : Matches P packet pdu) (hrange : d.next < 2 ^ 32)
    (hrunning : con.currentState = .up ∨ con.currentState = .retrRun)
    (hkind : pdu.kind = .data ∨ pdu.kind = .plain) (hseq : con.snR = packet.sequenceNumber)
    (hstate : after.currentState = .up ∨ after.currentState = .retrRun)
    (hsnR : after.snR = packet.sequenceNumber + 1) (hcsT : after.csT = packet.sequenceNumber) :
    Absorbed after [] [] rest d { d.take rest with expected := pdu.number + 1 } := by
  obtain ⟨hmode, hexpected, -⟩ := h.accepting hrunning
  have hnumber := (number_eq_expected_iff hinv hflight hmatch hrange hexpected).mp hseq.symm
  exact ⟨.single (.skip d pdu rest hflight hkind (.inl hnumber)),
    receiving_after hmatch hmode rfl hstate hsnR hcsT, rfl, by simp [Direction.take],
    by simp [Direction.take], rfl, rfl, rfl, rfl⟩

theorem Receiving.deliver (h : Receiving con d) (hinv : Renumbering.Inv d)
    (hflight : d.flight = pdu :: rest) (hmatch : Matches P packet pdu) (hrange : d.next < 2 ^ 32)
    (hrunning : con.currentState = .up ∨ con.currentState = .retrRun)
    (hkind : pdu.kind = .data) (hseq : con.snR = packet.sequenceNumber) (n : ℕ)
    (hstate : after.currentState = .up ∨ after.currentState = .retrRun)
    (hsnR : after.snR = packet.sequenceNumber + 1) (hcsT : after.csT = packet.sequenceNumber) :
    Absorbed after [] ((extractMessageData P packet).take n) rest d
      { d.take rest with
        expected := pdu.number + 1, delivered := d.delivered ++ pdu.messages.take n } := by
  obtain ⟨hmode, hexpected, -⟩ := h.accepting hrunning
  have hnumber := (number_eq_expected_iff hinv hflight hmatch hrange hexpected).mp hseq.symm
  refine ⟨.single (.deliver d pdu rest n hflight hkind hmode hnumber),
    receiving_after hmatch hmode rfl hstate hsnR hcsT, rfl, ?_, by simp [Direction.take], rfl, rfl,
    rfl, rfl⟩
  rw [hmatch.messages hkind]

theorem Receiving.ask (h : Receiving con d) (hinv : Renumbering.Inv d)
    (hflight : d.flight = pdu :: rest) (hmatch : Matches P packet pdu) (hrange : d.next < 2 ^ 32)
    (hrunning : con.currentState = .up ∨ con.currentState = .retrRun)
    (hkind : pdu.kind = .data) (hseq : con.snR ≠ packet.sequenceNumber)
    (hstate : after.currentState = .retrReq) (hsnR : after.snR = con.snR) :
    ∃ d', Absorbed after [con.csT] [] rest d d' := by
  obtain ⟨hmode, hexpected, last, hlast, hcsT⟩ := h.accepting hrunning
  have hnumber : pdu.number ≠ d.expected := fun heq =>
    hseq ((number_eq_expected_iff hinv hflight hmatch hrange hexpected).mpr heq).symm
  refine ⟨_, .single (.ask d pdu rest last hflight hkind hmode hnumber hlast), ?_, rfl,
    by simp [Direction.take], by simp [hcsT], rfl, rfl, rfl, rfl⟩
  constructor
  · rw [hstate]
    simp
  · rw [hstate]
    simp
  · intro _
    rw [hsnR]
    exact hexpected
  · rw [hstate]
    decide

theorem Receiving.resume (hflight : d.flight = pdu :: rest) (hmatch : Matches P packet pdu)
    (hkind : pdu.kind = .response) (hstate : after.currentState = .retrRun)
    (hsnR : after.snR = packet.sequenceNumber + 1) (hcsT : after.csT = packet.sequenceNumber) :
    Absorbed after [] [] rest d
      { d.take rest with mode := .accepting, expected := pdu.number + 1 } :=
  ⟨.single (.resume d pdu rest hflight hkind),
    receiving_after hmatch rfl rfl (.inr hstate) hsnR hcsT, rfl, by simp [Direction.take],
    by simp [Direction.take], rfl, rfl, rfl, rfl⟩

theorem Receiving.establish (h : Receiving con d) (hflight : d.flight = pdu :: rest)
    (hmatch : Matches P packet pdu) (hstart : con.currentState = .start)
    (hkind : pdu.kind = .plain) (hstate : after.currentState = .up)
    (hsnR : after.snR = packet.sequenceNumber + 1) (hcsT : after.csT = packet.sequenceNumber) :
    Absorbed after [] [] rest d
      { d.take rest with expected := pdu.number + 1, mode := .accepting } := by
  have hidle := h.starting hstart
  have hskip : Move d { d.take rest with expected := pdu.number + 1 } :=
    .skip d pdu rest hflight (.inr hkind) (.inr hidle)
  exact ⟨(Relation.ReflTransGen.single hskip).tail (.establish _ hidle),
    receiving_after hmatch rfl rfl (.inl hstate) hsnR hcsT, rfl, by simp [Direction.take],
    by simp [Direction.take], rfl, rfl, rfl, rfl⟩

/-- A PDU taken during the handshake, which goes on. -/
theorem Receiving.greet (hinv : Renumbering.Inv d) (hflight : d.flight = pdu :: rest)
    (hidle : d.mode = .idle) (hkind : pdu.kind = .plain) (hstate : after.currentState = .start) :
    Absorbed after [] [] rest d { d.take rest with expected := pdu.number + 1 } := by
  have hrequests := (hinv.quiet (.inr hidle)).1
  refine ⟨.single (.skip d pdu rest hflight (.inr hkind) (.inr hidle)), ?_, rfl,
    by simp [Direction.take], by simp [Direction.take], rfl, rfl, rfl, rfl⟩
  constructor
  · rw [hstate]
    simp
  · intro _
    exact hidle
  · intro hpending
    exact absurd hrequests hpending
  · rw [hstate]
    decide

end Receiver

section Branches

variable {P : Platform} {ctx : RastaHashingContext} {con base after : Connection}
  {packet : RastaPacket} {pdu : Pdu Bytes} {rest : List (Pdu Bytes)} {ds dr : Direction Bytes}

/-- The confirmed numbers of the retransmission requests on a link. -/
def requestsOf (P : Platform) (ctx : RastaHashingContext) (link : List Bytes) : List UInt32 :=
  ((link.map (decodePdu P ctx)).filter (·.type = .retrReq)).map (·.confirmedSequenceNumber)

/-- What handling the packet did to the two directions: `ds`, in which the endpoint sends, and
`dr`, from which the packet came. -/
structure Processed (P : Platform) (ctx : RastaHashingContext) (con after : Connection)
    (packet : RastaPacket) (rest : List (Pdu Bytes)) (ds dr : Direction Bytes) : Prop where
  sent : con.sent <+: after.sent
  opens : ∀ pdu ∈ newlySent con after, (decodePdu P ctx pdu.innerBytes).type ≠ .connReq
  sender : ∃ ds', Conveyed P ctx after (newlySent con after) []
    (if packet.type = .retrReq then 1 else 0) ds ds'
  receiver : ∃ dr', Absorbed after
    (requestsOf P ctx ((newlySent con after).map SentPdu.innerBytes)) (newlyAppended con after)
    rest dr dr'

theorem requestsOf_append (front back : List Bytes) :
    requestsOf P ctx (front ++ back) = requestsOf P ctx front ++ requestsOf P ctx back := by
  simp [requestsOf]

theorem Quiet.requestsOf {out : List SentPdu} (h : Quiet P ctx out) :
    requestsOf P ctx (out.map SentPdu.innerBytes) = [] := by
  have hnone : ((out.map SentPdu.innerBytes).map (decodePdu P ctx)).filter
      (·.type = .retrReq) = [] := by
    rw [List.filter_eq_nil_iff]
    intro packet hpacket
    simp only [List.map_map, List.mem_map, Function.comp_apply] at hpacket
    obtain ⟨pdu, hpdu, rfl⟩ := hpacket
    simpa using (h pdu hpdu).2
  rw [LibRasta.Retransmission.requestsOf, hnone]
  rfl

theorem newlyAppended_eq {messages : List Bytes}
    (h : after.fifoReceive.items = con.fifoReceive.items ++ messages) :
    newlyAppended con after = messages := by
  rw [newlyAppended, h, List.drop_left]

theorem newlyAppended_none (h : after.fifoReceive = con.fifoReceive) :
    newlyAppended con after = [] :=
  newlyAppended_eq (by rw [h, List.append_nil])

/-- A request that is not answered is gone. -/
theorem Sending.dropRequest (h : Sending P ctx con ds) (packet : RastaPacket) :
    Conveyed P ctx con [] [] (if packet.type = .retrReq then 1 else 0) ds
      { ds with requests := ds.requests.drop (if packet.type = .retrReq then 1 else 0) } :=
  ⟨.single (.loseRequest ds _ (List.drop_sublist _ _)),
    ⟨h.hashingContext, h.srHashingContext, h.lasterror, h.queue, h.kept, h.next, h.fits⟩,
    ⟨[], by simp, .nil⟩, rfl, by simp, rfl, rfl, rfl, rfl, fun _ hbatch => .inl hbatch⟩

/-- The packet is handled without an answer to a request and without a request. -/
theorem Conveys.processed (hconveys : Conveys P ctx con after []) (hinv : Renumbering.Inv ds)
    (hsending : Sending P ctx con ds) {appended : List Bytes} {dr' : Direction Bytes}
    (habsorbed : Absorbed after [] appended rest dr dr')
    (happended : newlyAppended con after = appended) :
    Processed P ctx con after packet rest ds dr := by
  have hdropped := hsending.dropRequest packet
  obtain ⟨hquiet, ds', hds'⟩ := hconveys.2 _ (hinv.moves hdropped.moves) hdropped.sending
  refine ⟨hconveys.1, fun pdu hpdu => (hquiet pdu hpdu).1, ⟨ds', ?_⟩, ⟨dr', ?_⟩⟩
  · exact hdropped.trans hds'
  · rw [hquiet.requestsOf, happended]
    exact habsorbed

theorem Counted.same (h : Counted con base) : SameSender con base := by
  obtain ⟨_, _, _, _, rfl⟩ := h
  exact ⟨rfl, rfl, rfl, rfl, rfl, rfl, rfl, rfl⟩

theorem Counted.receiveUntouched (h : Counted con base) : ReceiveUntouched con base := by
  obtain ⟨_, _, _, _, rfl⟩ := h
  exact ⟨rfl, rfl, rfl⟩

theorem ReceiveUntouched.trans {a b c : Connection} (hab : ReceiveUntouched a b)
    (hbc : ReceiveUntouched b c) : ReceiveUntouched a c :=
  ⟨hbc.csT.trans hab.csT, hbc.snR.trans hab.snR, hbc.fifoReceive.trans hab.fifoReceive⟩

theorem Counted.conveys (h : Counted con base) : Conveys P ctx con base [] := h.same.conveys

theorem updateConnectionAttrs_same (con : Connection) (packet : RastaPacket) :
    SameSender con (updateConnectionAttrs con packet) :=
  ⟨rfl, rfl, rfl, rfl, rfl, rfl, rfl, rfl⟩

theorem updateConfirmedAttrs_same (con : Connection) (packet : RastaPacket) :
    SameSender con (updateConfirmedAttrs con packet) :=
  ⟨rfl, rfl, rfl, rfl, rfl, rfl, rfl, rfl⟩

theorem setCsR_same (con : Connection) (packet : RastaPacket) :
    SameSender con (setCsR con packet) :=
  ⟨rfl, rfl, rfl, rfl, rfl, rfl, rfl, rfl⟩

theorem DeliveryFrame.same {before after : Connection} (h : DeliveryFrame before after) :
    SameSender before after := by
  rw [h.rest]
  exact ⟨rfl, rfl, rfl, rfl, rfl, rfl, rfl, rfl⟩

theorem acceptData_conveys (con : Connection) (packet : RastaPacket) :
    Conveys P ctx con (acceptData P con packet) [] := by
  have hadded := (srAddAppMessagesToBuffer_frame P con packet).same
  have hupdated := (updateConnectionAttrs_same (srAddAppMessagesToBuffer P con packet) packet).trans
    (updateConfirmedAttrs_same _ packet)
  exact (hadded.trans hupdated).conveys.trans (srRemoveConfirmedMessages_conveys _)

theorem acceptHb_conveys (con : Connection) (packet : RastaPacket) :
    Conveys P ctx con (acceptHb P con packet) [] := by
  have hframe := (srUpdateTimeoutInterval_frame P con packet.confirmedTimestamp).trans
    (srDiagnosticUpdate_frame P _ packet)
  have hupdated := (updateConnectionAttrs_same (srDiagnosticUpdate P
    (srUpdateTimeoutInterval P con packet.confirmedTimestamp) packet) packet).trans
      (updateConfirmedAttrs_same _ packet)
  have hremoved := @srRemoveConfirmedMessages_conveys P ctx (updateConfirmedAttrs
    (updateConnectionAttrs (srDiagnosticUpdate P
      (srUpdateTimeoutInterval P con packet.confirmedTimestamp) packet) packet) packet)
  have hall := (hframe.same.trans hupdated).conveys.trans hremoved
  unfold acceptHb
  simp only
  split
  · exact hall.trans (setState_same _ _).conveys
  · exact hall

/-- What a heartbeat on a running connection leaves for the receiver. -/
theorem acceptHb_receiver (con : Connection) (packet : RastaPacket) :
    (acceptHb P con packet).snR = packet.sequenceNumber + 1 ∧
      (acceptHb P con packet).csT = packet.sequenceNumber ∧
      (acceptHb P con packet).fifoReceive = con.fifoReceive := by
  have hremove := srRemoveConfirmedMessages_frame P
    (updateConfirmedAttrs (updateConnectionAttrs (srDiagnosticUpdate P
      (srUpdateTimeoutInterval P con packet.confirmedTimestamp) packet) packet) packet)
  unfold acceptHb
  simp only
  split
  · exact ⟨hremove.snR, hremove.csT, hremove.fifoReceive⟩
  · exact ⟨hremove.snR, hremove.csT, hremove.fifoReceive⟩

theorem rejectStartHb_conveys (con : Connection) (packet : RastaPacket) :
    Conveys P ctx con (rejectStartHb P con packet) [] :=
  rejectStartHb_related P (R := fun a b => Conveys P ctx a b [])
    (fun c => (Counted.refl c).conveys) (fun _ _ _ hab hbc => hab.trans hbc)
    (fun c reason => srCloseConnection_conveys c reason 0) con packet

theorem rejectStartHb_untouched (con : Connection) (packet : RastaPacket) :
    ReceiveUntouched con (rejectStartHb P con packet) :=
  rejectStartHb_related P (fun _ => ⟨rfl, rfl, rfl⟩) (fun _ _ _ hab hbc => hab.trans hbc)
    (fun c reason => srCloseConnection_untouched P c reason 0) con packet

theorem enableHeartbeat_same (con : Connection) : SameSender con (enableHeartbeat con) :=
  ⟨rfl, rfl, rfl, rfl, rfl, rfl, rfl, rfl⟩

theorem enableTimeout_same (con : Connection) : SameSender con (enableTimeout con) :=
  ⟨rfl, rfl, rfl, rfl, rfl, rfl, rfl, rfl⟩

theorem establishByHb_same (con : Connection) (packet : RastaPacket) :
    SameSender con (establishByHb con packet) := by
  have hupdated := (updateConnectionAttrs_same con packet).trans (setCsR_same _ packet)
  unfold establishByHb
  simp only
  generalize setCsR (updateConnectionAttrs con packet) packet = updated at hupdated ⊢
  have hstate := setState_same updated (if updated.config.kexMode = .none then .up else .kexReq)
  generalize setState updated (if updated.config.kexMode = .none then .up else .kexReq) = raised
    at hstate ⊢
  have hunlocked : SameSender raised { raised with hbLocked := false } :=
    ⟨rfl, rfl, rfl, rfl, rfl, rfl, rfl, rfl⟩
  have henabled := (hunlocked.trans (enableHeartbeat_same _)).trans (enableTimeout_same _)
  generalize enableTimeout (enableHeartbeat { raised with hbLocked := false }) = enabled
    at henabled ⊢
  have hnew : SameSender enabled { enabled with isNew := true } :=
    ⟨rfl, rfl, rfl, rfl, rfl, rfl, rfl, rfl⟩
  exact ((hupdated.trans hstate).trans henabled).trans hnew

theorem establishByHb_receiver (con : Connection) (packet : RastaPacket)
    (hkex : con.config.kexMode = .none) :
    (establishByHb con packet).currentState = .up ∧
      (establishByHb con packet).snR = packet.sequenceNumber + 1 ∧
      (establishByHb con packet).csT = packet.sequenceNumber ∧
      (establishByHb con packet).fifoReceive = con.fifoReceive := by
  refine ⟨?_, rfl, rfl, rfl⟩
  exact if_pos hkex

theorem superviseConnection_same (con : Connection) (packet : RastaPacket) :
    SameSender con (superviseConnection P con packet) := by
  unfold superviseConnection
  split
  · exact ⟨rfl, rfl, rfl, rfl, rfl, rfl, rfl, rfl⟩
  · have henabled := enableHeartbeat_same con
    generalize enableHeartbeat con = enabled at henabled ⊢
    have hopened : SameSender enabled
        { enabled with
          hbLocked := false
          connectedRecvBufferSize :=
            (extractRastaConnectionData P packet).sendMax.toNat } :=
      ⟨rfl, rfl, rfl, rfl, rfl, rfl, rfl, rfl⟩
    exact (henabled.trans hopened).trans (enableTimeout_same _)

theorem superviseConnection_untouched (con : Connection) (packet : RastaPacket) :
    ReceiveUntouched con (superviseConnection P con packet) := by
  unfold superviseConnection
  split
  · exact ⟨rfl, rfl, rfl⟩
  · exact ⟨rfl, rfl, rfl⟩

theorem startKeyExchange_of_none (hkex : con.config.kexMode = .none) :
    startKeyExchange P con = con := by
  simp [startKeyExchange, hkex]

theorem answerConresp_frame (con : Connection) (packet : RastaPacket) :
    SendFrame (setState (setCsR (updateConnectionAttrs con packet) packet) .up)
      (answerConresp P con packet) :=
  sendHeartbeat_frame P _ true

theorem acceptConresp_eq (hkex : con.config.kexMode = .none) :
    acceptConresp P con packet = superviseConnection P (answerConresp P con packet) packet := by
  have hconfig := congrArg (·.kexMode) (@answerConresp_frame P con packet).config
  rw [acceptConresp, startKeyExchange_of_none (hconfig.trans hkex)]

theorem acceptConresp_conveys (hkex : con.config.kexMode = .none) :
    Conveys P ctx con (acceptConresp P con packet) [] := by
  have hupdated := ((updateConnectionAttrs_same con packet).trans (setCsR_same _ packet)).trans
    (setState_same _ .up)
  have hanswered : Conveys P ctx con (answerConresp P con packet) [] :=
    hupdated.conveys.trans (sendHeartbeat_conveys _ true)
  rw [acceptConresp_eq hkex]
  exact hanswered.trans (superviseConnection_same _ packet).conveys

theorem acceptConresp_receiver (hkex : con.config.kexMode = .none) :
    (acceptConresp P con packet).currentState = .up ∧
      (acceptConresp P con packet).snR = packet.sequenceNumber + 1 ∧
      (acceptConresp P con packet).csT = packet.sequenceNumber ∧
      (acceptConresp P con packet).fifoReceive = con.fifoReceive := by
  have hframe := @answerConresp_frame P con packet
  have hsupervised := @superviseConnection_untouched P (answerConresp P con packet) packet
  have hstate := (superviseConnection_phase P (answerConresp P con packet) packet).1
  rw [acceptConresp_eq hkex]
  exact ⟨hstate.trans hframe.currentState, hsupervised.snR.trans hframe.snR,
    hsupervised.csT.trans hframe.csT, hsupervised.fifoReceive.trans hframe.fifoReceive⟩

/-- A request for retransmission is sent. -/
theorem sendRetransmissionRequest_conveyed (h : Sending P ctx con ds) :
    ∃ out, (sendRetransmissionRequest P con).sent = con.sent ++ out ∧
      (∀ pdu ∈ out, (decodePdu P ctx pdu.innerBytes).type ≠ .connReq) ∧
      requestsOf P ctx (out.map SentPdu.innerBytes) = [con.csT] ∧
      ∃ ds', Conveyed P ctx (sendRetransmissionRequest P con) out [] 0 ds ds' := by
  have hlength := @control_length P ctx con .retrReq (nextHeader con) h.srHashingContext
  obtain ⟨pdu, hsent, hpacket, hbytes, hconveyed⟩ :=
    (h.same (tick_same con)).control rfl hlength rfl
  have hdecoded : decodePdu P ctx pdu.innerBytes = reencoded P
      (initializePacket P .retrReq (nextHeader con) 0 con.srHashingContext) ctx := by
    rw [hbytes, decodePdu_encodePdu P hlength]
  refine ⟨[pdu], hsent, ?_, ?_, _, hconveyed⟩
  · intro sent hmem
    rw [List.mem_singleton.mp hmem, hdecoded]
    nofun
  · simp only [requestsOf, List.map_cons, List.map_nil, hdecoded]
    rfl

theorem numbersUsed_srCloseConnection (con : Connection) (reason : RastaDisconnectReason)
    (details : UInt16) :
    numbersUsed (newlySent con (srCloseConnection P con reason details)) = 0 := by
  unfold srCloseConnection
  split
  · rw [newlySent_eq (srResetConnection_same con |>.sent.trans (List.append_nil _).symm)]
    rfl
  · obtain ⟨discReq, hsent, htype⟩ : ∃ pdu : SentPdu,
        (setState (sendDisconnectionRequest P (srResetConnection con) reason details)
          .closed).sent = con.sent ++ [pdu] ∧ pdu.packet.type = .discReq := ⟨_, rfl, rfl⟩
    rw [newlySent_eq hsent]
    simp [numbersUsed, htype]

/-- The direction in which a request is answered, with the connection first closed if it was
itself waiting for retransmitted packets. -/
theorem answer_sender {closing : Connection} (hsending : Sending P ctx con ds)
    (hinv : Renumbering.Inv ds) (hrange : ds.next < 2 ^ 32)
    (hrequest : ∃ last, ds.requests.head? = some last ∧
      packet.confirmedSequenceNumber = UInt32.ofNat last)
    (hclosing : Conveys P ctx con closing [])
    (hunnumbered : numbersUsed (newlySent con closing) = 0)
    {updated : Connection} (hupdated : SameSender closing updated)
    (hcsR : updated.csR = packet.confirmedSequenceNumber) :
    con.sent <+: (answerRetrreq P updated).sent ∧
      Quiet P ctx (newlySent con (answerRetrreq P updated)) ∧
      ∃ ds', Conveyed P ctx (answerRetrreq P updated)
        (newlySent con (answerRetrreq P updated)) [] 1 ds ds' := by
  obtain ⟨last, hlast, hconfirmed⟩ := hrequest
  obtain ⟨hquiet, d', hd'⟩ := hclosing.2 ds hinv hsending
  have hpending : d'.requests.head? = some last := by rw [hd'.requests, List.drop_zero, hlast]
  have hnext : d'.next ≤ 2 ^ 32 := by rw [hd'.next, hunnumbered]; omega
  have hready := hd'.same hupdated
  obtain ⟨hleads, hquiet', d'', hd''⟩ := answerRetrreq_conveyed (hinv.moves hd'.moves)
    hready.sending hnext hpending (hcsR.trans hconfirmed)
  have hsent := hupdated.sent
  have hleads' : closing.sent <+: (answerRetrreq P updated).sent := hsent ▸ hleads
  have hout : newlySent closing (answerRetrreq P updated) =
      newlySent updated (answerRetrreq P updated) := by
    rw [newlySent, newlySent, hsent]
  rw [newlySent_append hclosing.1 hleads', hout]
  exact ⟨hclosing.1.trans hleads', hquiet.append hquiet', d'', hd'.trans hd''⟩

/-- The parts of `Processed` for an answered request. -/
theorem processed_of_answer (hsent : con.sent <+: after.sent)
    (hquiet : Quiet P ctx (newlySent con after))
    (hsender : ∃ ds', Conveyed P ctx after (newlySent con after) [] 1 ds ds')
    (htype : packet.type = .retrReq) (hqueue : after.fifoReceive = con.fifoReceive)
    {dr' : Direction Bytes} (habsorbed : Absorbed after [] [] rest dr dr') :
    Processed P ctx con after packet rest ds dr := by
  refine ⟨hsent, fun pdu hpdu => (hquiet pdu hpdu).1, ?_, ⟨dr', ?_⟩⟩
  · rw [if_pos htype]
    exact hsender
  · rw [hquiet.requestsOf, newlyAppended_none hqueue]
    exact habsorbed

/-- A request in sequence moves the receiver on in every state that follows the numbers. -/
theorem Receiving.requestInSeq (h : Receiving con dr) (hinv : Renumbering.Inv dr)
    (hflight : dr.flight = pdu :: rest) (hmatch : Matches P packet pdu) (hrange : dr.next < 2 ^ 32)
    (htype : packet.type = .retrReq) (hseq : con.snR = packet.sequenceNumber)
    (hstate : after.currentState =
      if con.currentState = .retrRun then .closed else con.currentState)
    (hsnR : after.snR = packet.sequenceNumber + 1) (hcsT : after.csT = packet.sequenceNumber) :
    ∃ dr', Absorbed after [] [] rest dr dr' := by
  have hkind : pdu.kind = .plain := by rw [← hmatch.kind, htype]; rfl
  -- outside the running states a pending request excludes a PDU in sequence
  have hidle : dr.requests ≠ [] → after.snR = con.snR := by
    intro hrequests
    have hexpected := h.pending hrequests
    have hnumber := (number_eq_expected_iff hinv hflight hmatch hrange hexpected).mp hseq.symm
    obtain ⟨last, hlast⟩ := List.exists_mem_of_ne_nil _ hrequests
    have hfar := (hinv.frozen last hlast).2.2 pdu (hflight ▸ List.mem_cons_self)
    omega
  cases hcon : con.currentState with
  | up =>
    rw [hcon, if_neg (by decide)] at hstate
    exact ⟨_, h.skip hinv hflight hmatch hrange (.inl hcon) (.inr hkind) hseq (.inl hstate) hsnR hcsT⟩
  | retrRun =>
    rw [hcon, if_pos rfl] at hstate
    have hquiet := (hinv.quiet (.inl (h.accepting (.inr hcon)).1)).1
    exact ⟨_, h.leave hflight (.inl hstate) fun hrequests => absurd hquiet hrequests⟩
  | start =>
    rw [hcon, if_neg (by decide)] at hstate
    exact ⟨_, Receiving.greet hinv hflight (h.starting hcon) hkind hstate⟩
  | closed =>
    rw [hcon, if_neg (by decide)] at hstate
    exact ⟨_, h.leave hflight (.inl hstate) hidle⟩
  | down =>
    rw [hcon, if_neg (by decide)] at hstate
    exact ⟨_, h.leave hflight (.inr (.inl hstate)) hidle⟩
  | retrReq =>
    rw [hcon, if_neg (by decide)] at hstate
    exact ⟨_, h.leave hflight (.inr (.inr hstate)) hidle⟩
  | kexReq => exact absurd hcon h.unkeyed.1
  | kexResp => exact absurd hcon h.unkeyed.2.1
  | kexAuth => exact absurd hcon h.unkeyed.2.2

theorem request_processed (hbase : Counted con base)
    (htype : packet.type = .data ∧ (con.currentState = .up ∨ con.currentState = .retrRun) ∨
      packet.type = .retrData ∧ con.currentState = .retrRun)
    (hseq : srSnInSeq con packet = false) (hsending : Sending P ctx con ds)
    (hreceiving : Receiving con dr) (hreceiver : Renumbering.Inv dr) (hrange : dr.next < 2 ^ 32)
    (hflight : dr.flight = pdu :: rest) (hmatch : Matches P packet pdu) :
    Processed P ctx con (setState (sendRetransmissionRequest P base) .retrReq) packet rest ds dr := by
  have hdata : packet.type = .data ∨ packet.type = .retrData := htype.imp And.left And.left
  have hrunning : con.currentState = .up ∨ con.currentState = .retrRun := by
    rcases htype with ⟨-, hstate⟩ | ⟨-, hstate⟩
    · exact hstate
    · exact .inr hstate
  have hnumber : con.snR ≠ packet.sequenceNumber := by
    rcases hdata with h | h <;> simpa [srSnInSeq, h] using hseq
  have hkind : pdu.kind = .data := by
    rw [← hmatch.kind]
    rcases hdata with h | h <;> rw [h] <;> rfl
  have hnone : packet.type ≠ .retrReq := by rcases hdata with h | h <;> rw [h] <;> simp
  have huntouched := hbase.receiveUntouched.trans
    (sendRetransmissionRequest_frame P base).receiveUntouched
  have hraised := setState_same (sendRetransmissionRequest P base) .retrReq
  obtain ⟨out, hsent, hplain, hasked, ds', hds'⟩ :=
    sendRetransmissionRequest_conveyed (hsending.same hbase.same)
  rw [hbase.receiveUntouched.csT] at hasked
  generalize hafter : setState (sendRetransmissionRequest P base) .retrReq = after at hraised ⊢
  have hstate : after.currentState = .retrReq := by rw [← hafter]; rfl
  have hsnR : after.snR = con.snR := by rw [← hafter]; exact huntouched.snR
  have hqueue : after.fifoReceive = con.fifoReceive := by
    rw [← hafter]
    exact huntouched.fifoReceive
  have hout : after.sent = con.sent ++ out := by rw [hraised.sent, hsent, hbase.same.sent]
  obtain ⟨dr', hdr'⟩ := hreceiving.ask hreceiver hflight hmatch hrange hrunning hkind hnumber hstate
    hsnR
  refine ⟨hout ▸ List.prefix_append _ _, ?_, ⟨ds', ?_⟩, ⟨dr', ?_⟩⟩
  · rw [newlySent_eq hout]
    exact hplain
  · rw [newlySent_eq hout, if_neg hnone]
    exact hds'.same hraised
  · rw [newlySent_eq hout, hasked, newlyAppended_none hqueue]
    exact hdr'

theorem answerInSeq_processed (hbase : Counted con base) (htype : packet.type = .retrReq)
    (hseq : srSnInSeq con packet = true) (hsending : Sending P ctx con ds)
    (hsender : Renumbering.Inv ds) (hsenderRange : ds.next < 2 ^ 32)
    (hrequest : ∃ last, ds.requests.head? = some last ∧
      packet.confirmedSequenceNumber = UInt32.ofNat last)
    (hreceiving : Receiving con dr) (hreceiver : Renumbering.Inv dr) (hrange : dr.next < 2 ^ 32)
    (hflight : dr.flight = pdu :: rest) (hmatch : Matches P packet pdu) :
    Processed P ctx con (handleRetrreq P base packet).1 packet rest ds dr := by
  have hnumber : con.snR = packet.sequenceNumber := by simpa [srSnInSeq, htype] using hseq
  have hbranch : srSnInSeq base packet = true := hbase.srSnInSeq.trans hseq
  simp only [handleRetrreq, if_pos hbranch]
  generalize hclosing : (if base.currentState = .retrRun then
    srCloseConnection P base .retrFailed 0 else base) = closing
  have hclosed : Conveys P ctx base closing [] ∧ numbersUsed (newlySent base closing) = 0 ∧
      ReceiveUntouched base closing ∧ closing.currentState =
        if base.currentState = .retrRun then .closed else base.currentState := by
    rw [← hclosing]
    split
    · exact ⟨srCloseConnection_conveys base _ 0, numbersUsed_srCloseConnection base _ 0,
        srCloseConnection_untouched P base _ 0, srCloseConnection_state P base _ 0⟩
    · refine ⟨(Counted.refl base).conveys, ?_, ⟨rfl, rfl, rfl⟩, rfl⟩
      rw [newlySent_eq (List.append_nil _).symm]
      rfl
  obtain ⟨hconveys, hunnumbered, huntouched, hstate⟩ := hclosed
  have hupdated := (updateConnectionAttrs_same closing packet).trans (setCsR_same _ packet)
  have hframe := answerRetrreq_frame P (setCsR (updateConnectionAttrs closing packet) packet)
  have hcounted : numbersUsed (newlySent con closing) = 0 := by
    rw [newlySent, ← hbase.same.sent]
    exact hunnumbered
  obtain ⟨hsent, hquiet, hds'⟩ := answer_sender hsending hsender hsenderRange hrequest
    (hbase.conveys.trans hconveys) hcounted hupdated rfl
  rw [hbase.currentState] at hstate
  obtain ⟨dr', hdr'⟩ := hreceiving.requestInSeq hreceiver hflight hmatch hrange htype hnumber
    (hframe.currentState.trans hstate) hframe.snR hframe.csT
  exact processed_of_answer hsent hquiet hds' htype (hframe.fifoReceive.trans
    (huntouched.fifoReceive.trans hbase.receiveUntouched.fifoReceive)) hdr'

theorem answerOutOfSeq_processed (hbase : Counted con base) (htype : packet.type = .retrReq)
    (hsending : Sending P ctx con ds) (hsender : Renumbering.Inv ds)
    (hsenderRange : ds.next < 2 ^ 32)
    (hrequest : ∃ last, ds.requests.head? = some last ∧
      packet.confirmedSequenceNumber = UInt32.ofNat last)
    (hreceiving : Receiving con dr) (hflight : dr.flight = pdu :: rest) :
    Processed P ctx con (setState (answerRetrreq P (setCsR base packet)) .retrReq) packet rest ds
      dr := by
  have hframe := answerRetrreq_frame P (setCsR base packet)
  have hunnumbered : numbersUsed (newlySent con base) = 0 := by
    rw [newlySent_eq (hbase.same.sent.trans (List.append_nil _).symm)]
    rfl
  obtain ⟨hsent, hquiet, ds', hds'⟩ := answer_sender hsending hsender hsenderRange hrequest
    hbase.conveys hunnumbered (setCsR_same base packet) rfl
  have hraised := setState_same (answerRetrreq P (setCsR base packet)) .retrReq
  have hsnR : (answerRetrreq P (setCsR base packet)).snR = con.snR :=
    hframe.snR.trans hbase.receiveUntouched.snR
  have hqueue : (answerRetrreq P (setCsR base packet)).fifoReceive = con.fifoReceive :=
    hframe.fifoReceive.trans hbase.receiveUntouched.fifoReceive
  generalize answerRetrreq P (setCsR base packet) = answered at hsent hquiet hds' hraised hsnR hqueue ⊢
  exact processed_of_answer hsent hquiet ⟨ds', hds'.same hraised⟩ htype hqueue
    (hreceiving.leave hflight (.inr (.inr rfl)) fun _ => hsnR)

/-- Every branch of `sr_receive` without key exchange is a sequence of moves of both
directions. -/
theorem Received.processed (hreceived : Received P con packet after)
    (hkex : con.config.kexMode = .none) (hopens : packet.type ≠ .connReq)
    (hsending : Sending P ctx con ds) (hsender : Renumbering.Inv ds) (hsenderRange : ds.next < 2 ^ 32)
    (hrequest : packet.type = .retrReq → ∃ last, ds.requests.head? = some last ∧
      packet.confirmedSequenceNumber = UInt32.ofNat last)
    (hreceiving : Receiving con dr) (hreceiver : Renumbering.Inv dr) (hrange : dr.next < 2 ^ 32)
    (hflight : dr.flight = pdu :: rest) (hmatch : Matches P packet pdu) :
    Processed P ctx con after packet rest ds dr := by
  cases hreceived with
  | ignored hbase =>
    have huntouched := hbase.receiveUntouched
    exact hbase.conveys.processed hsender hsending
      (hreceiving.lose hflight hbase.currentState huntouched.snR huntouched.csT)
      (newlyAppended_none huntouched.fifoReceive)
  | @closed base hbase reason =>
    have huntouched := hbase.receiveUntouched.trans (srCloseConnection_untouched P base reason 0)
    have hstate := srCloseConnection_state P base reason 0
    exact (hbase.conveys.trans (srCloseConnection_conveys base reason 0)).processed hsender hsending
      (hreceiving.leave hflight (.inl hstate) fun _ => huntouched.snR)
      (newlyAppended_none huntouched.fifoReceive)
  | @discReq base hbase =>
    have huntouched := hbase.receiveUntouched
    have hsame := (setState_same base .closed).trans (srResetConnection_same _)
    exact (hbase.conveys.trans hsame.conveys).processed hsender hsending
      (hreceiving.leave hflight (.inl rfl) fun _ => huntouched.snR)
      (newlyAppended_none huntouched.fifoReceive)
  | @data base hbase hreach htype hstate hseq =>
    have hnumber : con.snR = packet.sequenceNumber := by simpa [srSnInSeq, htype] using hseq.1
    have hkind : pdu.kind = .data := by rw [← hmatch.kind, htype]; rfl
    obtain ⟨hcsT, hsnR, hqueue⟩ := @acceptData_spec P base packet
    have hafter := (acceptData_phase P base packet).1.trans (hbase.currentState.trans hstate)
    rw [hbase.receiveUntouched.fifoReceive] at hqueue
    exact (hbase.conveys.trans (acceptData_conveys base packet)).processed hsender hsending
      (hreceiving.deliver hreceiver hflight hmatch hrange (.inl hstate) hkind hnumber _
        (.inl hafter) hsnR hcsT)
      (newlyAppended_eq hqueue)
  | @dataDropped base hbase hreach htype hstate hseq =>
    have hnumber : con.snR = packet.sequenceNumber := by simpa [srSnInSeq, htype] using hseq.1
    have hkind : pdu.kind = .data := by rw [← hmatch.kind, htype]; rfl
    have hafter := hbase.currentState.trans hstate
    exact (hbase.conveys.trans (updateConnectionAttrs_same base packet).conveys).processed hsender
      hsending
      (hreceiving.skip hreceiver hflight hmatch hrange (.inr hstate) (.inl hkind) hnumber
        (.inr hafter) rfl rfl)
      (newlyAppended_none hbase.receiveUntouched.fifoReceive)
  | retransmissionRequested hbase _ htype hseq =>
    exact request_processed hbase htype hseq hsending hreceiving hreceiver hrange hflight hmatch
  | @heartbeatGap base hbase =>
    have huntouched := hbase.receiveUntouched
    exact (hbase.conveys.trans (setState_same base .retrReq).conveys).processed hsender hsending
      (hreceiving.leave hflight (.inr (.inr rfl)) fun _ => huntouched.snR)
      (newlyAppended_none huntouched.fifoReceive)
  | retrReqInSeq hbase _ htype hseq =>
    exact answerInSeq_processed hbase htype hseq hsending hsender hsenderRange (hrequest htype)
      hreceiving hreceiver hrange hflight hmatch
  | retrReqOutOfSeq hbase _ htype =>
    exact answerOutOfSeq_processed hbase htype hsending hsender hsenderRange (hrequest htype)
      hreceiving hflight
  | @retrResp base hbase hreach htype hstate =>
    have hkind : pdu.kind = .response := by rw [← hmatch.kind, htype]; rfl
    have hsame := ((setState_same base .retrRun).trans (updateConnectionAttrs_same _ packet)).trans
      (updateConfirmedAttrs_same _ packet)
    exact (hbase.conveys.trans hsame.conveys).processed hsender hsending
      (Receiving.resume hflight hmatch hkind rfl rfl rfl)
      (newlyAppended_none hbase.receiveUntouched.fifoReceive)
  | @retrData base hbase hreach htype hstate hseq =>
    have hnumber : con.snR = packet.sequenceNumber := by simpa [srSnInSeq, htype] using hseq.1
    have hkind : pdu.kind = .data := by rw [← hmatch.kind, htype]; rfl
    have hadded := srAddAppMessagesToBuffer_frame P base packet
    have hqueue := (addAppMessages_fifoReceive P packet (extractMessageData P packet) base).1
    rw [hbase.receiveUntouched.fifoReceive] at hqueue
    have hafter := hadded.currentState.trans (hbase.currentState.trans hstate)
    have hsame := (hadded.same.trans (updateConnectionAttrs_same _ packet)).trans
      (setCsR_same _ packet)
    exact (hbase.conveys.trans hsame.conveys).processed hsender hsending
      (hreceiving.deliver hreceiver hflight hmatch hrange (.inr hstate) hkind hnumber _
        (.inr hafter) rfl rfl)
      (newlyAppended_eq hqueue)
  | @heartbeatStart base hbase hreach htype hstate =>
    have hkind : pdu.kind = .plain := by rw [← hmatch.kind, htype]; rfl
    have huntouched := hbase.receiveUntouched.trans (@rejectStartHb_untouched P base packet)
    have hmode : (rejectStartHb P base packet).config.kexMode = .none := by
      rw [(rejectStartHb_fixed P base packet).config, hbase.config]
      exact hkex
    obtain ⟨hafter, hsnR, hcsT, hqueue⟩ :=
      establishByHb_receiver (rejectStartHb P base packet) packet hmode
    exact ((hbase.conveys.trans (rejectStartHb_conveys base packet)).trans
      (establishByHb_same _ packet).conveys).processed hsender hsending
      (hreceiving.establish hflight hmatch hstate hkind hafter hsnR hcsT)
      (newlyAppended_none (hqueue.trans huntouched.fifoReceive))
  | @heartbeatLate base hbase =>
    have huntouched := (hbase.receiveUntouched.trans (@rejectStartHb_untouched P base packet)).trans
      (srCloseConnection_untouched P _ .protocolError 0)
    have hafter := srCloseConnection_state P (rejectStartHb P base packet) .protocolError 0
    exact ((hbase.conveys.trans (rejectStartHb_conveys base packet)).trans
      (srCloseConnection_conveys _ _ 0)).processed hsender hsending
      (hreceiving.leave hflight (.inl hafter) fun _ => huntouched.snR)
      (newlyAppended_none huntouched.fifoReceive)
  | @heartbeat base hbase hreach htype hstate hseq =>
    have hnumber : con.snR = packet.sequenceNumber := by simpa [srSnInSeq, htype] using hseq.1
    have hkind : pdu.kind = .plain := by rw [← hmatch.kind, htype]; rfl
    have hrunning : con.currentState = .up ∨ con.currentState = .retrRun := by
      obtain ⟨hreq, hresp, hauth⟩ := hreceiving.unkeyed
      rcases hstate with h | h | h | h | h
      · exact .inl h
      · exact .inr h
      · exact absurd h hreq
      · exact absurd h hresp
      · exact absurd h hauth
    obtain ⟨hsnR, hcsT, hqueue⟩ := @acceptHb_receiver P base packet
    have hafter : (acceptHb P base packet).currentState = .up := by
      rw [(acceptHb_phase P base packet).1, hbase.currentState]
      rcases hrunning with h | h <;> rw [h] <;> rfl
    exact (hbase.conveys.trans (acceptHb_conveys base packet)).processed hsender hsending
      (hreceiving.skip hreceiver hflight hmatch hrange hrunning (.inr hkind) hnumber (.inl hafter)
        hsnR hcsT)
      (newlyAppended_none (hqueue.trans hbase.receiveUntouched.fifoReceive))
  | conreqRefused htype => exact absurd htype hopens
  | conreqAccepted haccepted => exact absurd haccepted.1 hopens
  | conrespAccepted haccepted =>
    have hkind : pdu.kind = .plain := by rw [← hmatch.kind, haccepted.1]; rfl
    obtain ⟨hafter, hsnR, hcsT, hqueue⟩ := @acceptConresp_receiver P con packet hkex
    exact (acceptConresp_conveys hkex).processed hsender hsending
      (hreceiving.establish hflight hmatch haccepted.2.1 hkind hafter hsnR hcsT)
      (newlyAppended_none hqueue)
  | @aborted base hbase =>
    have huntouched := hbase.receiveUntouched
    have hsame : SameSender base (abort base) := ⟨rfl, rfl, rfl, rfl, rfl, rfl, rfl, rfl⟩
    exact (hbase.conveys.trans hsame.conveys).processed hsender hsending
      (hreceiving.lose hflight hbase.currentState huntouched.snR huntouched.csT)
      (newlyAppended_none huntouched.fifoReceive)
  | kexRequest _ _ hmode => exact absurd hkex hmode
  | kexResponse _ _ hmode => exact absurd hkex hmode
  | kexAuth _ _ hmode => exact absurd hkex hmode

end Branches

end LibRasta.Retransmission
