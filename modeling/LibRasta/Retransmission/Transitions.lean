/-
Module: LibRasta/Retransmission/Transitions.lean
source: src/c/retransmission/safety_retransmission.c, src/c/retransmission/handlers.c, src/c/experimental/handlers.c
digest: Everything `sr_receive` can do with a packet, as one inductive relation with the guards and the resulting connection of every branch.
-/

import LibRasta.Retransmission.Events

set_option autoImplicit false
set_option relaxedAutoImplicit false

namespace LibRasta.Retransmission

open LibRasta.Util
open LibRasta.Factory

section Dispatch

variable (P : Platform)

/-- The packet reaches its handler. -/
def ReachesHandler (con : Connection) (packet : RastaPacket) : Prop :=
  packet.checksumCorrect = true ∧ srMessageAuthentic con packet = true ∧
    srSnRangeValid con packet = true ∧ srCsValid con packet = true ∧
    (srRekeyingSkipped P con).1 = false

instance (con : Connection) (packet : RastaPacket) :
    Decidable (ReachesHandler P con packet) :=
  inferInstanceAs (Decidable (_ ∧ _))

/-- The handler finds the packet in sequence and in time. -/
def InSequence (con : Connection) (packet : RastaPacket) : Prop :=
  srSnInSeq con packet = true ∧ srCtsInSeq con packet = true

instance (con : Connection) (packet : RastaPacket) : Decidable (InSequence con packet) :=
  inferInstanceAs (Decidable (_ ∧ _))

variable {con : Connection} {packet : RastaPacket}

theorem srRekeyingSkipped_snd (con : Connection) :
    ∃ reads, (srRekeyingSkipped P con).2 = { con with clockReads := reads } := by
  unfold srRekeyingSkipped
  split
  · exact ⟨con.clockReads, rfl⟩
  · exact ⟨con.clockReads + 1, rfl⟩

theorem srReceive_of_reaches (hreq : packet.type ≠ .connReq) (hresp : packet.type ≠ .connResp)
    (h : ReachesHandler P con packet) :
    ∃ reads, srReceive P con packet =
      handleReceivedPacket P { con with clockReads := reads } packet := by
  obtain ⟨hchecksum, hauth, hrange, hcs, hskipped⟩ := h
  obtain ⟨reads, hreads⟩ := srRekeyingSkipped_snd P con
  refine ⟨reads, ?_⟩
  rw [← hreads]
  simp [srReceive, hreq, hresp, hchecksum, hauth, hrange, hcs, hskipped]

end Dispatch

/-- `base` differs from `con` in error counters, clock readings and key exchange data only. -/
def Counted (con base : Connection) : Prop :=
  ∃ reads errors kexState opaqueCalls, base =
    { con with
      clockReads := reads
      errors := errors
      kexState := kexState
      opaqueCalls := opaqueCalls }

/-- The request is one `handle_conreq` answers with a connection response. -/
def ConreqAccepted (P : Platform) (con : Connection) (packet : RastaPacket) : Prop :=
  packet.type = .connReq ∧ (con.currentState = .closed ∨ con.currentState = .down) ∧
    srCheckPacket (prepareServer P con) packet = true ∧
    conreqVersionAccepted P con.config (extractRastaConnectionData P packet).version = true

instance (P : Platform) (con : Connection) (packet : RastaPacket) :
    Decidable (ConreqAccepted P con packet) :=
  inferInstanceAs (Decidable (_ ∧ _))

/-- The response is one `handle_conresp` completes the handshake with. -/
def ConrespAccepted (P : Platform) (con : Connection) (packet : RastaPacket) : Prop :=
  packet.type = .connResp ∧ con.currentState = .start ∧ con.role = .client ∧
    srCheckPacket con packet = true ∧
    versionAccepted P con.config (extractRastaConnectionData P packet).version = true

instance (P : Platform) (con : Connection) (packet : RastaPacket) :
    Decidable (ConrespAccepted P con packet) :=
  inferInstanceAs (Decidable (_ ∧ _))

/-- The branches of `sr_receive`. -/
inductive Received (P : Platform) (con : Connection) (packet : RastaPacket) :
    Connection → Prop
  | ignored {base : Connection} (hbase : Counted con base) : Received P con packet base
  | closed {base : Connection} (hbase : Counted con base) (reason : RastaDisconnectReason) :
      Received P con packet (srCloseConnection P base reason 0)
  | discReq {base : Connection} (hbase : Counted con base)
      (hreach : ReachesHandler P con packet) (htype : packet.type = .discReq) :
      Received P con packet (srResetConnection (setState base .closed))
  | data {base : Connection} (hbase : Counted con base) (hreach : ReachesHandler P con packet)
      (htype : packet.type = .data) (hstate : con.currentState = .up)
      (hseq : InSequence con packet) : Received P con packet (acceptData P base packet)
  | dataDropped {base : Connection} (hbase : Counted con base)
      (hreach : ReachesHandler P con packet) (htype : packet.type = .data)
      (hstate : con.currentState = .retrRun) (hseq : InSequence con packet) :
      Received P con packet (updateConnectionAttrs base packet)
  | retransmissionRequested {base : Connection} (hbase : Counted con base)
      (hreach : ReachesHandler P con packet)
      (htype : packet.type = .data ∧ (con.currentState = .up ∨ con.currentState = .retrRun) ∨
        packet.type = .retrData ∧ con.currentState = .retrRun)
      (hseq : srSnInSeq con packet = false) :
      Received P con packet (setState (sendRetransmissionRequest P base) .retrReq)
  | heartbeatGap {base : Connection} (hbase : Counted con base)
      (hreach : ReachesHandler P con packet) (htype : packet.type = .hb)
      (hstate : con.currentState = .up ∨ con.currentState = .retrRun)
      (hseq : srSnInSeq con packet = false) : Received P con packet (setState base .retrReq)
  | retrReqInSeq {base : Connection} (hbase : Counted con base)
      (hreach : ReachesHandler P con packet) (htype : packet.type = .retrReq)
      (hseq : srSnInSeq con packet = true) :
      Received P con packet (handleRetrreq P base packet).1
  | retrReqOutOfSeq {base : Connection} (hbase : Counted con base)
      (hreach : ReachesHandler P con packet) (htype : packet.type = .retrReq)
      (hseq : srSnInSeq con packet = false) :
      Received P con packet (setState (answerRetrreq P (setCsR base packet)) .retrReq)
  | retrResp {base : Connection} (hbase : Counted con base)
      (hreach : ReachesHandler P con packet) (htype : packet.type = .retrResp)
      (hstate : con.currentState = .retrReq) :
      Received P con packet
        (updateConfirmedAttrs (updateConnectionAttrs (setState base .retrRun) packet) packet)
  | retrData {base : Connection} (hbase : Counted con base)
      (hreach : ReachesHandler P con packet) (htype : packet.type = .retrData)
      (hstate : con.currentState = .retrRun) (hseq : InSequence con packet) :
      Received P con packet
        (setCsR (updateConnectionAttrs (srAddAppMessagesToBuffer P base packet) packet) packet)
  | heartbeatStart {base : Connection} (hbase : Counted con base)
      (hreach : ReachesHandler P con packet) (htype : packet.type = .hb)
      (hstate : con.currentState = .start) (hcts : srCtsInSeq con packet = true) :
      Received P con packet (establishByHb (rejectStartHb P base packet) packet)
  | heartbeatLate {base : Connection} (hbase : Counted con base)
      (hreach : ReachesHandler P con packet) (htype : packet.type = .hb)
      (hstate : con.currentState = .start) :
      Received P con packet
        (srCloseConnection P (rejectStartHb P base packet) .protocolError 0)
  | heartbeat {base : Connection} (hbase : Counted con base)
      (hreach : ReachesHandler P con packet) (htype : packet.type = .hb)
      (hstate : con.currentState = .up ∨ con.currentState = .retrRun ∨
        con.currentState = .kexReq ∨ con.currentState = .kexResp ∨ con.currentState = .kexAuth)
      (hseq : InSequence con packet) : Received P con packet (acceptHb P base packet)
  | conreqRefused (htype : packet.type = .connReq)
      (hstate : con.currentState = .closed ∨ con.currentState = .down)
      (reason : RastaDisconnectReason) :
      Received P con packet (srCloseConnection P (prepareServer P con) reason 0)
  | conreqAccepted (haccepted : ConreqAccepted P con packet) :
      Received P con packet (acceptConreq P (prepareServer P con) packet)
  | conrespAccepted (haccepted : ConrespAccepted P con packet) :
      Received P con packet (acceptConresp P con packet)
  | aborted {base : Connection} (hbase : Counted con base) (henable : P.enableOpaque = true) :
      Received P con packet (abort base)
  | kexRequest {base : Connection} (hbase : Counted con base)
      (hreach : ReachesHandler P con packet) (hmode : con.config.kexMode ≠ .none)
      (hstate : con.currentState = .kexReq ∨ con.currentState = .up)
      (hseq : InSequence con packet) (response : RastaPacket)
      (hresponse : response.type = .kexResponse)
      (hlength : response.length = UInt16.ofNat
        (28 + con.srHashingContext.checksumLen + P.libOpaque.serverSessionLen.toNat))
      (hnumber : response.sequenceNumber = con.snT)
      (hstamps : response.confirmedSequenceNumber = packet.sequenceNumber ∧
        response.confirmedTimestamp = packet.timestamp)
      (htype : packet.type = .kexRequest) :
      Received P con packet
        (setSessionKey (setState (srRemoveConfirmedMessages P
          (updateKexAttrs (incrementSnT (redundancyMuxSend P base response)) packet)) .kexAuth))
  | kexResponse {base : Connection} (hbase : Counted con base)
      (hreach : ReachesHandler P con packet) (hmode : con.config.kexMode ≠ .none)
      (hstate : con.currentState = .kexResp) (hseq : InSequence con packet)
      (response : RastaPacket) (hresponse : response.type = .kexAuthentication)
      (hlength : response.length = UInt16.ofNat
        (28 + con.srHashingContext.checksumLen + P.libOpaque.authLen.toNat))
      (hnumber : response.sequenceNumber = con.snT)
      (hstamps : response.confirmedSequenceNumber = packet.sequenceNumber ∧
        response.confirmedTimestamp = packet.timestamp)
      (htype : packet.type = .kexResponse) :
      Received P con packet
        (setSessionKey (setState (srRemoveConfirmedMessages P
          (updateKexAttrs (incrementSnT (redundancyMuxSend P base response)) packet)) .up))
  | kexAuth {base : Connection} (hbase : Counted con base)
      (hreach : ReachesHandler P con packet) (hmode : con.config.kexMode ≠ .none)
      (hstate : con.currentState = .kexAuth) (hseq : InSequence con packet)
      (htype : packet.type = .kexAuthentication) :
      Received P con packet
        (setState (srRemoveConfirmedMessages P (updateKexAttrs base packet)) .up)

section Inversion

variable (P : Platform) {con base : Connection} {packet : RastaPacket}

theorem Counted.refl (con : Connection) : Counted con con :=
  ⟨con.clockReads, con.errors, con.kexState, con.opaqueCalls, rfl⟩

theorem Counted.trans {a b c : Connection} (hab : Counted a b) (hbc : Counted b c) :
    Counted a c := by
  obtain ⟨_, _, _, _, rfl⟩ := hab
  obtain ⟨_, _, _, _, rfl⟩ := hbc
  exact ⟨_, _, _, _, rfl⟩

theorem counted_reads (con : Connection) (reads : ℕ) :
    Counted con { con with clockReads := reads } :=
  ⟨_, _, _, _, rfl⟩

theorem counted_countCsError (hbase : Counted con base) : Counted con (countCsError base) :=
  hbase.trans ⟨_, _, _, _, rfl⟩

theorem counted_countSnError (hbase : Counted con base) : Counted con (countSnError base) :=
  hbase.trans ⟨_, _, _, _, rfl⟩

theorem counted_countTypeError (hbase : Counted con base) :
    Counted con (countTypeError base) :=
  hbase.trans ⟨_, _, _, _, rfl⟩

theorem Counted.currentState (h : Counted con base) : base.currentState = con.currentState := by
  obtain ⟨_, _, _, _, rfl⟩ := h
  rfl

theorem Counted.config (h : Counted con base) : base.config = con.config := by
  obtain ⟨_, _, _, _, rfl⟩ := h
  rfl

theorem Counted.srHashingContext (h : Counted con base) :
    base.srHashingContext = con.srHashingContext := by
  obtain ⟨_, _, _, _, rfl⟩ := h
  rfl

theorem Counted.snT (h : Counted con base) : base.snT = con.snT := by
  obtain ⟨_, _, _, _, rfl⟩ := h
  rfl

theorem Counted.srSnInSeq (h : Counted con base) :
    srSnInSeq base packet = srSnInSeq con packet := by
  obtain ⟨_, _, _, _, rfl⟩ := h
  rfl

theorem Counted.srCtsInSeq (h : Counted con base) :
    srCtsInSeq base packet = srCtsInSeq con packet := by
  obtain ⟨_, _, _, _, rfl⟩ := h
  rfl

theorem handleData_received (hbase : Counted con base) (hreach : ReachesHandler P con packet)
    (htype : packet.type = .data) : Received P con packet (handleData P base packet).1 := by
  unfold handleData
  rw [hbase.srSnInSeq, hbase.srCtsInSeq, hbase.currentState]
  cases hseq : srSnInSeq con packet with
  | true =>
    simp only [if_true]
    cases hstate : con.currentState with
    | up =>
      cases hcts : srCtsInSeq con packet with
      | true => exact .data hbase hreach htype hstate ⟨hseq, hcts⟩
      | false => exact .closed (counted_countCsError hbase) _
    | retrRun =>
      cases hcts : srCtsInSeq con packet with
      | true => exact .dataDropped hbase hreach htype hstate ⟨hseq, hcts⟩
      | false => exact .closed hbase _
    | start => exact .closed hbase _
    | kexReq => exact .closed hbase _
    | kexResp => exact .closed hbase _
    | kexAuth => exact .closed hbase _
    | closed => exact .ignored hbase
    | down => exact .ignored hbase
    | retrReq => exact .ignored hbase
  | false =>
    simp only [Bool.false_eq_true, if_false]
    cases hstate : con.currentState with
    | start => exact .closed hbase _
    | up =>
      exact .retransmissionRequested (counted_countSnError hbase) hreach
        (.inl ⟨htype, .inl hstate⟩) hseq
    | retrRun =>
      exact .retransmissionRequested (counted_countSnError hbase) hreach
        (.inl ⟨htype, .inr hstate⟩) hseq
    | _ => exact .ignored hbase

theorem handleRetrreq_received (hbase : Counted con base)
    (hreach : ReachesHandler P con packet) (htype : packet.type = .retrReq) :
    Received P con packet (handleRetrreq P base packet).1 := by
  cases hseq : srSnInSeq con packet with
  | true => exact .retrReqInSeq hbase hreach htype hseq
  | false =>
    have hbranch : (handleRetrreq P base packet).1 =
        setState (answerRetrreq P (setCsR base packet)) .retrReq := by
      simp [handleRetrreq, hbase.srSnInSeq, hseq]
    rw [hbranch]
    exact .retrReqOutOfSeq hbase hreach htype hseq

theorem handleRetrresp_received (hbase : Counted con base)
    (hreach : ReachesHandler P con packet) (htype : packet.type = .retrResp) :
    Received P con packet (handleRetrresp P base packet).1 := by
  unfold handleRetrresp
  rw [hbase.currentState]
  split
  · rename_i hstate
    exact .retrResp hbase hreach htype hstate
  · exact .closed hbase _

theorem handleRetrdata_received (hbase : Counted con base)
    (hreach : ReachesHandler P con packet) (htype : packet.type = .retrData) :
    Received P con packet (handleRetrdata P base packet).1 := by
  unfold handleRetrdata
  rw [hbase.srSnInSeq, hbase.srCtsInSeq, hbase.currentState]
  cases hseq : srSnInSeq con packet with
  | true =>
    simp only [if_true]
    cases hstate : con.currentState with
    | up => exact .closed hbase _
    | retrRun =>
      cases hcts : srCtsInSeq con packet with
      | true => exact .retrData hbase hreach htype hstate ⟨hseq, hcts⟩
      | false => exact .closed hbase _
    | _ => exact .ignored hbase
  | false =>
    simp only [Bool.false_eq_true, if_false]
    cases hstate : con.currentState with
    | up => exact .closed hbase _
    | retrRun => exact .retransmissionRequested hbase hreach (.inr ⟨htype, hstate⟩) hseq
    | _ => exact .ignored hbase

/-- Rejecting a heartbeat in START closes the connection at most twice: what holds between a
connection and the closed one holds here too. -/
theorem rejectStartHb_related {R : Connection → Connection → Prop} (hrefl : ∀ c, R c c)
    (htrans : ∀ a b c, R a b → R b c → R a c)
    (hclose : ∀ c reason, R c (srCloseConnection P c reason 0)) (con : Connection)
    (packet : RastaPacket) : R con (rejectStartHb P con packet) := by
  have hsn : R con (rejectHbSn P con packet) := by
    unfold rejectHbSn
    split
    · exact hrefl con
    · split
      · exact hclose con .seqnError
      · exact hclose con .unexpectedType
  unfold rejectStartHb rejectHbRole
  split
  · exact htrans _ _ _ hsn (hclose _ .unexpectedType)
  · exact hsn

/-- Closing does not touch what the time check looks at. -/
theorem srCloseConnection_srCtsInSeq (con : Connection) (reason : RastaDisconnectReason) :
    srCtsInSeq (srCloseConnection P con reason 0) packet = srCtsInSeq con packet := by
  unfold srCloseConnection
  split <;> rfl

theorem rejectStartHb_srCtsInSeq (con : Connection) :
    srCtsInSeq (rejectStartHb P con packet) packet = srCtsInSeq con packet :=
  rejectStartHb_related P (R := fun a b => srCtsInSeq b packet = srCtsInSeq a packet)
    (fun _ => rfl) (fun _ _ _ hab hbc => hbc.trans hab) (srCloseConnection_srCtsInSeq P) con packet

theorem handleHb_received (hbase : Counted con base) (hreach : ReachesHandler P con packet)
    (htype : packet.type = .hb) : Received P con packet (handleHb P base packet).1 := by
  unfold handleHb
  simp only [rejectStartHb_srCtsInSeq]
  rw [hbase.srSnInSeq, hbase.srCtsInSeq, hbase.currentState]
  by_cases hstart : con.currentState = .start
  · rw [if_pos hstart]
    cases hcts : srCtsInSeq con packet with
    | true => exact .heartbeatStart hbase hreach htype hstart hcts
    | false => exact .heartbeatLate hbase hreach htype hstart
  rw [if_neg hstart]
  cases hseq : srSnInSeq con packet with
  | true =>
    simp only [if_true]
    cases hcts : srCtsInSeq con packet with
    | true =>
      cases hstate : con.currentState with
      | up => exact .heartbeat hbase hreach htype (by simp [hstate]) ⟨hseq, hcts⟩
      | retrRun => exact .heartbeat hbase hreach htype (by simp [hstate]) ⟨hseq, hcts⟩
      | kexReq => exact .heartbeat hbase hreach htype (by simp [hstate]) ⟨hseq, hcts⟩
      | kexResp => exact .heartbeat hbase hreach htype (by simp [hstate]) ⟨hseq, hcts⟩
      | kexAuth => exact .heartbeat hbase hreach htype (by simp [hstate]) ⟨hseq, hcts⟩
      | _ => exact .ignored hbase
    | false =>
      cases con.currentState with
      | closed => exact .ignored hbase
      | down => exact .ignored hbase
      | start => exact .ignored hbase
      | retrReq => exact .ignored hbase
      | _ => exact .closed hbase _
  | false =>
    simp only [Bool.false_eq_true, if_false]
    cases hstate : con.currentState with
    | up => exact .heartbeatGap hbase hreach htype (.inl hstate) hseq
    | retrRun => exact .heartbeatGap hbase hreach htype (.inr hstate) hseq
    | _ => exact .ignored hbase

theorem sendKexRequest_cases (con : Connection) :
    sendKexRequest P con = abort con ∨
      ∃ base request, Counted con base ∧ request.type = .kexRequest ∧
        request.length = UInt16.ofNat
          (28 + con.srHashingContext.checksumLen +
            P.libOpaque.userSessionPublicLen.toNat) ∧
        request.sequenceNumber = con.snT ∧
        sendKexRequest P con =
          setState (stampKeyExchange (incrementSnT
            (redundancyMuxSend P (armRekeying base) request))) .kexResp := by
  unfold sendKexRequest
  split
  swap
  · exact .inl rfl
  cases hcreated : createKexRequest P con with
  | none => exact .inl rfl
  | some created =>
    right
    unfold createKexRequest at hcreated
    simp only at hcreated
    split at hcreated
    · cases hcreated
    · obtain rfl := Option.some.inj hcreated
      exact ⟨_, _, ⟨_, _, _, _, rfl⟩, rfl, rfl, rfl, rfl⟩

/-- What neither `send_KexRequest` nor the supervision of a new connection changes. -/
structure ExchangeFrame (before after : Connection) : Prop where
  csR : after.csR = before.csR
  snI : after.snI = before.snI
  fifoReceive : after.fifoReceive = before.fifoReceive

theorem ExchangeFrame.trans {a b c : Connection} (hab : ExchangeFrame a b)
    (hbc : ExchangeFrame b c) : ExchangeFrame a c where
  csR := hbc.csR.trans hab.csR
  snI := hbc.snI.trans hab.snI
  fifoReceive := hbc.fifoReceive.trans hab.fifoReceive

theorem SendFrame.exchangeFrame {before after : Connection} (h : SendFrame before after) :
    ExchangeFrame before after :=
  ⟨h.csR, h.snI, h.fifoReceive⟩

theorem armRekeying_exchangeFrame (con : Connection) : ExchangeFrame con (armRekeying con) := by
  unfold armRekeying
  split
  · exact ⟨rfl, rfl, rfl⟩
  · exact ⟨rfl, rfl, rfl⟩

theorem sendKexRequest_frame (con : Connection) : ExchangeFrame con (sendKexRequest P con) := by
  obtain habort | ⟨base, request, hbase, -, -, -, hsend⟩ := sendKexRequest_cases P con
  · rw [habort]
    exact ⟨rfl, rfl, rfl⟩
  · obtain ⟨_, _, _, _, hcounted⟩ := hbase
    have hbase : ExchangeFrame con base := by
      rw [hcounted]
      exact ⟨rfl, rfl, rfl⟩
    have hsent := (hbase.trans (armRekeying_exchangeFrame base)).trans
      (redundancyMuxSend_frame P (armRekeying base) request).exchangeFrame
    rw [hsend]
    generalize redundancyMuxSend P (armRekeying base) request = sent at hsent ⊢
    exact ⟨hsent.csR, hsent.snI, hsent.fifoReceive⟩

/-- The end of `handle_conresp`. -/
theorem superviseExchange_frame (con : Connection) (packet : RastaPacket) :
    ExchangeFrame con (superviseConnection P (startKeyExchange P con) packet) := by
  have hstarted : ExchangeFrame con (startKeyExchange P con) := by
    unfold startKeyExchange
    split
    · exact sendKexRequest_frame P con
    · exact ⟨rfl, rfl, rfl⟩
  refine hstarted.trans ?_
  unfold superviseConnection
  split
  · exact ⟨rfl, rfl, rfl⟩
  · exact ⟨rfl, rfl, rfl⟩

theorem prepareUserRecord_counted {after : Connection}
    (h : prepareUserRecord P con = some after) : Counted con after := by
  unfold prepareUserRecord at h
  split at h
  · obtain rfl := Option.some.inj h
    exact ⟨_, _, _, _, rfl⟩
  · simp only at h
    split at h
    · cases h
    · obtain rfl := Option.some.inj h
      exact ⟨_, _, _, _, rfl⟩

theorem kexPrepareCredentialResponse_counted {after : Connection} {request : Bytes}
    (h : kexPrepareCredentialResponse P con request = some after) : Counted con after := by
  unfold kexPrepareCredentialResponse at h
  split at h
  · cases h
  · simp only at h
    split at h
    · cases h
    · obtain rfl := Option.some.inj h
      exact ⟨_, _, _, _, rfl⟩

theorem createKexResponse_counted {after : Connection} {response : RastaPacket}
    (h : createKexResponse P con packet = some (response, after)) :
    Counted con after ∧ response.type = .kexResponse ∧
      response.length = UInt16.ofNat
        (28 + con.srHashingContext.checksumLen + P.libOpaque.serverSessionLen.toNat) ∧
      response.sequenceNumber = con.snT ∧
      response.confirmedSequenceNumber = packet.sequenceNumber ∧
      response.confirmedTimestamp = packet.timestamp := by
  simp only [createKexResponse, Option.map_eq_some_iff, Option.bind_eq_some_iff,
    Prod.mk.injEq] at h
  obtain ⟨_, ⟨prepared, hprepared, hcreated⟩, rfl, rfl⟩ := h
  exact ⟨(prepareUserRecord_counted P hprepared).trans
    (kexPrepareCredentialResponse_counted P hcreated), rfl, rfl, rfl, rfl, rfl⟩

theorem kexRecoverCredential_counted (response : Bytes) :
    Counted con (kexRecoverCredential P con response).2 := by
  unfold kexRecoverCredential
  split
  · exact Counted.refl con
  · exact ⟨_, _, _, _, rfl⟩

theorem handleKexRequest_received (hbase : Counted con base)
    (hreach : ReachesHandler P con packet) (henable : P.enableOpaque = true)
    (htype : packet.type = .kexRequest) :
    Received P con packet (handleKexRequest P base packet).1 := by
  unfold handleKexRequest
  rw [hbase.srSnInSeq, hbase.srCtsInSeq, hbase.currentState, hbase.config]
  cases hseq : srSnInSeq con packet with
  | false => exact .closed hbase _
  | true =>
    simp only [if_true]
    split
    · exact .closed hbase _
    rename_i hphase
    cases hcts : srCtsInSeq con packet with
    | false => exact .closed (counted_countCsError hbase) _
    | true =>
      simp only [if_true]
      split
      · exact .closed hbase _
      rename_i hmode
      have hstamped : Counted con (stampKeyExchange base) := hbase.trans ⟨_, _, _, _, rfl⟩
      have hstate : con.currentState = .kexReq ∨ con.currentState = .up := by
        by_contra hnot
        push Not at hnot
        exact hphase ⟨hnot.1, .inr hnot.2⟩
      unfold answerKexRequest
      cases hcreated : createKexResponse P (stampKeyExchange base) packet with
      | none => exact .aborted hstamped henable
      | some created =>
        obtain ⟨hcounted, hresponse, hlength, hnumber, hstamps⟩ :=
          createKexResponse_counted P hcreated
        rw [hstamped.srHashingContext] at hlength
        rw [hstamped.snT] at hnumber
        exact .kexRequest ((hstamped.trans hcounted).trans ⟨_, _, _, _, rfl⟩) hreach hmode
          hstate ⟨hseq, hcts⟩ created.1 hresponse hlength hnumber hstamps htype

theorem handleKexResponse_received (hbase : Counted con base)
    (hreach : ReachesHandler P con packet) (henable : P.enableOpaque = true)
    (htype : packet.type = .kexResponse) :
    Received P con packet (handleKexResponse P base packet).1 := by
  unfold handleKexResponse
  rw [hbase.srSnInSeq, hbase.srCtsInSeq, hbase.currentState, hbase.config]
  cases hseq : srSnInSeq con packet with
  | false => exact .closed hbase _
  | true =>
    simp only [if_true]
    by_cases hstate : con.currentState = .kexResp
    · rw [if_neg (not_not.mpr hstate)]
      cases hcts : srCtsInSeq con packet with
      | false => exact .closed (counted_countCsError hbase) _
      | true =>
        simp only [if_true]
        split
        · exact .closed hbase _
        rename_i hmode
        have hrecovered : Counted con (kexRecoverCredential P base packet.data).2 :=
          hbase.trans (kexRecoverCredential_counted P packet.data)
        split
        · exact .closed hrecovered _
        · refine .kexResponse (hrecovered.trans ⟨_, _, _, _, rfl⟩) hreach hmode hstate
            ⟨hseq, hcts⟩ _ rfl ?_ hrecovered.snT ⟨rfl, rfl⟩ htype
          rw [← hrecovered.srHashingContext]
          rfl
    · rw [if_pos hstate]
      exact .closed hbase _

theorem handleKexAuth_received (hbase : Counted con base)
    (hreach : ReachesHandler P con packet) (henable : P.enableOpaque = true)
    (htype : packet.type = .kexAuthentication) :
    Received P con packet (handleKexAuth P base packet).1 := by
  unfold handleKexAuth
  rw [hbase.srSnInSeq, hbase.srCtsInSeq, hbase.currentState, hbase.config]
  cases hseq : srSnInSeq con packet with
  | false => exact .closed hbase _
  | true =>
    simp only [if_true]
    by_cases hstate : con.currentState = .kexAuth
    · rw [if_neg (not_not.mpr hstate)]
      cases hcts : srCtsInSeq con packet with
      | false => exact .closed (counted_countCsError hbase) _
      | true =>
        simp only [if_true]
        split
        · exact .closed hbase _
        rename_i hmode
        split
        · exact .closed hbase _
        · exact .kexAuth (hbase.trans ⟨_, _, _, _, rfl⟩) hreach hmode hstate ⟨hseq, hcts⟩ htype
    · rw [if_pos hstate]
      exact .closed hbase _

theorem handleReceivedPacket_received (hbase : Counted con base)
    (hreach : ReachesHandler P con packet) :
    Received P con packet (handleReceivedPacket P base packet).1 := by
  unfold handleReceivedPacket
  cases htype : packet.type with
  | retrData => exact handleRetrdata_received P hbase hreach htype
  | data => exact handleData_received P hbase hreach htype
  | retrReq => exact handleRetrreq_received P hbase hreach htype
  | retrResp => exact handleRetrresp_received P hbase hreach htype
  | discReq => exact .discReq hbase hreach htype
  | hb => exact handleHb_received P hbase hreach htype
  | kexRequest =>
    cases henable : P.enableOpaque with
    | true => exact handleKexRequest_received P hbase hreach henable htype
    | false => exact .ignored (counted_countTypeError hbase)
  | kexResponse =>
    cases henable : P.enableOpaque with
    | true => exact handleKexResponse_received P hbase hreach henable htype
    | false => exact .ignored (counted_countTypeError hbase)
  | kexAuthentication =>
    cases henable : P.enableOpaque with
    | true => exact handleKexAuth_received P hbase hreach henable htype
    | false => exact .ignored (counted_countTypeError hbase)
  | connReq => exact .ignored (counted_countTypeError hbase)
  | connResp => exact .ignored (counted_countTypeError hbase)
  | other code unknown => exact .ignored (counted_countTypeError hbase)

theorem prepareServer_config (con : Connection) : (prepareServer P con).config = con.config := by
  unfold prepareServer srInitConnection
  cases P.enableOpaque <;> rfl

theorem handleConreq_received (htype : packet.type = .connReq) :
    Received P con packet (handleConreq P con packet) := by
  unfold handleConreq
  split
  · rename_i hstate
    simp only [prepareServer_config]
    split
    · rename_i hcheck
      split
      · rename_i hversion
        exact .conreqAccepted ⟨htype, hstate, hcheck, hversion⟩
      · exact .conreqRefused htype hstate _
    · exact .conreqRefused htype hstate _
  · exact .closed (Counted.refl con) _

theorem handleConresp_received (htype : packet.type = .connResp) :
    Received P con packet (handleConresp P con packet) := by
  unfold handleConresp
  split
  swap
  · exact .closed (Counted.refl con) _
  rename_i hcheck
  cases hstate : con.currentState with
  | start =>
    simp only
    split
    · rename_i hrole
      split
      · rename_i hversion
        exact .conrespAccepted ⟨htype, hstate, hrole, hcheck, hversion⟩
      · exact .closed (Counted.refl con) _
    · exact .closed (Counted.refl con) _
  | retrReq => exact .closed (Counted.refl con) _
  | retrRun => exact .closed (Counted.refl con) _
  | up => exact .closed (Counted.refl con) _
  | _ => exact .ignored (Counted.refl con)

/-- `sr_receive` takes one of the branches. -/
theorem srReceive_received (con : Connection) (packet : RastaPacket) :
    Received P con packet (srReceive P con packet).1 := by
  by_cases hreq : packet.type = .connReq
  · rw [srReceive, if_pos hreq]
    exact handleConreq_received P hreq
  by_cases hresp : packet.type = .connResp
  · rw [srReceive, if_neg hreq, if_pos hresp]
    exact handleConresp_received P hresp
  by_cases hreach : ReachesHandler P con packet
  · obtain ⟨reads, hreceive⟩ := srReceive_of_reaches P hreq hresp hreach
    rw [hreceive]
    exact handleReceivedPacket_received P (counted_reads con reads) hreach
  rw [srReceive, if_neg hreq, if_neg hresp]
  split
  · exact .ignored ⟨_, _, _, _, rfl⟩
  split
  · exact .ignored ⟨_, _, _, _, rfl⟩
  split
  · exact .ignored (counted_countSnError (Counted.refl con))
  split
  · exact .ignored (counted_countCsError (Counted.refl con))
  rename_i hchecksum hauth hrange hcs
  simp only [Bool.not_eq_false] at hchecksum hauth hrange hcs
  have hskipped : (srRekeyingSkipped P con).1 = true := by
    by_contra hnot
    exact hreach ⟨hchecksum, hauth, hrange, hcs, by simpa using hnot⟩
  obtain ⟨reads, hreads⟩ := srRekeyingSkipped_snd P con
  simp only [hskipped, if_true, hreads]
  exact .closed ((counted_reads con reads).trans ⟨_, _, _, _, rfl⟩) _

end Inversion

end LibRasta.Retransmission
