/-
Module: LibRasta/Retransmission/Acknowledgement.lean
source: src/c/retransmission/safety_retransmission.c, src/c/retransmission/handlers.c, src/c/experimental/handlers.c
digest: Whatever the peer sends, it confirms only what was sent: the confirmed number stays below the next number, and both only move forward.
-/

import LibRasta.Retransmission.Confirmation

set_option autoImplicit false
set_option relaxedAutoImplicit false

namespace LibRasta.Retransmission

open LibRasta.Lib
open LibRasta.Util
open LibRasta.Factory

/-- The step sets `sn_t` to the initial sequence number: `sr_connect` with a transport, or a
connection request in CLOSED or DOWN. -/
def Reinitialises (con : Connection) : Event → Prop
  | .connect transportOk => transportOk = true ∧ Connectable con
  | .receive packet => ConreqTaken con packet
  | _ => False

instance (con : Connection) (event : Event) : Decidable (Reinitialises con event) :=
  match event with
  | .connect transportOk => inferInstanceAs (Decidable (transportOk = true ∧ Connectable con))
  | .receive packet => inferInstanceAs (Decidable (ConreqTaken con packet))
  | .dataSend | .heartbeat | .connectionExpired | .timedKeyExchange | .send _ | .connectReturn
  | .disconnect | .transportClosed | .recv | .accept | .acceptReturn =>
    inferInstanceAs (Decidable False)

section Confirmed

variable {P : Platform} {con after : Connection} {packet : RastaPacket}

theorem srCloseConnection_csR (con : Connection) (reason : RastaDisconnectReason)
    (details : UInt16) : (srCloseConnection P con reason details).csR = con.csR := by
  unfold srCloseConnection
  split
  · rfl
  · rfl

theorem rejectStartHb_csR (con : Connection) (packet : RastaPacket) :
    (rejectStartHb P con packet).csR = con.csR :=
  rejectStartHb_related P (R := fun a b => b.csR = a.csR) (fun _ => rfl)
    (fun _ _ _ hab hbc => hbc.trans hab) (fun c reason => srCloseConnection_csR c reason 0) con packet

theorem Counted.csR (h : Counted con after) : after.csR = con.csR := by
  obtain ⟨_, _, _, _, rfl⟩ := h
  rfl

theorem acceptConresp_csR (con : Connection) (packet : RastaPacket) :
    (acceptConresp P con packet).csR = packet.confirmedSequenceNumber := by
  have hanswer : (answerConresp P con packet).csR = packet.confirmedSequenceNumber :=
    (sendHeartbeat_frame P _ true).csR
  exact (superviseExchange_frame P _ packet).csR.trans hanswer

theorem acceptHb_csR (con : Connection) (packet : RastaPacket) :
    (acceptHb P con packet).csR = packet.confirmedSequenceNumber := by
  have hremoved := (srRemoveConfirmedMessages_frame P (updateConfirmedAttrs (updateConnectionAttrs
    (srDiagnosticUpdate P (srUpdateTimeoutInterval P con packet.confirmedTimestamp) packet) packet)
    packet)).csR
  unfold acceptHb
  simp only
  split
  · exact hremoved
  · exact hremoved

/-- The packet passed the general branch of `sr_cs_valid`. -/
def CsChecked (con : Connection) (packet : RastaPacket) : Prop :=
  packet.type ≠ .connReq ∧ packet.type ≠ .connResp ∧ srCsValid con packet = true

theorem ReachesHandler.csChecked (h : ReachesHandler P con packet) {type : RastaConnType}
    (htype : packet.type = type) (hreq : type ≠ .connReq) (hresp : type ≠ .connResp) :
    CsChecked con packet :=
  ⟨htype ▸ hreq, htype ▸ hresp, h.2.2.2.1⟩

/-- `cs_r` is written with the number the packet confirms, and only behind `sr_cs_valid`. -/
theorem Received.csR_eq (h : Received P con packet after) (hno : ¬ ConreqTaken con packet) :
    after.csR = con.csR ∨
      after.csR = packet.confirmedSequenceNumber ∧
        (CsChecked con packet ∨ ConrespAccepted P con packet) := by
  cases h with
  | ignored hbase => exact .inl hbase.csR
  | closed hbase reason => exact .inl ((srCloseConnection_csR _ _ _).trans hbase.csR)
  | discReq hbase => exact .inl hbase.csR
  | @data base hbase hreach htype =>
    exact .inr ⟨(srRemoveConfirmedMessages_frame P (updateConfirmedAttrs (updateConnectionAttrs
      (srAddAppMessagesToBuffer P base packet) packet) packet)).csR,
      .inl (hreach.csChecked htype (by simp) (by simp))⟩
  | dataDropped hbase => exact .inl hbase.csR
  | @retransmissionRequested base hbase =>
    exact .inl ((sendRetransmissionRequest_frame P base).csR.trans hbase.csR)
  | heartbeatGap hbase => exact .inl hbase.csR
  | @retrReqInSeq base hbase hreach htype hseq =>
    have hinSeq : srSnInSeq base packet = true := hbase.srSnInSeq.trans hseq
    have hafter : (handleRetrreq P base packet).1.csR = packet.confirmedSequenceNumber := by
      simp only [handleRetrreq, hinSeq, if_true]
      exact (answerRetrreq_frame P _).csR
    exact .inr ⟨hafter, .inl (hreach.csChecked htype (by simp) (by simp))⟩
  | @retrReqOutOfSeq base hbase hreach htype =>
    exact .inr ⟨(answerRetrreq_frame P (setCsR base packet)).csR,
      .inl (hreach.csChecked htype (by simp) (by simp))⟩
  | retrResp hbase hreach htype => exact .inr ⟨rfl, .inl (hreach.csChecked htype (by simp) (by simp))⟩
  | retrData hbase hreach htype => exact .inr ⟨rfl, .inl (hreach.csChecked htype (by simp) (by simp))⟩
  | @heartbeatStart base hbase hreach htype =>
    generalize rejectStartHb P base packet = rejected
    exact .inr ⟨rfl, .inl (hreach.csChecked htype (by simp) (by simp))⟩
  | @heartbeatLate base hbase =>
    exact .inl (((srCloseConnection_csR _ _ _).trans (rejectStartHb_csR base packet)).trans
      hbase.csR)
  | heartbeat hbase hreach htype =>
    exact .inr ⟨acceptHb_csR _ packet, .inl (hreach.csChecked htype (by simp) (by simp))⟩
  | conreqRefused htype hstate => exact absurd ⟨htype, hstate⟩ hno
  | conreqAccepted haccepted => exact absurd ⟨haccepted.1, haccepted.2.1⟩ hno
  | conrespAccepted haccepted => exact .inr ⟨acceptConresp_csR con packet, .inr haccepted⟩
  | aborted hbase => exact .inl hbase.csR
  | @kexRequest base hbase hreach _ _ _ response _ _ _ _ htype =>
    exact .inr ⟨(srRemoveConfirmedMessages_frame P (updateKexAttrs (incrementSnT
      (redundancyMuxSend P base response)) packet)).csR,
      .inl (hreach.csChecked htype (by simp) (by simp))⟩
  | @kexResponse base hbase hreach _ _ _ response _ _ _ _ htype =>
    exact .inr ⟨(srRemoveConfirmedMessages_frame P (updateKexAttrs (incrementSnT
      (redundancyMuxSend P base response)) packet)).csR,
      .inl (hreach.csChecked htype (by simp) (by simp))⟩
  | @kexAuth base hbase hreach _ _ _ htype =>
    exact .inr ⟨(srRemoveConfirmedMessages_frame P (updateKexAttrs base packet)).csR,
      .inl (hreach.csChecked htype (by simp) (by simp))⟩

end Confirmed

section Numbers

variable {P : Platform} {con after : Connection} {packet : RastaPacket} {event : Event}

/-- How the numbers of a connection move in a step: `sn_t` by what was sent, and `sn_r` together
with `cs_t`. -/
structure Advances (before after : Connection) : Prop where
  output : ∃ out, after.sent = before.sent ++ out ∧
    after.snT = before.snT + UInt32.ofNat (numbersUsed out)
  received : after.snR = before.snR ∧ after.csT = before.csT ∨ after.snR = after.csT + 1
  role : after.role = before.role
  start : after.currentState = .start → before.currentState = .start

theorem Repeats.advances (h : Repeats con after) : Advances con after := by
  obtain ⟨out, hsent, -, hsnT⟩ := h.sends.output
  exact ⟨⟨out, hsent, hsnT⟩, .inl ⟨h.snR, h.csT⟩, h.sends.role, h.sends.start⟩

theorem Absorbs.advances (h : Absorbs packet con after) : Advances con after := by
  obtain ⟨out, hsent, -, hsnT⟩ := h.sends.output
  exact ⟨⟨out, hsent, hsnT⟩, .inr (by rw [h.snR, h.csT]), h.sends.role, h.sends.start⟩

theorem Advances.trans {a b c : Connection} (hab : Advances a b) (hbc : Advances b c) :
    Advances a c := by
  obtain ⟨first, hfirst, hfirstSnT⟩ := hab.output
  obtain ⟨second, hsecond, hsecondSnT⟩ := hbc.output
  refine ⟨⟨first ++ second, ?_, ?_⟩, ?_, hbc.role.trans hab.role,
    fun h => hab.start (hbc.start h)⟩
  · rw [hsecond, hfirst, List.append_assoc]
  · rw [hsecondSnT, hfirstSnT, numbersUsed_append, UInt32.ofNat_add, UInt32.add_assoc]
  · rcases hbc.received with ⟨hsnR, hcsT⟩ | hnext
    · rw [hsnR, hcsT]
      exact hab.received
    · exact .inr hnext

theorem endpointStep_advances (hno : ¬ Reinitialises con event) :
    Advances con (endpointStep P con event) := by
  cases haborted : con.aborted with
  | true =>
    have hsame : endpointStep P con event = con := by simp [endpointStep, haborted]
    rw [hsame]
    exact (Repeats.refl con).advances
  | false =>
    cases event with
    | receive packet =>
      have hafter : endpointStep P con (.receive packet) = (srReceive P con packet).1 := by
        simp [endpointStep, haborted]
      have hconreq : ¬ ConreqAccepted P con packet := fun h => hno ⟨h.1, h.2.1⟩
      rw [hafter]
      by_cases haccepts : AcceptsAttributes P con packet
      · exact (acceptancePoint_repeats con packet).advances.trans
          (srReceive_absorbs haccepts hconreq).advances
      · exact (srReceive_repeats haccepts hno).advances
    | connect transportOk =>
      apply Repeats.advances
      exact endpointStep_repeats (by simp) hno
    | _ =>
      apply Repeats.advances
      exact endpointStep_repeats (by simp) id

/-- What `sr_cs_valid` lets through lies between `cs_r` and `sn_t`. -/
theorem CsChecked.bounds (h : CsChecked con packet) (hbelow : con.csR < con.snT) :
    con.csR ≤ packet.confirmedSequenceNumber ∧ packet.confirmedSequenceNumber < con.snT := by
  obtain ⟨hreq, hresp, hvalid⟩ := h
  rw [srCsValid, if_neg hreq, if_neg hresp] at hvalid
  simp only [ge_iff_le, Bool.and_eq_true, decide_eq_true_eq, UInt32.le_iff_toNat_le,
    UInt32.lt_iff_toNat_lt, UInt32.toNat_sub] at hvalid hbelow ⊢
  have := con.snT.toNat_lt
  have := con.csR.toNat_lt
  have := packet.confirmedSequenceNumber.toNat_lt
  omega

/-- The handshake is over, and the peer has confirmed nothing that was not sent. -/
structure Settled (con : Connection) : Prop where
  below : con.csR < con.snT
  next : con.snR = con.csT + 1
  opened : ¬ (con.currentState = .start ∧ con.role = .client)

/-- Timers and calls of the application leave `cs_r` alone. -/
theorem endpointStep_csR (hown : ∀ packet, event ≠ .receive packet)
    (hno : ¬ Reinitialises con event) : (endpointStep P con event).csR = con.csR := by
  unfold endpointStep
  split
  · rfl
  cases event with
  | receive packet => exact absurd rfl (hown packet)
  | dataSend =>
    simp only
    split
    · exact (dataSendEvent_frame P con).csR
    · rfl
  | heartbeat =>
    simp only
    split
    · unfold heartbeatSendEvent
      split
      · rfl
      · split
        · exact (sendHeartbeat_frame P con false).csR
        · rfl
    · rfl
  | connectionExpired =>
    simp only
    split
    · unfold eventConnectionExpired
      split
      · rfl
      · split
        · exact srCloseConnection_csR con .timeout 0
        · rfl
    · rfl
  | timedKeyExchange =>
    simp only
    split
    · unfold sendTimedKeyExchange
      split
      · unfold rescheduleRekeying
        split
        · exact (sendKexRequest_frame P con).csR
        · exact (sendKexRequest_frame P con).csR
      · rfl
    · rfl
  | send appMessages =>
    simp only [srSend]
    split
    · split
      · rfl
      · exact (sendMessages_frame P appMessages con).csR
    · rfl
    · rfl
    all_goals exact (sendDisconnectionRequest_frame P con .serviceNotAllowed 0).csR
  | connect transportOk =>
    simp only [srConnect]
    split
    · rename_i hconnectable
      split
      · rename_i hok
        exact absurd ⟨hok, hconnectable⟩ hno
      · rfl
    · rfl
  | connectReturn => rfl
  | disconnect => exact srCloseConnection_csR con .userRequest 0
  | transportClosed => rfl
  | recv =>
    simp only [rastaRecv]
    split
    · rfl
    · rfl
  | accept => rfl
  | acceptReturn => rfl

/-- A step confirms between `cs_r` and `sn_t`. -/
theorem Settled.csR_bounds (hsettled : Settled con) (hno : ¬ Reinitialises con event) :
    con.csR ≤ (endpointStep P con event).csR ∧ (endpointStep P con event).csR < con.snT := by
  have hkept : ∀ {csR : UInt32}, csR = con.csR → con.csR ≤ csR ∧ csR < con.snT := by
    rintro _ rfl
    exact ⟨UInt32.le_refl _, hsettled.below⟩
  cases haborted : con.aborted with
  | true =>
    have hsame : endpointStep P con event = con := by simp [endpointStep, haborted]
    exact hkept (by rw [hsame])
  | false =>
    cases event with
    | receive packet =>
      have hafter : endpointStep P con (.receive packet) = (srReceive P con packet).1 := by
        simp [endpointStep, haborted]
      rw [hafter]
      rcases (srReceive_received P con packet).csR_eq hno with
        hsame | ⟨hcsR, hchecked | ⟨-, hstate, hrole, -⟩⟩
      · exact hkept hsame
      · rw [hcsR]
        exact hchecked.bounds hsettled.below
      · exact absurd ⟨hstate, hrole⟩ hsettled.opened
    | _ => exact hkept (endpointStep_csR (by simp) hno)

end Numbers

section Runs

variable (P : Platform) {origin con : Connection} {event : Event}

/-- The connection in a session that was started from `origin`: `sn_t` tells how many numbers
were used since then. -/
structure SinceStart (origin con : Connection) : Prop where
  sent : origin.sent <+: con.sent
  snT : con.snT = origin.config.initialSequenceNumber +
    UInt32.ofNat (numbersUsed (newlySent origin con))

/-- The session has not run out of sequence numbers. -/
def NumbersLeft (origin con : Connection) : Prop :=
  origin.config.initialSequenceNumber.toNat + numbersUsed (newlySent origin con) < 2 ^ 32

instance (origin con : Connection) : Decidable (NumbersLeft origin con) :=
  inferInstanceAs (Decidable (_ < _))

theorem SinceStart.toNat_snT (h : SinceStart origin con) (hleft : NumbersLeft origin con) :
    con.snT.toNat =
      origin.config.initialSequenceNumber.toNat + numbersUsed (newlySent origin con) := by
  unfold NumbersLeft at hleft
  rw [h.snT, UInt32.toNat_add, UInt32.toNat_ofNat']
  omega

variable {P}

theorem SinceStart.step (h : SinceStart origin con) (hno : ¬ Reinitialises con event) :
    SinceStart origin (endpointStep P con event) ∧
      numbersUsed (newlySent origin con) ≤
        numbersUsed (newlySent origin (endpointStep P con event)) := by
  obtain ⟨out, hsent, hsnT⟩ := (@endpointStep_advances P con event hno).output
  have hmore : con.sent <+: (endpointStep P con event).sent := ⟨out, hsent.symm⟩
  have hused : numbersUsed (newlySent origin (endpointStep P con event)) =
      numbersUsed (newlySent origin con) + numbersUsed out := by
    rw [newlySent_append h.sent hmore, numbersUsed_append, newlySent_eq hsent]
  refine ⟨⟨h.sent.trans hmore, ?_⟩, by omega⟩
  rw [hsnT, h.snT, hused, UInt32.ofNat_add, UInt32.add_assoc]

theorem SinceStart.run {events : List Event} (h : SinceStart origin con)
    (hno : RunOk (endpointStep P) (fun con event => ¬ Reinitialises con event) con events) :
    SinceStart origin (run (endpointStep P) con events) ∧
      numbersUsed (newlySent origin con) ≤
        numbersUsed (newlySent origin (Lib.run (endpointStep P) con events)) := by
  induction events generalizing con with
  | nil => exact ⟨h, le_refl _⟩
  | cons event rest ih =>
    obtain ⟨hfirst, hrest⟩ := (runOk_cons (endpointStep P)).mp hno
    obtain ⟨hnext, hle⟩ := @SinceStart.step P origin con event h hfirst
    obtain ⟨hend, hend_le⟩ := ih hnext hrest
    exact ⟨hend, hle.trans hend_le⟩

/-- One step of a settled connection. -/
theorem Settled.step (hsettled : Settled con) (hsince : SinceStart origin con)
    (hno : ¬ Reinitialises con event) (hleft : NumbersLeft origin (endpointStep P con event)) :
    Settled (endpointStep P con event) ∧ con.csR ≤ (endpointStep P con event).csR ∧
      con.snT ≤ (endpointStep P con event).snT := by
  have hadvances := @endpointStep_advances P con event hno
  obtain ⟨hcsR, hbelow⟩ := @Settled.csR_bounds P con event hsettled hno
  obtain ⟨hafter, hused⟩ := @SinceStart.step P origin con event hsince hno
  have hsnT : con.snT ≤ (endpointStep P con event).snT := by
    have hbefore : NumbersLeft origin con := by
      unfold NumbersLeft at hleft ⊢
      omega
    rw [UInt32.le_iff_toNat_le, hsince.toNat_snT hbefore, hafter.toNat_snT hleft]
    omega
  refine ⟨⟨UInt32.lt_of_lt_of_le hbelow hsnT, ?_, ?_⟩, hcsR, hsnT⟩
  · rcases hadvances.received with ⟨hsnR, hcsT⟩ | hnext
    · rw [hsnR, hcsT]
      exact hsettled.next
    · exact hnext
  · rintro ⟨hstate, hrole⟩
    exact hsettled.opened ⟨hadvances.start hstate, hadvances.role.symm.trans hrole⟩

theorem Settled.run {events : List Event} (hsettled : Settled con)
    (hsince : SinceStart origin con)
    (hno : RunOk (endpointStep P) (fun con event => ¬ Reinitialises con event) con events)
    (hleft : NumbersLeft origin (run (endpointStep P) con events)) :
    Settled (Lib.run (endpointStep P) con events) ∧
      con.csR ≤ (Lib.run (endpointStep P) con events).csR ∧
      con.snT ≤ (Lib.run (endpointStep P) con events).snT := by
  induction events generalizing con with
  | nil => exact ⟨hsettled, UInt32.le_refl _, UInt32.le_refl _⟩
  | cons event rest ih =>
    obtain ⟨hfirst, hrest⟩ := (runOk_cons (endpointStep P)).mp hno
    obtain ⟨hnext, -⟩ := @SinceStart.step P origin con event hsince hfirst
    obtain ⟨-, hused⟩ := hnext.run hrest
    have hleftNext : NumbersLeft origin (endpointStep P con event) := by
      unfold NumbersLeft at hleft ⊢
      rw [run_cons] at hleft
      omega
    obtain ⟨hstep, hcsR, hsnT⟩ := hsettled.step hsince hfirst hleftNext
    obtain ⟨hend, hendCsR, hendSnT⟩ := ih hstep hnext hrest hleft
    exact ⟨hend, UInt32.le_trans hcsR hendCsR, UInt32.le_trans hsnT hendSnT⟩

/-- The first PDU of a session uses the initial sequence number. -/
theorem startsSession_sinceStart {start : Event} (hrunning : con.aborted = false)
    (hstart : StartsSession P con start) :
    SinceStart con (endpointStep P con start) ∧
      numbersUsed (newlySent con (endpointStep P con start)) = 1 := by
  obtain ⟨first, hsent, -, htype, hsnT⟩ := startsSession_first P con start hrunning hstart
  have hused : numbersUsed (newlySent con (endpointStep P con start)) = 1 := by
    rw [newlySent_eq hsent]
    simp [numbersUsed, htype]
  refine ⟨⟨⟨[first], hsent.symm⟩, ?_⟩, hused⟩
  rw [hused]
  exact hsnT

theorem acceptConreq_settles (con : Connection) (packet : RastaPacket) :
    (acceptConreq P con packet).csR = packet.confirmedSequenceNumber ∧
      (acceptConreq P con packet).snR = (acceptConreq P con packet).csT + 1 ∧
      (acceptConreq P con packet).role = con.role := by
  unfold acceptConreq
  dsimp only [redundancyMuxSend, setState, incrementSnT, tick]
  exact ⟨rfl, rfl, rfl⟩

/-- The accepting `handle_conreq` settles the connection: a request confirms the number 0. -/
theorem settled_of_conreq {request : RastaPacket} (hrunning : con.aborted = false)
    (haccepted : ConreqAccepted P con request)
    (hleft : NumbersLeft con (endpointStep P con (.receive request))) :
    Settled (endpointStep P con (.receive request)) := by
  obtain ⟨hsince, hused⟩ := @startsSession_sinceStart P con (.receive request) hrunning haccepted
  have hsnT := hsince.toNat_snT hleft
  have hafter : endpointStep P con (.receive request) =
      acceptConreq P (prepareServer P con) request := by
    simp [endpointStep, hrunning, srReceive, haccepted.1, handleConreq_of_accepted P haccepted]
  obtain ⟨hcsR, hnext, hrole⟩ := @acceptConreq_settles P (prepareServer P con) request
  have hzero : request.confirmedSequenceNumber = 0 := by
    obtain ⟨htype, -, hcheck, -⟩ := haccepted
    simp only [srCheckPacket, Bool.and_eq_true, srCsValid, htype, if_true,
      decide_eq_true_eq] at hcheck
    exact hcheck.1.1.2
  rw [hafter] at hsnT hused ⊢
  refine ⟨?_, hnext, ?_⟩
  · rw [hcsR, hzero, UInt32.lt_iff_toNat_lt, hsnT, hused]
    exact Nat.succ_pos _
  · rintro ⟨-, hclient⟩
    rw [hrole, prepareServer_role] at hclient
    cases hclient

theorem acceptConresp_state_ne (con : Connection) (packet : RastaPacket) :
    (acceptConresp P con packet).currentState ≠ .start := by
  have hanswer : (answerConresp P con packet).currentState = .up :=
    (sendHeartbeat_frame P _ true).currentState
  have hstarted : (startKeyExchange P (answerConresp P con packet)).currentState ≠ .start := by
    unfold startKeyExchange
    split
    · obtain habort | ⟨_, _, -, -, -, -, hsend⟩ :=
        sendKexRequest_cases P (answerConresp P con packet)
      · rw [habort]
        simp [abort, hanswer]
      · rw [hsend]
        nofun
    · simp [hanswer]
  unfold acceptConresp superviseConnection
  split
  · exact hstarted
  · exact hstarted

/-- The accepting `handle_conresp` settles the connection: the response confirms the last number
that was used. -/
theorem settled_of_conresp {packet : RastaPacket} (hrunning : con.aborted = false)
    (haccepted : ConrespAccepted P con packet) (hsince : SinceStart origin con)
    (hused : 1 ≤ numbersUsed (newlySent origin con))
    (hleft : NumbersLeft origin (endpointStep P con (.receive packet))) :
    Settled (endpointStep P con (.receive packet)) := by
  have hafter : endpointStep P con (.receive packet) = acceptConresp P con packet := by
    obtain ⟨htype, hstate, hrole, hcheck, hversion⟩ := haccepted
    simp [endpointStep, hrunning, srReceive, handleConresp, htype, hstate, hrole, hcheck, hversion]
  have hno : ¬ Reinitialises con (.receive packet) := by
    rintro ⟨htype, -⟩
    exact absurd (htype.symm.trans haccepted.1) (by simp)
  obtain ⟨hnext, hmore⟩ := @SinceStart.step P origin con (.receive packet) hsince hno
  have hleftBefore : NumbersLeft origin con := by
    unfold NumbersLeft at hleft ⊢
    omega
  have hconfirmed : packet.confirmedSequenceNumber = con.snT - 1 := by
    obtain ⟨htype, -, -, hcheck, -⟩ := haccepted
    simp only [srCheckPacket, Bool.and_eq_true, srCsValid, htype, reduceCtorEq, if_false, if_true,
      decide_eq_true_eq] at hcheck
    exact hcheck.1.1.2
  have hbefore := hsince.toNat_snT hleftBefore
  have hlater := hnext.toNat_snT hleft
  have habsorbs := @acceptConresp_absorbs P con packet
  rw [hafter] at hlater hmore ⊢
  refine ⟨?_, by rw [habsorbs.snR, habsorbs.csT], fun h => acceptConresp_state_ne con packet h.1⟩
  have hone : (1 : UInt32) ≤ con.snT := by
    rw [UInt32.le_iff_toNat_le, hbefore]
    exact hused.trans (Nat.le_add_left _ _)
  rw [acceptConresp_csR, hconfirmed, UInt32.lt_iff_toNat_lt, UInt32.toNat_sub_of_le _ _ hone,
    hlater, hbefore]
  have hpositive : (1 : UInt32).toNat = 1 := rfl
  omega

variable (P)

/-- The run of a session has come to the accepting `handle_conreq` or `handle_conresp`. -/
def HandshakeAccepted (con : Connection) (start : Event) (events : List Event) : Prop :=
  (∃ request, start = .receive request) ∨
    ∃ t ∈ trace (endpointStep P) (endpointStep P con start) events, ProcessesConnResp P t

variable {P}

theorem settled_of_accepted {start : Event} {events : List Event} (hrunning : con.aborted = false)
    (hstart : StartsSession P con start)
    (haccepted : HandshakeAccepted P con start events)
    (hno : RunOk (endpointStep P) (fun con event => ¬ Reinitialises con event)
      (endpointStep P con start) events)
    (hleft : NumbersLeft con (run (endpointStep P) con (start :: events))) :
    Settled (run (endpointStep P) con (start :: events)) := by
  obtain ⟨hsince, hone⟩ := startsSession_sinceStart hrunning hstart
  rcases haccepted with ⟨request, rfl⟩ | ⟨t, hmem, packet, hevent, hbeforeRunning, hconresp⟩
  · obtain ⟨-, hused⟩ := hsince.run hno
    have hleftStart : NumbersLeft con (endpointStep P con (.receive request)) := by
      unfold NumbersLeft at hleft ⊢
      rw [run_cons] at hleft
      omega
    exact ((settled_of_conreq hrunning hstart hleftStart).run hsince hno hleft).1
  · -- the run is split at the step that accepts the response
    obtain ⟨early, late, rfl, hbefore, -⟩ := mem_trace (endpointStep P) hmem
    rw [hevent] at hno hleft ⊢
    obtain ⟨hnoEarly, hnoLate⟩ := (runOk_append (endpointStep P)).mp hno
    obtain ⟨hnoStep, hnoRest⟩ := (runOk_cons (endpointStep P)).mp hnoLate
    rw [← hbefore] at hnoStep hnoRest
    obtain ⟨hsinceBefore, husedBefore⟩ := hsince.run hnoEarly
    rw [← hbefore] at hsinceBefore husedBefore
    obtain ⟨hsinceAfter, -⟩ := @SinceStart.step P con t.before (.receive packet) hsinceBefore hnoStep
    obtain ⟨-, husedAfter⟩ := hsinceAfter.run hnoRest
    have hend : run (endpointStep P) con (start :: (early ++ .receive packet :: late)) =
        run (endpointStep P) (endpointStep P t.before (.receive packet)) late := by
      rw [run_cons, run_append, run_cons, hbefore]
    rw [hend] at hleft ⊢
    have hleftAfter : NumbersLeft con (endpointStep P t.before (.receive packet)) := by
      unfold NumbersLeft at hleft ⊢
      omega
    have hsettled := settled_of_conresp hbeforeRunning hconresp hsinceBefore (by omega) hleftAfter
    exact (hsettled.run hsinceAfter hnoRest hleft).1

/-- Against every peer, from the accepting handshake on until the numbers are next
reinitialised, and as long as they do not run out: `cs_r` stays below `sn_t`, neither ever
decreases, and `sn_r` is the successor of `cs_t`. -/
theorem peer_confirms_only_sent (con : Connection) (hrunning : con.aborted = false)
    (start : Event) (hstart : StartsSession P con start) (front back : List Event)
    (haccepted : HandshakeAccepted P con start front)
    (hno : RunOk (endpointStep P) (fun con event => ¬ Reinitialises con event)
      (endpointStep P con start) (front ++ back))
    (hleft : NumbersLeft con (run (endpointStep P) con (start :: (front ++ back)))) :
    let early := run (endpointStep P) con (start :: front)
    let late := run (endpointStep P) con (start :: (front ++ back))
    (early.csR < early.snT ∧ early.snR = early.csT + 1) ∧
      (late.csR < late.snT ∧ late.snR = late.csT + 1) ∧
      early.csR ≤ late.csR ∧ early.snT ≤ late.snT := by
  intro early late
  obtain ⟨hnoFront, hnoBack⟩ := (runOk_append (endpointStep P)).mp hno
  obtain ⟨hsince, -⟩ := startsSession_sinceStart hrunning hstart
  obtain ⟨hsinceEarly, -⟩ := hsince.run hnoFront
  obtain ⟨-, hused⟩ := hsinceEarly.run hnoBack
  have hsplit : late = run (endpointStep P) early back := run_append (endpointStep P) _ front back
  have hleftEarly : NumbersLeft con early := by
    have hmore : numbersUsed (newlySent con early) ≤ numbersUsed (newlySent con late) := by
      rw [hsplit]
      exact hused
    have hleftLate : NumbersLeft con late := hleft
    unfold NumbersLeft at hleftLate ⊢
    omega
  have hsettled : Settled early := settled_of_accepted hrunning hstart haccepted hnoFront hleftEarly
  have hleftLate : NumbersLeft con (run (endpointStep P) early back) := by
    rw [← hsplit]
    exact hleft
  obtain ⟨hlate, hcsR, hsnT⟩ := hsettled.run hsinceEarly hnoBack hleftLate
  rw [← hsplit] at hlate hcsR hsnT
  exact ⟨⟨hsettled.below, hsettled.next⟩, ⟨hlate.below, hlate.next⟩, hcsR, hsnT⟩

end Runs

/-- The client accepts the response, sends data and receives a heartbeat that confirms it. -/
theorem peer_confirms_only_sent_client :
    let early := run (endpointStep referencePlatform) exampleClient
      [.connect true, .receive exampleConnResp]
    let late := run (endpointStep referencePlatform) exampleClient
      [.connect true, .receive exampleConnResp, .send [[1]], .dataSend,
        .receive { exampleEarlyHeartbeat with sequenceNumber := 1, confirmedSequenceNumber := 102 }]
    early.csR = 100 ∧ late.csR = 102 ∧
      (early.csR < early.snT ∧ early.snR = early.csT + 1) ∧
      (late.csR < late.snT ∧ late.snR = late.csT + 1) ∧
      early.csR ≤ late.csR ∧ early.snT ≤ late.snT := by
  refine ⟨by decide +kernel, by decide +kernel, ?_⟩
  refine peer_confirms_only_sent exampleClient rfl (.connect true) ⟨rfl, by decide⟩
    [.receive exampleConnResp] _ (.inr ?_) (by decide +kernel) (by decide +kernel)
  exact ⟨_, List.mem_singleton_self _, exampleConnResp, rfl, by decide +kernel, by decide +kernel⟩

end LibRasta.Retransmission
