/-
Module: LibRasta/Retransmission/Admission.lean
source: src/c/retransmission/handlers.c, src/c/retransmission/protocol.c, src/c/retransmission/safety_retransmission.c, src/c/rastafactory.c
digest: Which connection requests are answered: the checks and the version a request needs, and exactly when handle_conreq decides by them.
-/

import LibRasta.Retransmission.Conveyance

set_option autoImplicit false
set_option relaxedAutoImplicit false

namespace LibRasta.Retransmission

open LibRasta.Util
open LibRasta.Factory

section Comparison

/-- The string in the first `n` characters of an array. -/
def cString (n : ℕ) (chars : Bytes) : Bytes := (chars.take n).takeWhile fun c => c ≠ 0

theorem cString_succ (n : ℕ) (chars : Bytes) :
    cString (n + 1) chars =
      if chars.headD 0 = 0 then [] else chars.headD 0 :: cString n chars.tail := by
  cases chars with
  | nil => rfl
  | cons c rest =>
    by_cases hzero : c = 0
    · simp [cString, hzero]
    · simp [cString, hzero]

/-- `strncmp` finds no difference exactly between equal strings. -/
theorem strncmpSign_eq_zero_iff (n : ℕ) (a b : Bytes) :
    strncmpSign n a b = 0 ↔ cString n a = cString n b := by
  induction n generalizing a b with
  | zero => simp [strncmpSign, cString]
  | succ n ih =>
    rw [strncmpSign, cString_succ, cString_succ]
    generalize a.headD 0 = x
    generalize b.headD 0 = y
    rcases lt_trichotomy x.toNat y.toNat with hlt | heq | hlt
    · have hxy : x < y := UInt8.lt_iff_toNat_lt.mpr hlt
      have hy : y ≠ 0 := by
        rintro rfl
        exact absurd hlt (Nat.not_lt_zero _)
      have hne : x ≠ y := by
        rintro rfl
        exact absurd hlt (Nat.lt_irrefl _)
      rw [if_pos hxy, if_neg hy]
      split
      · simp
      · simp [hne]
    · have hxy : x = y := UInt8.toNat_inj.mp heq
      subst hxy
      rw [if_neg (by simp), if_neg (by simp)]
      split
      · simp
      · simp [ih]
    · have hyx : y < x := UInt8.lt_iff_toNat_lt.mpr hlt
      have hxy : ¬ x < y := by
        rw [UInt8.lt_iff_toNat_lt]
        omega
      have hx : x ≠ 0 := by
        rintro rfl
        exact absurd hlt (Nat.not_lt_zero _)
      have hne : x ≠ y := by
        rintro rfl
        exact absurd hlt (Nat.lt_irrefl _)
      rw [if_neg hxy, if_pos hyx, if_neg hx]
      split
      · simp
      · simp [hne]

/-- Against a string that fills its array, `strncmp` orders like the lexicographic order. -/
theorem strncmpSign_eq_neg_one_iff {a b : Bytes} (hfull : ∀ c ∈ a, c ≠ 0)
    (hlen : b.length = a.length) : strncmpSign a.length a b = -1 ↔ a < b := by
  induction a generalizing b with
  | nil =>
    have hnil : b = [] := List.eq_nil_of_length_eq_zero hlen
    subst hnil
    simp [strncmpSign]
  | cons x rest ih =>
    obtain ⟨y, more, rfl⟩ : ∃ y more, b = y :: more := by
      cases b with
      | nil => simp at hlen
      | cons y more => exact ⟨y, more, rfl⟩
    have hrest : strncmpSign rest.length rest more = -1 ↔ rest < more :=
      ih (fun c hc => hfull c (List.mem_cons_of_mem _ hc)) (by simpa using hlen)
    have hx : x ≠ 0 := hfull x List.mem_cons_self
    have hstep : strncmpSign (x :: rest).length (x :: rest) (y :: more) =
        if x < y then -1 else if y < x then 1 else if x = 0 then 0
        else strncmpSign rest.length rest more := rfl
    rw [hstep, List.cons_lt_cons_iff]
    by_cases hlt : x < y
    · simp [hlt]
    · rw [if_neg hlt]
      by_cases hgt : y < x
      · have hne : x ≠ y := by
          rintro rfl
          exact hlt hgt
        simp [hgt, hlt, hne]
      · have hxy : x = y := by
          rw [UInt8.lt_iff_toNat_lt] at hlt hgt
          exact UInt8.toNat_inj.mp (by omega)
        rw [if_neg hgt, if_neg hx, hrest]
        simp [hxy]

end Comparison

section Statement

variable (P : Platform)

/-- The version is one of the configured ones. -/
def InAcceptedVersions (config : RastaConfigInfo) (version : Bytes) : Prop :=
  ∃ accepted ∈ config.acceptedVersions, cString 4 accepted = cString 4 version

/-- What a request must meet apart from its version. -/
structure RequestValid (con : Connection) (packet : RastaPacket) : Prop where
  checksumCorrect : packet.checksumCorrect = true
  sender : packet.senderId = con.remoteId
  receiver : packet.receiverId = con.myId
  confirmed : packet.confirmedSequenceNumber = 0

/-- The request should be accepted. -/
def ShouldAccept (con : Connection) (packet : RastaPacket) : Prop :=
  RequestValid con packet ∧
    (rastaVersion ≤ (extractRastaConnectionData P packet).version ∨
      InAcceptedVersions con.config (extractRastaConnectionData P packet).version)

/-- The request was answered by one connection response, which starts the sequence numbers and
confirms the request. -/
def Answered (con after : Connection) (packet : RastaPacket) : Prop :=
  after.currentState = .start ∧
    ∃ pdu : SentPdu, ((newlySent con after).filter fun pdu => pdu.packet.type = .connResp) = [pdu] ∧
      pdu.packet.sequenceNumber = con.config.initialSequenceNumber ∧
      pdu.packet.confirmedSequenceNumber = packet.sequenceNumber

/-- The request was refused. -/
def Refused (con after : Connection) : Prop :=
  after.currentState = .closed ∧ ∀ pdu ∈ newlySent con after, pdu.packet.type ≠ .connResp

/-- `handle_conreq` accepts the request exactly if it should, and refuses it otherwise. -/
def AdmitsRightly (con : Connection) (packet : RastaPacket) : Prop :=
  (Answered con (handleConreq P con packet) packet ↔ ShouldAccept P con packet) ∧
    (¬ ShouldAccept P con packet → Refused con (handleConreq P con packet))

/-- A newer version that is not configured, on a platform where `strncmp` tells that it is
greater by a negative result other than -1. -/
def NewerUnrecognised (config : RastaConfigInfo) (version : Bytes) : Prop :=
  rastaVersion < version ∧ ¬ InAcceptedVersions config version ∧
    P.strncmp rastaVersion version 4 ≠ -1

end Statement

section Decision

variable {P : Platform} {con server : Connection} {packet : RastaPacket}

theorem compareVersion_eq_zero_iff (localVersion remoteVersion : Bytes) :
    compareVersion P localVersion remoteVersion = 0 ↔
      cString 4 localVersion = cString 4 remoteVersion := by
  rw [compareVersion, ← Int.sign_eq_zero_iff_zero, P.strncmp_sign, strncmpSign_eq_zero_iff]

theorem compareVersion_neg_iff {version : Bytes} (hlen : version.length = 4) :
    compareVersion P rastaVersion version < 0 ↔ rastaVersion < version := by
  have hfull : ∀ c ∈ rastaVersion, c ≠ 0 := by simp [rastaVersion]
  rw [compareVersion, ← Int.sign_eq_neg_one_iff_neg, P.strncmp_sign]
  exact strncmpSign_eq_neg_one_iff hfull hlen

theorem versionAccepted_iff (config : RastaConfigInfo) (version : Bytes) :
    versionAccepted P config version = true ↔ InAcceptedVersions config version := by
  simp only [versionAccepted, List.any_eq_true, decide_eq_true_eq, compareVersion_eq_zero_iff,
    InAcceptedVersions]

theorem length_version (packet : RastaPacket) :
    (extractRastaConnectionData P packet).version.length = 4 := by
  unfold extractRastaConnectionData
  split
  · exact length_readBytes P _ _ _
  · rfl

/-- Among arrays of four characters the string "0303" is only equal to itself. -/
theorem cString_rastaVersion_iff {version : Bytes} (hlen : version.length = 4) :
    cString 4 rastaVersion = cString 4 version ↔ rastaVersion = version := by
  constructor
  · intro hsame
    have hwhole : cString 4 version <+: version := by
      rw [cString, List.take_of_length_le (le_of_eq hlen)]
      exact List.takeWhile_prefix _
    have hleft : cString 4 rastaVersion = rastaVersion := by decide
    rw [← hsame, hleft] at hwhole
    exact hwhole.eq_of_length hlen.symm
  · intro hsame
    rw [hsame]

/-- The version test of `handle_conreq`. -/
theorem conreqVersionAccepted_iff {config : RastaConfigInfo} {version : Bytes}
    (hlen : version.length = 4) :
    conreqVersionAccepted P config version = true ↔
      (rastaVersion ≤ version ∨ InAcceptedVersions config version) ∧
        ¬ NewerUnrecognised P config version := by
  have hnewer := @compareVersion_neg_iff P version hlen
  have hsame := @compareVersion_eq_zero_iff P rastaVersion version
  rw [cString_rastaVersion_iff hlen] at hsame
  simp only [conreqVersionAccepted, Bool.or_eq_true, decide_eq_true_eq, versionAccepted_iff, hsame]
  rw [List.le_iff_lt_or_eq, NewerUnrecognised, ← hnewer]
  show _ ↔ _ ∧ ¬ (_ ∧ _ ∧ compareVersion P rastaVersion version ≠ -1)
  have hnegative : compareVersion P rastaVersion version = -1 →
      compareVersion P rastaVersion version < 0 := by omega
  have hzero : rastaVersion = version → ¬ compareVersion P rastaVersion version < 0 := by
    intro heq
    have := hsame.mpr heq
    omega
  tauto

/-- What `handle_conreq` keeps and sets before it checks a request. -/
structure Prepared (con server : Connection) : Prop where
  remoteId : server.remoteId = con.remoteId
  myId : server.myId = con.myId
  config : server.config = con.config
  sent : server.sent = con.sent
  snT : server.snT = con.config.initialSequenceNumber
  state : server.currentState = .down

theorem prepareServer_same : Prepared con (prepareServer P con) := by
  unfold prepareServer srInitConnection
  cases P.enableOpaque
  · exact ⟨rfl, rfl, rfl, rfl, rfl, rfl⟩
  · exact ⟨rfl, rfl, rfl, rfl, rfl, rfl⟩

theorem srCheckPacket_conreq_iff (htype : packet.type = .connReq) :
    srCheckPacket (prepareServer P con) packet = true ↔ RequestValid con packet := by
  have hsame := @prepareServer_same P con
  simp only [srCheckPacket, srMessageAuthentic, srSnRangeValid, srCsValid, srSnInSeq, srCtsInSeq,
    htype, hsame.remoteId, hsame.myId, Bool.and_eq_true, decide_eq_true_eq, true_or, if_true, reduceCtorEq, or_self,
    if_false, and_true]
  constructor
  · rintro ⟨⟨hchecksum, hsender, hreceiver⟩, hconfirmed⟩
    exact ⟨hchecksum, hsender, hreceiver, hconfirmed⟩
  · rintro ⟨hchecksum, hsender, hreceiver, hconfirmed⟩
    exact ⟨⟨hchecksum, hsender, hreceiver⟩, hconfirmed⟩

theorem redundancyMuxSend_sent (con : Connection) (data : RastaPacket) :
    ∃ pdu : SentPdu, (redundancyMuxSend P con data).sent = con.sent ++ [pdu] ∧ pdu.packet = data :=
  ⟨_, rfl, rfl⟩

theorem noteConreq_fields (con : Connection) (packet : RastaPacket) :
    (noteConreq P con packet).sent = con.sent ∧ (noteConreq P con packet).snT = con.snT ∧
      (noteConreq P con packet).csT = packet.sequenceNumber := by
  unfold noteConreq
  generalize extractRastaConnectionData P packet = connectionData
  exact ⟨rfl, rfl, rfl⟩

theorem acceptConreq_answered (hprepared : Prepared con server) :
    Answered con (acceptConreq P server packet) packet := by
  rw [acceptConreq_eq]
  obtain ⟨hnoted, hnext, hheard⟩ := @noteConreq_fields P server packet
  generalize noteConreq P server packet = noted at hnoted hnext hheard ⊢
  refine ⟨rfl, ?_⟩
  have hbefore : (setState (incrementSnT (tick noted)) .start).sent = con.sent :=
    hnoted.trans hprepared.sent
  obtain ⟨pdu, hsent, hpacket⟩ := @redundancyMuxSend_sent P
    (setState (incrementSnT (tick noted)) .start)
    (createConnectionResponse P
      { nextHeader noted with confirmedTimestamp := packet.confirmedTimestamp }
      server.config.sendMax rastaVersion server.hashingContext)
  rw [hbefore] at hsent
  have htype : pdu.packet.type = .connResp := by
    rw [hpacket]
    rfl
  have hnumber : pdu.packet.sequenceNumber = con.config.initialSequenceNumber := by
    rw [hpacket]
    exact hnext.trans hprepared.snT
  have hconfirmed : pdu.packet.confirmedSequenceNumber = packet.sequenceNumber := by
    rw [hpacket]
    exact hheard
  refine ⟨pdu, ?_, hnumber, hconfirmed⟩
  rw [newlySent_eq hsent, List.filter_eq_self]
  intro other hother
  rw [List.mem_singleton.mp hother]
  exact decide_eq_true htype

theorem srCloseConnection_refused (hprepared : Prepared con server)
    (reason : RastaDisconnectReason) : Refused con (srCloseConnection P server reason 0) := by
  rw [srCloseConnection, if_pos (.inl hprepared.state)]
  refine ⟨rfl, ?_⟩
  have hnone : newlySent con (srResetConnection server) = [] :=
    newlySent_eq (hprepared.sent.trans (List.append_nil _).symm)
  intro pdu hpdu
  rw [hnone] at hpdu
  exact absurd hpdu List.not_mem_nil

/-- `handle_conreq` answers a valid request of a version it recognises and refuses any other. -/
theorem handleConreq_outcome (hstate : con.currentState = .closed ∨ con.currentState = .down)
    (htype : packet.type = .connReq) :
    let version := (extractRastaConnectionData P packet).version
    ShouldAccept P con packet ∧ ¬ NewerUnrecognised P con.config version ∧
        Answered con (handleConreq P con packet) packet ∨
      ¬ (ShouldAccept P con packet ∧ ¬ NewerUnrecognised P con.config version) ∧
        Refused con (handleConreq P con packet) := by
  intro version
  have hprepared := @prepareServer_same P con
  have hcheck := @srCheckPacket_conreq_iff P con packet htype
  have hversion := @conreqVersionAccepted_iff P con.config version (length_version packet)
  have hhandle : handleConreq P con packet =
      if srCheckPacket (prepareServer P con) packet then
        if conreqVersionAccepted P con.config version then
          acceptConreq P (prepareServer P con) packet
        else srCloseConnection P (prepareServer P con) .incompatibleVersion 0
      else srCloseConnection P (prepareServer P con) .protocolError 0 := by
    rw [handleConreq, if_pos hstate]
    simp only [hprepared.config]
    rfl
  rw [hhandle]
  split
  · rename_i hvalid
    have hvalid := hcheck.mp hvalid
    split
    · rename_i haccepted
      obtain ⟨hshould, hknown⟩ := hversion.mp haccepted
      exact .inl ⟨⟨hvalid, hshould⟩, hknown, acceptConreq_answered hprepared⟩
    · rename_i hrejected
      refine .inr ⟨?_, srCloseConnection_refused hprepared _⟩
      rintro ⟨⟨-, hshould⟩, hknown⟩
      exact hrejected (hversion.mpr ⟨hshould, hknown⟩)
  · rename_i hinvalid
    refine .inr ⟨?_, srCloseConnection_refused hprepared _⟩
    rintro ⟨⟨hvalid, -⟩, -⟩
    exact hinvalid (hcheck.mpr hvalid)

end Decision

section Example

/-- A connection request from the peer of `exampleConfig`, with the given version. -/
def exampleVersionRequest (version : Bytes) : RastaPacket :=
  { createConnectionRequest referencePlatform 0x61 0x62 700 0 20 version
      (hashingContextOf exampleConfig) with
    checksumCorrect := true }

/-- `strncmp` as many C libraries implement it: the difference of the first characters that
differ. -/
def strncmpDifference : ℕ → Bytes → Bytes → Int
  | 0, _, _ => 0
  | n + 1, a, b =>
    if a.headD 0 ≠ b.headD 0 then ((a.headD 0).toNat : Int) - (b.headD 0).toNat
    else if a.headD 0 = 0 then 0
    else strncmpDifference n a.tail b.tail

theorem sign_strncmpDifference (n : ℕ) (a b : Bytes) :
    (strncmpDifference n a b).sign = strncmpSign n a b := by
  induction n generalizing a b with
  | zero => rfl
  | succ n ih =>
    rw [strncmpDifference, strncmpSign]
    generalize a.headD 0 = x
    generalize b.headD 0 = y
    rcases lt_trichotomy x.toNat y.toNat with hlt | heq | hlt
    · have hxy : x < y := UInt8.lt_iff_toNat_lt.mpr hlt
      have hne : x ≠ y := by
        rintro rfl
        exact absurd hlt (Nat.lt_irrefl _)
      rw [if_pos hne, if_pos hxy]
      exact Int.sign_eq_neg_one_of_neg (by omega)
    · have hxy : x = y := UInt8.toNat_inj.mp heq
      subst hxy
      have hnot : ¬ x < x := by
        rw [UInt8.lt_iff_toNat_lt]
        omega
      rw [if_neg (by simp), if_neg hnot, if_neg hnot]
      split
      · rfl
      · exact ih _ _
    · have hyx : y < x := UInt8.lt_iff_toNat_lt.mpr hlt
      have hxy : ¬ x < y := by
        rw [UInt8.lt_iff_toNat_lt]
        omega
      have hne : x ≠ y := by
        rintro rfl
        exact absurd hlt (Nat.lt_irrefl _)
      rw [if_pos hne, if_neg hxy, if_pos hyx]
      exact Int.sign_eq_one_of_pos (by omega)

/-- `referencePlatform` with that `strncmp`. -/
def differencePlatform : Platform :=
  { referencePlatform with
    strncmp := fun a b n => strncmpDifference n a b
    strncmp_sign := fun a b n => sign_strncmpDifference n a b }

end Example

end LibRasta.Retransmission
