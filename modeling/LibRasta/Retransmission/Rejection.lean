/-
Module: LibRasta/Retransmission/Rejection.lean
source: src/c/retransmission/safety_retransmission.c, src/c/retransmission/handlers.c
digest: Packets with a wrong safety code or foreign ids leave the connection alone exactly when they are not connection requests or responses.
-/

import LibRasta.Retransmission.Handlers

set_option autoImplicit false
set_option relaxedAutoImplicit false

namespace LibRasta.Retransmission

open LibRasta.Util

/-- The packet has a wrong safety code or is not addressed from the peer to this side. -/
def Rejected (con : Connection) (packet : RastaPacket) : Prop :=
  packet.checksumCorrect = false ∨ packet.senderId ≠ con.remoteId ∨
    packet.receiverId ≠ con.myId

instance (con : Connection) (packet : RastaPacket) : Decidable (Rejected con packet) :=
  inferInstanceAs (Decidable (_ ∨ _))

/-- Nothing happened but that one of the two error counters went up. -/
def OnlyErrorCounted (before after : Connection) : Prop :=
  after = countSafetyError before ∨ after = countAddressError before

section Inert

variable (P : Platform) {con : Connection} {packet : RastaPacket}

theorem not_authentic_of_ids
    (h : packet.senderId ≠ con.remoteId ∨ packet.receiverId ≠ con.myId) :
    srMessageAuthentic con packet = false := by
  rcases h with h | h <;> simp [srMessageAuthentic, h]

theorem srCheckPacket_of_rejected (h : Rejected con packet) :
    srCheckPacket con packet = false := by
  rcases h with hchecksum | hids
  · simp [srCheckPacket, hchecksum]
  · simp [srCheckPacket, not_authentic_of_ids hids]

/-- Closing always clears the error counters. -/
theorem srCloseConnection_errors (con : Connection) (reason : RastaDisconnectReason)
    (details : UInt16) :
    (srCloseConnection P con reason details).errors =
      { safety := 0, address := 0, type := 0, sn := 0, cs := 0 } := by
  unfold srCloseConnection
  split <;> rfl

theorem handleConreq_errors_of_rejected (h : Rejected con packet) :
    (handleConreq P con packet).errors =
      { safety := 0, address := 0, type := 0, sn := 0, cs := 0 } := by
  have hprepared : Rejected (prepareServer P con) packet := by
    have hremote : (prepareServer P con).remoteId = con.remoteId := by
      unfold prepareServer srInitConnection
      cases P.enableOpaque <;> rfl
    have hmy : (prepareServer P con).myId = con.myId := by
      unfold prepareServer srInitConnection
      cases P.enableOpaque <;> rfl
    unfold Rejected at h ⊢
    rwa [hremote, hmy]
  unfold handleConreq
  split
  · simp only [srCheckPacket_of_rejected hprepared, Bool.false_eq_true, if_false]
    exact srCloseConnection_errors P _ _ _
  · exact srCloseConnection_errors P _ _ _

theorem handleConresp_errors_of_rejected (h : Rejected con packet) :
    (handleConresp P con packet).errors =
      { safety := 0, address := 0, type := 0, sn := 0, cs := 0 } := by
  simp only [handleConresp, srCheckPacket_of_rejected h, Bool.false_eq_true, if_false]
  exact srCloseConnection_errors P _ _ _

theorem not_onlyErrorCounted_of_errors {before after : Connection}
    (h : after.errors = { safety := 0, address := 0, type := 0, sn := 0, cs := 0 }) :
    ¬ OnlyErrorCounted before after := by
  rintro (rfl | rfl)
  · have hsafety := congrArg RastaErrorCounters.safety h
    simp [countSafetyError] at hsafety
  · have haddress := congrArg RastaErrorCounters.address h
    simp [countAddressError] at haddress

theorem srReceive_of_rejected (h : Rejected con packet) (hreq : packet.type ≠ .connReq)
    (hresp : packet.type ≠ .connResp) :
    OnlyErrorCounted con (srReceive P con packet).1 := by
  unfold OnlyErrorCounted
  cases hchecksum : packet.checksumCorrect with
  | false => simp [srReceive, hreq, hresp, hchecksum]
  | true =>
    have hids : packet.senderId ≠ con.remoteId ∨ packet.receiverId ≠ con.myId := by
      rcases h with h | h
      · simp [hchecksum] at h
      · exact h
    simp [srReceive, hreq, hresp, hchecksum, not_authentic_of_ids hids]

end Inert

/-- The example heartbeat with a wrong safety code, and the same as a connection request. -/
def exampleCorrupted : RastaPacket := { exampleHeartbeat with checksumCorrect := false }

def exampleCorruptedConreq : RastaPacket := { exampleCorrupted with type := .connReq }

end LibRasta.Retransmission
