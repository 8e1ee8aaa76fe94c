/-
Module: LibRasta/Retransmission/Running.lean
source: src/c/retransmission/handlers.c, src/c/retransmission/safety_retransmission.c, src/c/experimental/handlers.c
digest: No received packet aborts the process in a build without OPAQUE.
-/

import LibRasta.Retransmission.Constants
import LibRasta.Retransmission.Handshake

set_option autoImplicit false
set_option relaxedAutoImplicit false

namespace LibRasta.Retransmission

open LibRasta.Util
open LibRasta.Factory

variable {P : Platform} {con after : Connection} {packet : RastaPacket}

theorem Counted.aborted {base : Connection} (h : Counted con base) : base.aborted = con.aborted := by
  obtain ⟨_, _, _, _, rfl⟩ := h
  rfl

theorem srCloseConnection_aborted (con : Connection) (reason : RastaDisconnectReason)
    (details : UInt16) : (srCloseConnection P con reason details).aborted = con.aborted := by
  unfold srCloseConnection
  split
  · rfl
  · rfl

theorem DeliveryFrame.aborted {before after : Connection} (h : DeliveryFrame before after) :
    after.aborted = before.aborted := by
  rw [h.rest]

theorem rejectStartHb_aborted (con : Connection) (packet : RastaPacket) :
    (rejectStartHb P con packet).aborted = con.aborted :=
  rejectStartHb_related P (R := fun a b => b.aborted = a.aborted) (fun _ => rfl)
    (fun _ _ _ hab hbc => hbc.trans hab) (fun c reason => srCloseConnection_aborted c reason 0) con
    packet

theorem handleRetrreq_aborted (con : Connection) (packet : RastaPacket) :
    (handleRetrreq P con packet).1.aborted = con.aborted := by
  unfold handleRetrreq
  split
  · have hclosing : (if con.currentState = .retrRun then srCloseConnection P con .retrFailed 0
        else con).aborted = con.aborted := by
      split
      · exact srCloseConnection_aborted con _ _
      · rfl
    exact (answerRetrreq_frame P _).aborted.trans hclosing
  · exact (answerRetrreq_frame P (setCsR con packet)).aborted

theorem acceptHb_aborted (con : Connection) (packet : RastaPacket) :
    (acceptHb P con packet).aborted = con.aborted := by
  have hdelivered := (srUpdateTimeoutInterval_frame P con packet.confirmedTimestamp).trans
    (srDiagnosticUpdate_frame P _ packet)
  have hremoved := (srRemoveConfirmedMessages_frame P (updateConfirmedAttrs (updateConnectionAttrs
    (srDiagnosticUpdate P (srUpdateTimeoutInterval P con packet.confirmedTimestamp) packet) packet)
    packet)).aborted
  unfold acceptHb
  simp only
  split
  · exact hremoved.trans hdelivered.aborted
  · exact hremoved.trans hdelivered.aborted

theorem prepareServer_aborted (con : Connection) :
    (prepareServer P con).aborted = con.aborted := by
  unfold prepareServer srInitConnection
  cases P.enableOpaque
  · rfl
  · rfl

theorem noteConreq_aborted (con : Connection) (packet : RastaPacket) :
    (noteConreq P con packet).aborted = con.aborted := by
  unfold noteConreq
  generalize extractRastaConnectionData P packet = connectionData
  rfl

theorem acceptConreq_aborted (con : Connection) (packet : RastaPacket) :
    (acceptConreq P con packet).aborted = con.aborted := by
  rw [acceptConreq_eq, (redundancyMuxSend_frame P _ _).aborted]
  dsimp only [setState, incrementSnT, tick]
  exact noteConreq_aborted con packet

theorem answerKex_aborted (con : Connection) (response packet : RastaPacket)
    (state : RastaSrState) :
    (setSessionKey (setState (srRemoveConfirmedMessages P (updateKexAttrs (incrementSnT
      (redundancyMuxSend P con response)) packet)) state)).aborted = con.aborted := by
  have hremoved := (srRemoveConfirmedMessages_frame P (updateKexAttrs (incrementSnT
    (redundancyMuxSend P con response)) packet)).aborted
  dsimp only [setSessionKey, setState]
  rw [hremoved]
  dsimp only [updateKexAttrs, incrementSnT]
  exact (redundancyMuxSend_frame P con response).aborted

theorem acceptConresp_aborted (con : Connection) (packet : RastaPacket)
    (hdisabled : P.enableOpaque = false) :
    (acceptConresp P con packet).aborted = con.aborted := by
  have hanswer : (answerConresp P con packet).aborted = con.aborted :=
    (sendHeartbeat_frame P _ true).aborted
  have hstart : startKeyExchange P (answerConresp P con packet) = answerConresp P con packet :=
    if_neg (by simp [hdisabled])
  rw [acceptConresp, hstart, superviseConnection]
  generalize answerConresp P con packet = answered at hanswer ⊢
  split
  · exact hanswer
  · exact hanswer

theorem Received.aborted_eq (h : Received P con packet after) (hdisabled : P.enableOpaque = false) :
    after.aborted = con.aborted := by
  cases h with
  | ignored hbase => exact hbase.aborted
  | closed hbase reason => rw [srCloseConnection_aborted, hbase.aborted]
  | discReq hbase => exact hbase.aborted
  | @data base hbase =>
    have hadded := (srAddAppMessagesToBuffer_frame P base packet).aborted.trans hbase.aborted
    exact (srRemoveConfirmedMessages_frame P (updateConfirmedAttrs (updateConnectionAttrs
      (srAddAppMessagesToBuffer P base packet) packet) packet)).aborted.trans hadded
  | dataDropped hbase => exact hbase.aborted
  | @retransmissionRequested base hbase =>
    exact (sendRetransmissionRequest_frame P base).aborted.trans hbase.aborted
  | heartbeatGap hbase => exact hbase.aborted
  | retrReqInSeq hbase => exact (handleRetrreq_aborted _ packet).trans hbase.aborted
  | @retrReqOutOfSeq base hbase =>
    exact (answerRetrreq_frame P (setCsR base packet)).aborted.trans hbase.aborted
  | retrResp hbase => exact hbase.aborted
  | @retrData base hbase =>
    exact (srAddAppMessagesToBuffer_frame P base packet).aborted.trans hbase.aborted
  | @heartbeatStart base hbase =>
    have hrejected := (@rejectStartHb_aborted P base packet).trans hbase.aborted
    generalize rejectStartHb P base packet = rejected at hrejected ⊢
    exact hrejected
  | @heartbeatLate base hbase =>
    rw [srCloseConnection_aborted, rejectStartHb_aborted, hbase.aborted]
  | heartbeat hbase => exact (acceptHb_aborted _ packet).trans hbase.aborted
  | conreqRefused => rw [srCloseConnection_aborted, prepareServer_aborted]
  | conreqAccepted =>
    have hprepared := @prepareServer_aborted P con
    exact (acceptConreq_aborted _ packet).trans hprepared
  | conrespAccepted => exact acceptConresp_aborted con packet hdisabled
  | aborted _ henable =>
    rw [hdisabled] at henable
    cases henable
  | kexRequest hbase _ _ _ _ response =>
    rw [answerKex_aborted, hbase.aborted]
  | kexResponse hbase _ _ _ _ response =>
    rw [answerKex_aborted, hbase.aborted]
  | @kexAuth base hbase =>
    have hremoved := (srRemoveConfirmedMessages_frame P (updateKexAttrs base packet)).aborted
    exact hremoved.trans hbase.aborted

theorem srReceive_aborted (hdisabled : P.enableOpaque = false) (con : Connection)
    (packet : RastaPacket) : (srReceive P con packet).1.aborted = con.aborted :=
  (srReceive_received P con packet).aborted_eq hdisabled

end LibRasta.Retransmission
