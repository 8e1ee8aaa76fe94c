/-
Module: LibRasta/Retransmission/Idle.lean
source: src/c/retransmission/handlers.c, src/c/util/rastamodule.c
digest: While a connection has nothing queued for sending, no received packet makes it set the error variable of the encoder.
-/

import LibRasta.Retransmission.Transitions

set_option autoImplicit false
set_option relaxedAutoImplicit false

namespace LibRasta.Retransmission

open LibRasta.Util
open LibRasta.Factory

/-- Nothing is queued for sending, no encoding or decoding failed so far, and the safety code has
the length it was configured with. -/
structure Idle (config : RastaConfigInfo) (con : Connection) : Prop where
  lasterror : con.lasterror = .none
  fifoSend : con.fifoSend.items = []
  fifoRetransmission : con.fifoRetransmission.items = []
  hashingContext : con.hashingContext = hashingContextOf config
  srChecksumLen : con.srHashingContext.checksumLen = (hashingContextOf config).checksumLen
  config : con.config = config

section Sending

variable (P : Platform) {config : RastaConfigInfo} {con : Connection}

theorem redundancyMuxSend_idle (h : Idle config con) {data : RastaPacket}
    (hlength : 28 + (hashingContextOf config).checksumLen ≤ data.length.toNat) :
    Idle config (redundancyMuxSend P con data) := by
  have hbytes : (rastaModuleToBytes P .none data con.hashingContext).2 = .none := by
    rw [rastaModuleToBytes_of_fits P (by rw [h.hashingContext]; exact hlength)]
  have herror : (redundancyMuxSend P con data).lasterror =
      (rastaModuleToBytes P con.lasterror data con.hashingContext).2 := rfl
  refine ⟨?_, h.fifoSend, h.fifoRetransmission, h.hashingContext, h.srChecksumLen, h.config⟩
  rw [herror, h.lasterror]
  exact hbytes

/-- The length field of a packet with few data bytes. -/
theorem le_length_of_small {packet : RastaPacket} {ck : ℕ} (hck : ck ≤ 16) {dataLen : ℕ}
    (hsmall : dataLen ≤ 1024) (h : packet.length = UInt16.ofNat (28 + ck + dataLen)) :
    28 + ck ≤ packet.length.toNat := by
  rw [h, UInt16.toNat_ofNat']
  omega

theorem initializePacket_idle (h : Idle config con) {packet : RastaPacket} {dataLen : ℕ}
    (hsmall : dataLen ≤ 1024)
    (hlength : packet.length = UInt16.ofNat (28 + con.srHashingContext.checksumLen + dataLen)) :
    28 + (hashingContextOf config).checksumLen ≤ packet.length.toNat := by
  rw [h.srChecksumLen] at hlength
  exact le_length_of_small (RastaHashingContext.checksumLen_le _) hsmall hlength

theorem sendDisconnectionRequest_idle (h : Idle config con) (reason : RastaDisconnectReason)
    (details : UInt16) : Idle config (sendDisconnectionRequest P con reason details) := by
  have htick : Idle config (tick con) := ⟨h.1, h.2, h.3, h.4, h.5, h.6⟩
  exact redundancyMuxSend_idle P htick (initializePacket_idle h (by decide : 4 ≤ 1024) rfl)

theorem sendHeartbeat_idle (h : Idle config con) (rescheduleManually : Bool) :
    Idle config (sendHeartbeat P con rescheduleManually) := by
  have htick : Idle config (tick con) := ⟨h.1, h.2, h.3, h.4, h.5, h.6⟩
  have hsent := redundancyMuxSend_idle P htick
    (@initializePacket_idle _ _ h (createHeartbeat P (nextHeader con) con.srHashingContext) 0
      (by decide) rfl)
  cases rescheduleManually
  · exact ⟨hsent.1, hsent.2, hsent.3, hsent.4, hsent.5, hsent.6⟩
  · exact ⟨hsent.1, hsent.2, hsent.3, hsent.4, hsent.5, hsent.6⟩

theorem sendRetransmissionRequest_idle (h : Idle config con) :
    Idle config (sendRetransmissionRequest P con) := by
  have htick : Idle config (tick con) := ⟨h.1, h.2, h.3, h.4, h.5, h.6⟩
  have hsent := redundancyMuxSend_idle P htick
    (@initializePacket_idle _ _ h
      (createRetransmissionRequest P (nextHeader con) con.srHashingContext) 0 (by decide) rfl)
  exact ⟨hsent.1, hsent.2, hsent.3, hsent.4, hsent.5, hsent.6⟩

theorem sendRetransmissionResponse_idle (h : Idle config con) :
    Idle config (sendRetransmissionResponse P con) := by
  have htick : Idle config (tick con) := ⟨h.1, h.2, h.3, h.4, h.5, h.6⟩
  have hsent := redundancyMuxSend_idle P htick
    (@initializePacket_idle _ _ h
      (createRetransmissionResponse P (nextHeader con) con.srHashingContext) 0 (by decide) rfl)
  exact ⟨hsent.1, hsent.2, hsent.3, hsent.4, hsent.5, hsent.6⟩

theorem dataSendEvent_idle (h : Idle config con) : Idle config (dataSendEvent P con) := by
  have hnone : sendQueued P con = con := by
    have hbacklog : ¬ 0 < sendBacklogSize con := by
      unfold sendBacklogSize fifoGetSize
      rw [h.fifoSend]
      simp
    rw [sendQueued, if_neg hbacklog]
  unfold dataSendEvent stopIdleSending
  rw [hnone]
  split
  · exact ⟨h.1, h.2, h.3, h.4, h.5, h.6⟩
  · exact h

theorem srRemoveConfirmedMessages_idle (h : Idle config con) :
    Idle config (srRemoveConfirmedMessages P con) := by
  have hpop : Idle config (popConfirmed P con) := by
    have hcount : confirmedCount P con.hashingContext con.csR con.fifoRetransmission.items
        con.lasterror = (0, con.lasterror) := by
      rw [h.fifoRetransmission]
      rfl
    refine ⟨?_, h.2, ?_, h.4, h.5, h.6⟩
    · simp only [popConfirmed, hcount]
      exact h.lasterror
    · simp only [popConfirmed, hcount, fifoPopMany, List.drop_zero]
      exact h.fifoRetransmission
  unfold srRemoveConfirmedMessages
  split
  · exact dataSendEvent_idle P hpop
  · exact hpop

theorem srRetransmitData_idle (h : Idle config con) : Idle config (srRetransmitData P con) := by
  have hnothing : srRetransmitData P con = sendHeartbeat P
      { con with
        fifoRetransmission :=
          fifoPopMany con.fifoRetransmission con.fifoRetransmission.items.length } true := by
    unfold srRetransmitData
    simp only [h.fifoRetransmission, List.foldl_nil]
  have hempty : Idle config
      { con with
        fifoRetransmission :=
          fifoPopMany con.fifoRetransmission con.fifoRetransmission.items.length } :=
    ⟨h.1, h.2, by simp [fifoPopMany], h.4, h.5, h.6⟩
  rw [hnothing]
  exact sendHeartbeat_idle P hempty true

theorem answerRetrreq_idle (h : Idle config con) : Idle config (answerRetrreq P con) :=
  srRetransmitData_idle P
    (sendRetransmissionResponse_idle P (srRemoveConfirmedMessages_idle P h))

theorem srCloseConnection_idle (h : Idle config con) (reason : RastaDisconnectReason)
    (details : UInt16) : Idle config (srCloseConnection P con reason details) := by
  have hreset : Idle config (srResetConnection con) := ⟨h.1, h.2, h.3, h.4, h.5, h.6⟩
  unfold srCloseConnection
  split
  · exact hreset
  · have hsent := sendDisconnectionRequest_idle P hreset reason details
    exact ⟨hsent.1, hsent.2, hsent.3, hsent.4, hsent.5, hsent.6⟩

theorem Counted.idle {base : Connection} (hbase : Counted con base) (h : Idle config con) :
    Idle config base := by
  obtain ⟨_, _, _, _, rfl⟩ := hbase
  exact ⟨h.1, h.2, h.3, h.4, h.5, h.6⟩

theorem DeliveryFrame.idle {after : Connection} (hframe : DeliveryFrame con after)
    (h : Idle config con) : Idle config after := by
  have hrest := hframe.rest
  rw [hrest]
  exact ⟨h.1, h.2, h.3, h.4, h.5, h.6⟩

end Sending

section Receiving

variable (P : Platform) {config : RastaConfigInfo} {con after : Connection}
  {packet : RastaPacket}

-- one lemma for each elementary update, so that no proof has to compare whole connections
theorem incrementSnT_idle (h : Idle config con) : Idle config (incrementSnT con) :=
  ⟨h.1, h.2, h.3, h.4, h.5, h.6⟩

theorem tick_idle (h : Idle config con) : Idle config (tick con) :=
  ⟨h.1, h.2, h.3, h.4, h.5, h.6⟩

theorem stampKeyExchange_idle (h : Idle config con) : Idle config (stampKeyExchange con) :=
  ⟨h.1, h.2, h.3, h.4, h.5, h.6⟩

theorem enableHeartbeat_idle (h : Idle config con) : Idle config (enableHeartbeat con) :=
  ⟨h.1, h.2, h.3, h.4, h.5, h.6⟩

theorem enableTimeout_idle (h : Idle config con) : Idle config (enableTimeout con) :=
  ⟨h.1, h.2, h.3, h.4, h.5, h.6⟩

theorem setBuffer_idle (h : Idle config con) (size : Int) (tI : UInt32) :
    Idle config { con with connectedRecvBufferSize := size, tI := tI } :=
  ⟨h.1, h.2, h.3, h.4, h.5, h.6⟩

theorem unlock_idle (h : Idle config con) (hbLocked : Bool) :
    Idle config { con with hbLocked := hbLocked } :=
  ⟨h.1, h.2, h.3, h.4, h.5, h.6⟩

theorem supervise_idle (h : Idle config con) (hbLocked : Bool) (size : Int) :
    Idle config { con with hbLocked := hbLocked, connectedRecvBufferSize := size } :=
  ⟨h.1, h.2, h.3, h.4, h.5, h.6⟩

theorem setSessionKey_idle (h : Idle config con) : Idle config (setSessionKey con) :=
  ⟨h.1, h.2, h.3, h.4, h.5, h.6⟩

theorem setIsNew_idle (h : Idle config con) (isNew : Bool) :
    Idle config { con with isNew := isNew } :=
  ⟨h.1, h.2, h.3, h.4, h.5, h.6⟩

theorem updateAttrs_idle (h : Idle config con) (packet : RastaPacket) :
    Idle config (updateConfirmedAttrs (updateConnectionAttrs con packet) packet) :=
  ⟨h.1, h.2, h.3, h.4, h.5, h.6⟩

theorem setCsR_idle (h : Idle config con) (packet : RastaPacket) :
    Idle config (setCsR (updateConnectionAttrs con packet) packet) :=
  ⟨h.1, h.2, h.3, h.4, h.5, h.6⟩

theorem setState_idle (h : Idle config con) (state : RastaSrState) :
    Idle config (setState con state) :=
  ⟨h.1, h.2, h.3, h.4, h.5, h.6⟩

theorem rejectStartHb_idle (h : Idle config con) (packet : RastaPacket) :
    Idle config (rejectStartHb P con packet) :=
  rejectStartHb_related P (R := fun a b => Idle config a → Idle config b) (fun _ => id)
    (fun _ _ _ hab hbc ha => hbc (hab ha))
    (fun _ reason hc => srCloseConnection_idle P hc reason 0) con packet h

theorem acceptHb_idle (h : Idle config con) (packet : RastaPacket) :
    Idle config (acceptHb P con packet) := by
  have hupdated : Idle config (srDiagnosticUpdate P
      (srUpdateTimeoutInterval P con packet.confirmedTimestamp) packet) :=
    (srDiagnosticUpdate_frame P _ packet).idle
      ((srUpdateTimeoutInterval_frame P con packet.confirmedTimestamp).idle h)
  have hremoved := srRemoveConfirmedMessages_idle P (updateAttrs_idle hupdated packet)
  unfold acceptHb
  simp only
  split
  · exact setState_idle hremoved .up
  · exact hremoved

theorem prepareServer_idle (h : Idle config con) : Idle config (prepareServer P con) := by
  unfold prepareServer srInitConnection
  cases P.enableOpaque
  · exact ⟨h.1, h.2, h.3, h.4, h.5, h.6⟩
  · exact ⟨h.1, h.2, h.3, h.4, h.5, h.6⟩

theorem acceptConreq_idle (h : Idle config con) (packet : RastaPacket) :
    Idle config (acceptConreq P con packet) := by
  have hupdated := setBuffer_idle (updateAttrs_idle h packet)
    (extractRastaConnectionData P packet).sendMax.toNat con.config.tMax
  refine redundancyMuxSend_idle P
    (setState_idle (incrementSnT_idle (tick_idle hupdated)) .start) ?_
  refine le_length_of_small (RastaHashingContext.checksumLen_le _) (by decide : 14 ≤ 1024) ?_
  rw [← h.hashingContext]
  rfl

theorem sendKexRequest_idle (h : Idle config con) : Idle config (sendKexRequest P con) := by
  obtain habort | ⟨base, request, hbase, -, hlength, -, hsend⟩ := sendKexRequest_cases P con
  · rw [habort]
    exact ⟨h.1, h.2, h.3, h.4, h.5, h.6⟩
  · have hcounted := hbase.idle h
    have harmed : Idle config (armRekeying base) := by
      unfold armRekeying
      split <;> exact ⟨hcounted.1, hcounted.2, hcounted.3, hcounted.4, hcounted.5, hcounted.6⟩
    have hsent := redundancyMuxSend_idle P harmed
      (initializePacket_idle h P.libOpaque.lens_le.1 hlength)
    rw [hsend]
    exact setState_idle (stampKeyExchange_idle (incrementSnT_idle hsent)) .kexResp

theorem acceptConresp_idle (h : Idle config con) (packet : RastaPacket) :
    Idle config (acceptConresp P con packet) := by
  have hanswer : Idle config (answerConresp P con packet) :=
    sendHeartbeat_idle P (setState_idle (setCsR_idle h packet) .up) true
  have hstarted : Idle config (startKeyExchange P (answerConresp P con packet)) := by
    unfold startKeyExchange
    split
    · exact sendKexRequest_idle P hanswer
    · exact hanswer
  unfold acceptConresp superviseConnection
  split
  · exact hstarted
  · exact enableTimeout_idle (supervise_idle (enableHeartbeat_idle hstarted) _ _)

theorem answerKex_idle (h : Idle config con) {base : Connection} (hbase : Counted con base)
    {response : RastaPacket} {dataLen : ℕ} (hsmall : dataLen ≤ 1024)
    (hlength : response.length =
      UInt16.ofNat (28 + con.srHashingContext.checksumLen + dataLen)) (state : RastaSrState) :
    Idle config (setSessionKey (setState (srRemoveConfirmedMessages P
      (updateKexAttrs (incrementSnT (redundancyMuxSend P base response)) packet)) state)) := by
  have hsent := redundancyMuxSend_idle P (hbase.idle h) (initializePacket_idle h hsmall hlength)
  have hremoved := srRemoveConfirmedMessages_idle P
    (updateAttrs_idle (incrementSnT_idle hsent) packet)
  exact setSessionKey_idle (setState_idle hremoved state)

/-- No packet makes an idle connection set the error variable. -/
theorem Received.idle (hreceived : Received P con packet after) (h : Idle config con) :
    Idle config after := by
  cases hreceived with
  | ignored hbase => exact hbase.idle h
  | closed hbase reason => exact srCloseConnection_idle P (hbase.idle h) reason 0
  | discReq hbase =>
    have hbaseIdle := hbase.idle h
    exact ⟨hbaseIdle.1, hbaseIdle.2, hbaseIdle.3, hbaseIdle.4, hbaseIdle.5, hbaseIdle.6⟩
  | @data base hbase =>
    have hadded := (srAddAppMessagesToBuffer_frame P base packet).idle (hbase.idle h)
    exact srRemoveConfirmedMessages_idle P (updateAttrs_idle hadded packet)
  | dataDropped hbase =>
    have hbaseIdle := hbase.idle h
    exact ⟨hbaseIdle.1, hbaseIdle.2, hbaseIdle.3, hbaseIdle.4, hbaseIdle.5, hbaseIdle.6⟩
  | retransmissionRequested hbase =>
    exact setState_idle (sendRetransmissionRequest_idle P (hbase.idle h)) .retrReq
  | heartbeatGap hbase => exact setState_idle (hbase.idle h) .retrReq
  | @retrReqInSeq base hbase _ _ hseq =>
    have hbaseSeq : srSnInSeq base packet = true := hbase.srSnInSeq.trans hseq
    unfold handleRetrreq
    rw [if_pos hbaseSeq]
    split
    · exact answerRetrreq_idle P
        (setCsR_idle (srCloseConnection_idle P (hbase.idle h) .retrFailed 0) packet)
    · exact answerRetrreq_idle P (setCsR_idle (hbase.idle h) packet)
  | @retrReqOutOfSeq base hbase =>
    have hbaseIdle := hbase.idle h
    have hset : Idle config (setCsR base packet) :=
      ⟨hbaseIdle.1, hbaseIdle.2, hbaseIdle.3, hbaseIdle.4, hbaseIdle.5, hbaseIdle.6⟩
    exact setState_idle (answerRetrreq_idle P hset) .retrReq
  | retrResp hbase => exact updateAttrs_idle (setState_idle (hbase.idle h) .retrRun) packet
  | @retrData base hbase =>
    exact setCsR_idle ((srAddAppMessagesToBuffer_frame P base packet).idle (hbase.idle h)) packet
  | heartbeatStart hbase =>
    have hkept := setCsR_idle (rejectStartHb_idle P (hbase.idle h) packet) packet
    exact setIsNew_idle (enableTimeout_idle (enableHeartbeat_idle
      (unlock_idle (setState_idle hkept _) false))) true
  | heartbeatLate hbase =>
    exact srCloseConnection_idle P (rejectStartHb_idle P (hbase.idle h) packet) _ 0
  | heartbeat hbase => exact acceptHb_idle P (hbase.idle h) packet
  | conreqRefused _ _ reason => exact srCloseConnection_idle P (prepareServer_idle P h) reason 0
  | conreqAccepted => exact acceptConreq_idle P (prepareServer_idle P h) packet
  | conrespAccepted => exact acceptConresp_idle P h packet
  | aborted hbase =>
    have hbaseIdle := hbase.idle h
    exact ⟨hbaseIdle.1, hbaseIdle.2, hbaseIdle.3, hbaseIdle.4, hbaseIdle.5, hbaseIdle.6⟩
  | kexRequest hbase _ _ _ _ response _ hlength =>
    exact answerKex_idle P h hbase P.libOpaque.lens_le.2.1 hlength .kexAuth
  | kexResponse hbase _ _ _ _ response _ hlength =>
    exact answerKex_idle P h hbase P.libOpaque.lens_le.2.2 hlength .up
  | kexAuth hbase =>
    exact setState_idle
      (srRemoveConfirmedMessages_idle P (updateAttrs_idle (hbase.idle h) packet)) .up

end Receiving

end LibRasta.Retransmission
