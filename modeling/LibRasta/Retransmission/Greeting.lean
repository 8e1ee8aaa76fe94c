/-
Module: LibRasta/Retransmission/Greeting.lean
source: src/c/retransmission/handlers.c, src/c/retransmission/safety_retransmission.c
digest: The handshake of two endpoints whose links lose nothing: the request, the response and the heartbeat lead from two idle endpoints to two conversing ones.
-/

import LibRasta.Retransmission.Admission
import LibRasta.Retransmission.Isolation
import LibRasta.Retransmission.Lockstep
import LibRasta.Retransmission.Subsequence

set_option autoImplicit false
set_option relaxedAutoImplicit false

namespace LibRasta.Retransmission

open LibRasta.Lib
open LibRasta.Lib.Lockstep
open LibRasta.Util
open LibRasta.Factory

section Waiting

variable (P : Platform) (ctx : RastaHashingContext)

/-- Each endpoint is configured as the peer of the other, and the client accepts the version of
the server. -/
structure Introduced (client server : Connection) : Prop where
  clientId : client.myId = server.remoteId
  serverId : server.myId = client.remoteId
  version : versionAccepted P client.config rastaVersion = true

/-- The endpoint takes no part in the session yet. -/
def Inactive (con : Connection) : Prop := con.currentState = .closed ∨ con.currentState = .down

instance (con : Connection) : Decidable (Inactive con) :=
  inferInstanceAs (Decidable (_ ∨ _))

/-- The endpoint runs and has nothing queued. -/
structure Waiting (con : Connection) : Prop where
  running : con.aborted = false
  fifoSend : con.fifoSend.items = []
  fifoRetransmission : con.fifoRetransmission.items = []
  lasterror : con.lasterror = .none
  hashingContext : con.hashingContext = ctx
  srHashingContext : con.srHashingContext = ctx
  kexMode : con.config.kexMode = .none
  monotone : Monotone con.clock

/-- The bytes show the first PDU of the connection, sent at `time`: a request, or the response that
confirms one. -/
structure Greets (type : RastaConnType) (confirms : UInt32) (time : ℕ) (con : Connection)
    (bytes : Bytes) : Prop where
  whole : 28 + ctx.checksumLen ≤ bytes.length
  type : (decodePdu P ctx bytes).type = type
  checksum : (decodePdu P ctx bytes).checksumCorrect = true
  senderId : (decodePdu P ctx bytes).senderId = con.myId
  receiverId : (decodePdu P ctx bytes).receiverId = con.remoteId
  number : (decodePdu P ctx bytes).sequenceNumber = con.config.initialSequenceNumber
  confirms : (decodePdu P ctx bytes).confirmedSequenceNumber = confirms
  echo : (decodePdu P ctx bytes).confirmedTimestamp = 0
  stamp : (decodePdu P ctx bytes).timestamp = UInt32.ofNat time
  past : time ≤ now con
  version : (extractRastaConnectionData P (decodePdu P ctx bytes)).version = rastaVersion

variable {P ctx} {con after : Connection} {event : Event} {type : RastaConnType}
  {confirms : UInt32} {time : ℕ} {bytes : Bytes}

theorem Waiting.idles (h : Waiting ctx con) (hidles : Idles con after) : Waiting ctx after where
  running := hidles.frame.aborted.trans h.running
  fifoSend := (congrArg Fifo.items hidles.same.fifoSend).trans h.fifoSend
  fifoRetransmission :=
    (congrArg Fifo.items hidles.same.fifoRetransmission).trans h.fifoRetransmission
  lasterror := hidles.same.lasterror.trans h.lasterror
  hashingContext := hidles.same.hashingContext.trans h.hashingContext
  srHashingContext := hidles.same.srHashingContext.trans h.srHashingContext
  kexMode := (congrArg (·.kexMode) hidles.frame.config).trans h.kexMode
  monotone := hidles.frame.clock ▸ h.monotone

theorem Inactive.idles (h : Inactive con) (hidles : Idles con after) : Inactive after := by
  unfold Inactive at h ⊢
  rwa [hidles.frame.currentState]

theorem Inactive.not_established (h : Inactive con) : ¬ Established con.currentState := by
  rcases h with hstate | hstate
  · rw [hstate]
    decide
  · rw [hstate]
    decide

theorem Greets.idles (h : Greets P ctx type confirms time con bytes) (hidles : Idles con after)
    (hmonotone : Monotone con.clock) : Greets P ctx type confirms time after bytes where
  whole := h.whole
  type := h.type
  checksum := h.checksum
  senderId := h.senderId.trans hidles.frame.myId.symm
  receiverId := h.receiverId.trans hidles.frame.remoteId.symm
  number := h.number.trans (congrArg (·.initialSequenceNumber) hidles.frame.config.symm)
  confirms := h.confirms
  echo := h.echo
  stamp := h.stamp
  past := h.past.trans (hidles.later hmonotone)
  version := h.version

/-- A connection request or response with the version of the library. -/
theorem greets_encoded {header : PacketHeader} (sendMax : UInt16)
    (hsender : header.senderId = con.myId) (hreceiver : header.receiverId = con.remoteId)
    (hnumber : header.sequenceNumber = con.config.initialSequenceNumber)
    (hconfirms : header.confirmedSequenceNumber = confirms) (hecho : header.confirmedTimestamp = 0)
    (hstamp : header.timestamp = UInt32.ofNat time) (hpast : time ≤ now con) :
    Greets P ctx type confirms time con (encodePdu P ctx (fillData
      (initializePacket P type header 14 ctx) (connectionData rastaVersion sendMax))) := by
  have hlength : 28 + ctx.checksumLen ≤ (fillData (initializePacket P type header 14 ctx)
      (connectionData rastaVersion sendMax)).length.toNat :=
    initializePacket_length P type header (by decide : (14 : UInt16).toNat ≤ 14) ctx
  have hle := ctx.checksumLen_le
  have hwell : WellFormed ctx (fillData (initializePacket P type header 14 ctx)
      (connectionData rastaVersion sendMax)) := by
    apply fillData_wellFormed
    apply initializePacket_wellFormed
    have hfourteen : (14 : UInt16).toNat = 14 := rfl
    omega
  have hdata : (fillData (initializePacket P type header 14 ctx)
      (connectionData rastaVersion sendMax)).data = connectionData rastaVersion sendMax :=
    store_all _ _ rfl
  have hdecoded := decodePdu_encodePdu P hlength
  constructor
  case whole => rwa [length_encodePdu P hlength]
  case past => exact hpast
  all_goals rw [hdecoded]
  · rfl
  · rfl
  · exact hsender
  · exact hreceiver
  · exact hnumber
  · exact hconfirms
  · exact hecho
  · exact hstamp
  · have hversion := readBytes_append_front P rastaVersion
      (hostShortToLe sendMax ++ List.replicate 8 0)
    have hfourteen : (connectionData rastaVersion sendMax).length = 14 := rfl
    rw [reencoded_of_wellFormed P hwell, extractRastaConnectionData, hdata, if_pos hfourteen]
    exact hversion

end Waiting

section Handshake

variable (P : Platform) (ctx : RastaHashingContext)

/-- The connection sent its first PDU: a request or a response. -/
structure Begins (type : RastaConnType) (confirms : UInt32) (time : ℕ) (con after : Connection) :
    Prop where
  waiting : Waiting ctx after
  state : after.currentState = .start
  keyless : Keyless P after
  snT : after.snT = con.config.initialSequenceNumber + 1
  sent : ∃ pdu : SentPdu, newlySent con after = [pdu] ∧ pdu.packet.type = type ∧
    Greets P ctx type confirms time after pdu.innerBytes
  fixed : Fixed con after

/-- What a server remembers of the request it accepted. -/
structure Learns (packet : RastaPacket) (con : Connection) : Prop where
  role : con.role = .server
  snR : con.snR = packet.sequenceNumber + 1
  csT : con.csT = packet.sequenceNumber
  csR : con.csR = packet.confirmedSequenceNumber
  tsR : con.tsR = packet.timestamp
  ctsR : con.ctsR = packet.confirmedTimestamp

variable {P ctx} {con after : Connection} {bytes : Bytes} {packet : RastaPacket}

theorem initialKexState_keyless (h : after.kexState = initialKexState P con) : Keyless P after := by
  unfold initialKexState at h
  cases henable : P.enableOpaque with
  | false => exact .inl henable
  | true =>
    rw [henable] at h
    exact .inr (.inr (by rw [h]; rfl))

/-- `sr_connect` sends a request. -/
theorem srConnect_begins (h : Waiting ctx con) (hconnect : Connectable con) :
    ∃ since time, Begins P ctx .connReq 0 time con (srConnect P con true) ∧
      (srConnect P con true).role = .client ∧
      (srConnect P con true).ctsR = UInt32.ofNat since ∧ since ≤ time := by
  have hconnected : srConnect P con true =
      sendConreq P (tick (clientStart con (initialKexState P con) (curTimestamp con))) := by
    rw [srConnect, if_pos hconnect, if_pos rfl, openSession_eq, prepareClient_eq]
    rfl
  have hfixed := srConnect_fixed P con true
  rw [hconnected] at hfixed ⊢
  have hkeyless := @initialKexState_keyless P con
    (sendConreq P (tick (clientStart con (initialKexState P con) (curTimestamp con)))) rfl
  generalize initialKexState P con = kexState at hfixed hkeyless ⊢
  generalize hstart : tick (clientStart con kexState (curTimestamp con)) = start
    at hfixed hkeyless ⊢
  have hlength : 28 + ctx.checksumLen ≤ (createConnectionRequest P start.remoteId start.myId
      start.snT (curTimestamp start) start.config.sendMax rastaVersion ctx).length.toNat :=
    initializePacket_length P .connReq
      ⟨start.remoteId, start.myId, start.snT, 0, curTimestamp start, 0⟩
      (by decide : (14 : UInt16).toNat ≤ 14) ctx
  have hctx : start.hashingContext = ctx := by
    rw [← hstart]
    exact h.hashingContext
  have hnone : start.lasterror = .none := by
    rw [← hstart]
    exact h.lasterror
  obtain ⟨herror, pdu, hsent, hpacket, hbytes⟩ :=
    @redundancyMuxSend_spec P ctx (tick start) _ hctx hnone hlength
  have hsince : now con ≤ now start := by
    rw [← hstart]
    exact now_le_now h.monotone rfl (Nat.le_succ _)
  have hpast : now start ≤ now (sendConreq P start) := by
    refine now_le_now ?_ rfl (Nat.le_add_right _ 2)
    rw [← hstart]
    exact h.monotone
  rw [← hctx] at hsent herror hbytes
  have hnew : newlySent con (sendConreq P start) = [pdu] := by
    refine newlySent_eq ?_
    rw [← hstart] at hsent ⊢
    exact hsent
  subst hstart
  refine ⟨now con, _, ⟨⟨h.running, h.fifoSend, h.fifoRetransmission, herror, h.hashingContext,
    h.srHashingContext, h.kexMode, h.monotone⟩, rfl, hkeyless, rfl, ⟨pdu, hnew, ?_, ?_⟩, hfixed⟩,
    rfl, rfl, hsince⟩
  · rw [hpacket]
    rfl
  · rw [hbytes, hctx]
    exact greets_encoded _ rfl rfl rfl rfl rfl rfl hpast

/-- A server answers the request of its peer. -/
theorem srReceive_accepts (hstate : con.currentState = .closed ∨ con.currentState = .down)
    (htype : packet.type = .connReq) (hvalid : RequestValid con packet)
    (hversion : (extractRastaConnectionData P packet).version = rastaVersion) :
    (srReceive P con packet).1 = acceptConreq P (prepareServer P con) packet := by
  have haccepted : ConreqAccepted P con packet := by
    refine ⟨htype, hstate, (srCheckPacket_conreq_iff htype).mpr hvalid, ?_⟩
    have hsame : compareVersion P rastaVersion rastaVersion = 0 :=
      (compareVersion_eq_zero_iff rastaVersion rastaVersion).mpr rfl
    rw [hversion, conreqVersionAccepted, hsame]
    rfl
  rw [srReceive, if_pos htype]
  exact handleConreq_of_accepted P haccepted

theorem serverStart_spec (h : Waiting ctx con) (kexState : KeyExchangeState) :
    let noted := serverStart P con kexState packet
    Waiting ctx noted ∧ Learns packet noted ∧ noted.kexState = kexState ∧
      noted.snT = con.config.initialSequenceNumber ∧ noted.sent = con.sent ∧
      noted.config = con.config := by
  unfold serverStart noteConreq
  generalize extractRastaConnectionData P packet = connectionData
  exact ⟨⟨h.running, h.fifoSend, h.fifoRetransmission, h.lasterror, h.hashingContext,
    h.srHashingContext, h.kexMode, h.monotone⟩, ⟨rfl, rfl, rfl, rfl, rfl, rfl⟩, rfl, rfl, rfl, rfl⟩

theorem acceptConreq_begins (h : Waiting ctx con) (hecho : packet.confirmedTimestamp = 0) :
    (∃ time, Begins P ctx .connResp packet.sequenceNumber time con
        (acceptConreq P (prepareServer P con) packet)) ∧
      Learns packet (acceptConreq P (prepareServer P con) packet) := by
  have hfixed :=
    (prepareServer_fixed P con).trans (acceptConreq_fixed P (prepareServer P con) packet)
  have hctx : (prepareServer P con).hashingContext = ctx :=
    (prepareServer_fixed P con).hashingContext.trans h.hashingContext
  have hconfig : (prepareServer P con).config = con.config := prepareServer_config P con
  have hkeyless := @initialKexState_keyless P con (acceptConreq P (prepareServer P con) packet)
  obtain ⟨hnoted, hlearns, hkexState, hsnT, hsent, hsame⟩ :=
    @serverStart_spec P ctx con packet h (initialKexState P con)
  rw [acceptConreq_eq, noteConreq_eq, hconfig, hctx] at hfixed hkeyless ⊢
  generalize serverStart P con (initialKexState P con) packet = noted at *
  have hlength := @initializePacket_length P .connResp
    { nextHeader noted with confirmedTimestamp := packet.confirmedTimestamp } 14
    (by decide : (14 : UInt16).toNat ≤ 14) ctx
  obtain ⟨herror, pdu, hpdu, hpacket, hbytes⟩ :=
    @redundancyMuxSend_spec P ctx (setState (incrementSnT (tick noted)) .start)
      (createConnectionResponse P
        { nextHeader noted with confirmedTimestamp := packet.confirmedTimestamp }
        con.config.sendMax rastaVersion ctx) hnoted.hashingContext hnoted.lasterror hlength
  have hnew := newlySent_eq (hpdu.trans (congrArg (· ++ [pdu]) hsent))
  have hpast : now noted ≤ now (tick noted) :=
    now_le_now hnoted.monotone rfl (Nat.le_succ noted.clockReads)
  refine ⟨⟨now noted, ⟨hnoted.running, hnoted.fifoSend, hnoted.fifoRetransmission, herror,
    hnoted.hashingContext, hnoted.srHashingContext, hnoted.kexMode, hnoted.monotone⟩, rfl,
    hkeyless hkexState, ?_, ⟨pdu, hnew, ?_, ?_⟩, hfixed⟩,
    ⟨hlearns.role, hlearns.snR, hlearns.csT, hlearns.csR, hlearns.tsR, hlearns.ctsR⟩⟩
  · exact congrArg (· + 1) hsnT
  · rw [hpacket]
    rfl
  · rw [hbytes]
    refine greets_encoded _ rfl rfl ?_ hlearns.csT hecho rfl hpast
    exact hsnT.trans (congrArg (·.initialSequenceNumber) hsame.symm)

theorem sendHeartbeat_sent (hctx : con.hashingContext = ctx) (hsr : con.srHashingContext = ctx)
    (herror : con.lasterror = .none) (rescheduleManually : Bool) :
    ∃ pdu : SentPdu, newlySent con (sendHeartbeat P con rescheduleManually) = [pdu] ∧
      (decodePdu P ctx pdu.innerBytes).type = .hb := by
  have hlength : 28 + ctx.checksumLen ≤
      (createHeartbeat P (nextHeader con) con.srHashingContext).length.toNat :=
    control_length .hb (nextHeader con) hsr
  obtain ⟨-, pdu, hsent, -, hbytes⟩ :=
    @redundancyMuxSend_spec P ctx (tick con) _ hctx herror hlength
  refine ⟨pdu, ?_, ?_⟩
  · refine newlySent_eq ?_
    cases rescheduleManually
    · exact hsent
    · exact hsent
  · rw [hbytes, decodePdu_encodePdu P hlength]
    rfl

theorem superviseConnection_idles (con : Connection) (packet : RastaPacket) :
    Idles con (superviseConnection P con packet) := by
  refine ⟨?_, superviseConnection_same con packet⟩
  unfold superviseConnection
  split
  · exact (SendFrame.refl con).peerFrame
  · exact ⟨rfl, rfl, rfl, rfl, rfl, rfl, rfl, rfl, rfl, rfl, rfl, rfl, Nat.le_add_right _ 2, rfl⟩

/-- The client takes the response. -/
theorem srReceive_establishes (hstate : con.currentState = .start) (hrole : con.role = .client)
    (htype : packet.type = .connResp) (hcheck : srCheckPacket con packet = true)
    (hversion : versionAccepted P con.config (extractRastaConnectionData P packet).version = true) :
    (srReceive P con packet).1 = acceptConresp P con packet := by
  simp [srReceive, handleConresp, htype, hstate, hrole, hcheck, hversion]

/-- It answers with a heartbeat. -/
theorem acceptConresp_utters (h : Waiting ctx con) (packet : RastaPacket) :
    let mid := setState (setCsR (updateConnectionAttrs con packet) packet) .up
    Utters P ctx mid (acceptConresp P con packet) [] ∧
      ∃ pdu : SentPdu, newlySent con (acceptConresp P con packet) = [pdu] ∧
        (decodePdu P ctx pdu.innerBytes).type = .hb := by
  intro mid
  have hafter : acceptConresp P con packet =
      superviseConnection P (sendHeartbeat P mid true) packet := by
    rw [acceptConresp_eq h.kexMode]
    rfl
  have hsupervised := @superviseConnection_idles P (sendHeartbeat P mid true) packet
  have hutters : Utters P ctx mid (sendHeartbeat P mid true) [] := sendHeartbeat_utters mid true
  rw [hafter]
  refine ⟨hutters.trans hsupervised.utters, ?_⟩
  obtain ⟨pdu, hnew, hhb⟩ := @sendHeartbeat_sent P ctx mid h.hashingContext h.srHashingContext
    h.lasterror true
  refine ⟨pdu, ?_, hhb⟩
  rw [newlySent, hsupervised.same.sent]
  exact hnew

end Handshake

section Phases

variable (P : Platform) (ctx : RastaHashingContext)

/-- Nothing was sent to or taken from the users of the two endpoints. -/
structure Meeting (client server : Party) : Prop where
  clientWaiting : Waiting ctx client.con
  serverWaiting : Waiting ctx server.con
  peers : Introduced P client.con server.con
  pushed : client.pushed = [] ∧ server.pushed = []
  appended : client.appended = [] ∧ server.appended = []

/-- Neither endpoint has sent anything. -/
structure Apart (client server : Party) : Prop extends Meeting P ctx client server where
  clientState : Inactive client.con
  serverState : Inactive server.con
  incoming : client.incoming = [] ∧ server.incoming = []
  output : client.output = [] ∧ server.output = []

/-- The party has sent its first PDU. -/
structure Begun (party : Party) : Prop where
  keyless : Keyless P party.con
  snT : party.con.snT = party.con.config.initialSequenceNumber + 1
  undemanding : Undemanding party.output
  once : numbersUsed party.output = 1

/-- The request is on its way. -/
structure Requested (client server : Party) : Prop extends Meeting P ctx client server where
  begun : Begun P client
  clientState : client.con.currentState = .start
  clientRole : client.con.role = .client
  serverState : Inactive server.con
  incoming : client.incoming = []
  output : server.output = []
  request : ∃ bytes since time, server.incoming = [bytes] ∧
    Greets P ctx .connReq 0 time client.con bytes ∧
    client.con.ctsR = UInt32.ofNat since ∧ since ≤ time

/-- The response is on its way. -/
structure Answering (client server : Party) : Prop extends Meeting P ctx client server where
  clientBegun : Begun P client
  serverBegun : Begun P server
  clientState : client.con.currentState = .start
  serverState : server.con.currentState = .start
  clientRole : client.con.role = .client
  serverRole : server.con.role = .server
  incoming : server.incoming = []
  response : ∃ bytes time, client.incoming = [bytes] ∧
    Greets P ctx .connResp client.con.config.initialSequenceNumber time server.con bytes
  snR : server.con.snR = client.con.config.initialSequenceNumber + 1
  csT : server.con.csT = client.con.config.initialSequenceNumber
  csR : server.con.csR = 0
  ctsR : server.con.ctsR = 0
  stamps : ∃ since time, client.con.ctsR = UInt32.ofNat since ∧
    server.con.tsR = UInt32.ofNat time ∧ since ≤ time ∧ time ≤ now client.con

/-- The handshake is over for the client; the heartbeat that completes it for the server may still
be on its way. -/
structure UnderWay (client server : Party) : Prop where
  conversing : Conversing P ctx client server
  client : client.con.currentState = .up
  server : server.con.currentState = .up ∨
    server.con.currentState = .start ∧ server.con.role = .server ∧
      ∃ bytes rest, server.incoming = bytes :: rest ∧ (decodePdu P ctx bytes).type = .hb

/-- A party only read the clock or switched timers. -/
structure Rests (before after : Party) : Prop where
  idles : Idles before.con after.con
  incoming : after.incoming = before.incoming
  output : after.output = before.output
  pushed : after.pushed = before.pushed
  appended : after.appended = before.appended

variable {P ctx} {party peer client server client' server' : Party} {con : Connection}

theorem Rests.refl (party : Party) : Rests party party :=
  ⟨Idles.refl party.con, rfl, rfl, rfl, rfl⟩

theorem Meeting.rests (h : Meeting P ctx client server) (hclient : Rests client client')
    (hserver : Rests server server') : Meeting P ctx client' server' := by
  have hc := hclient.idles.frame
  have hs := hserver.idles.frame
  refine ⟨h.clientWaiting.idles hclient.idles, h.serverWaiting.idles hserver.idles, ⟨?_, ?_, ?_⟩,
    ⟨hclient.pushed.trans h.pushed.1, hserver.pushed.trans h.pushed.2⟩,
    ⟨hclient.appended.trans h.appended.1, hserver.appended.trans h.appended.2⟩⟩
  · rw [hc.myId, hs.remoteId]
    exact h.peers.clientId
  · rw [hs.myId, hc.remoteId]
    exact h.peers.serverId
  · rw [hc.config]
    exact h.peers.version

theorem Begun.rests {party' : Party} (h : Begun P party) (hrests : Rests party party') :
    Begun P party' where
  keyless := h.keyless.congr hrests.idles.frame.role hrests.idles.frame.kexState
  snT := by
    rw [hrests.idles.same.snT, hrests.idles.frame.config]
    exact h.snT
  undemanding := hrests.output ▸ h.undemanding
  once := (congrArg numbersUsed hrests.output).trans h.once

theorem Apart.rests (h : Apart P ctx client server) (hclient : Rests client client')
    (hserver : Rests server server') : Apart P ctx client' server' where
  toMeeting := h.toMeeting.rests hclient hserver
  clientState := h.clientState.idles hclient.idles
  serverState := h.serverState.idles hserver.idles
  incoming := ⟨hclient.incoming.trans h.incoming.1, hserver.incoming.trans h.incoming.2⟩
  output := ⟨hclient.output.trans h.output.1, hserver.output.trans h.output.2⟩

theorem Requested.rests (h : Requested P ctx client server) (hclient : Rests client client')
    (hserver : Rests server server') : Requested P ctx client' server' where
  toMeeting := h.toMeeting.rests hclient hserver
  begun := h.begun.rests hclient
  clientState := hclient.idles.frame.currentState.trans h.clientState
  clientRole := hclient.idles.frame.role.trans h.clientRole
  serverState := h.serverState.idles hserver.idles
  incoming := hclient.incoming.trans h.incoming
  output := hserver.output.trans h.output
  request := by
    obtain ⟨bytes, since, time, hbytes, hgreets, hctsR, hsince⟩ := h.request
    exact ⟨bytes, since, time, hserver.incoming.trans hbytes,
      hgreets.idles hclient.idles h.clientWaiting.monotone,
      hclient.idles.frame.ctsR.trans hctsR, hsince⟩

theorem Answering.rests (h : Answering P ctx client server) (hclient : Rests client client')
    (hserver : Rests server server') : Answering P ctx client' server' := by
  have hc := hclient.idles.frame
  have hs := hserver.idles.frame
  refine ⟨h.toMeeting.rests hclient hserver, h.clientBegun.rests hclient,
    h.serverBegun.rests hserver, hc.currentState.trans h.clientState,
    hs.currentState.trans h.serverState, hc.role.trans h.clientRole, hs.role.trans h.serverRole,
    hserver.incoming.trans h.incoming, ?_, ?_, ?_, hs.csR.trans h.csR, hs.ctsR.trans h.ctsR, ?_⟩
  · obtain ⟨bytes, time, hbytes, hgreets⟩ := h.response
    rw [hc.config]
    exact ⟨bytes, time, hclient.incoming.trans hbytes,
      hgreets.idles hserver.idles h.serverWaiting.monotone⟩
  · rw [hs.snR, hc.config]
    exact h.snR
  · rw [hs.csT, hc.config]
    exact h.csT
  · obtain ⟨since, time, hctsR, htsR, hsince, hpast⟩ := h.stamps
    exact ⟨since, time, hc.ctsR.trans hctsR, hs.tsR.trans htsR, hsince,
      hpast.trans (hclient.idles.later h.clientWaiting.monotone)⟩

/-- Before the connection is established, an event of its own leaves a party at rest. -/
theorem Waiting.own (h : Waiting ctx party.con) {event : Event} (hopen : KeepsOpen party.con event)
    (hstate : ¬ Established party.con.currentState) :
    Rests party (activityStep P party peer (.own event)).1 ∧
      Rests peer (activityStep P party peer (.own event)).2 := by
  have hidles := @endpointStep_silent P party.con event hopen hstate h.fifoSend
  have hnone := hidles.newlySent
  have hpushes : eventPushes P party.con event = [] := by
    cases event with
    | send appMessages => exact absurd (.inl hopen.1) hstate
    | _ => rfl
  unfold activityStep
  simp only [hnone, hpushes, Party.link_nil]
  refine ⟨⟨hidles, rfl, ?_, List.append_nil _, rfl⟩, .refl peer⟩
  show party.output ++ newlySent party.con (endpointStep P party.con event) = party.output
  rw [hnone, List.append_nil]

theorem activityStep_nothing (hincoming : party.incoming = []) :
    activityStep P party peer .deliver = (party, peer) := by
  unfold activityStep
  rw [hincoming]

theorem Introduced.fixed {before after other : Connection} (hfixed : Fixed before after) :
    (Introduced P before other → Introduced P after other) ∧
      (Introduced P other before → Introduced P other after) := by
  constructor
  · intro h
    refine ⟨hfixed.myId.trans h.clientId, h.serverId.trans hfixed.remoteId.symm, ?_⟩
    rw [hfixed.config]
    exact h.version
  · intro h
    exact ⟨h.clientId.trans hfixed.remoteId.symm, hfixed.myId.trans h.serverId, h.version⟩

/-- A party with nothing in its log that sends its first PDU. -/
theorem Begins.begun {type : RastaConnType} {confirms : UInt32} {time : ℕ} {after : Connection}
    (h : Begins P ctx type confirms time party.con after)
    (htype : type = .connReq ∨ type = .connResp) (houtput : party.output = []) {moved : Party}
    (hcon : moved.con = after) (hmoved : moved.output = party.output ++ newlySent party.con after) :
    Begun P moved := by
  obtain ⟨pdu, hnew, hpdu, -⟩ := h.sent
  have hone : moved.output = [pdu] := by
    rw [hmoved, houtput, hnew]
    rfl
  have hkept : pdu.packet.type ≠ .retrReq ∧ pdu.packet.type ≠ .discReq := by
    rw [hpdu]
    rcases htype with rfl | rfl
    · exact ⟨nofun, nofun⟩
    · exact ⟨nofun, nofun⟩
  subst hcon
  refine ⟨h.keyless, ?_, ?_, ?_⟩
  · rw [h.snT, h.fixed.config]
  · rw [hone]
    intro sent hsent
    rw [List.mem_singleton.mp hsent]
    exact hkept
  · rw [hone]
    simp [numbersUsed, hkept.2]

/-- `sr_connect`: without a transport channel nothing happens yet. -/
theorem Apart.connect (h : Apart P ctx client server) (transportOk : Bool) :
    let after := activityStep P client server (.own (.connect transportOk))
    Apart P ctx after.1 after.2 ∨ Requested P ctx after.1 after.2 := by
  have hstep : endpointStep P client.con (.connect transportOk) =
      srConnect P client.con transportOk := by
    rw [endpointStep, h.clientWaiting.running, if_neg Bool.false_ne_true]
  intro after
  have hafter : after = ({ client.moveTo (srConnect P client.con transportOk) with
        pushed := client.pushed ++ [] },
      server.link (newlySent client.con (srConnect P client.con transportOk))) := by
    show activityStep P client server (.own (.connect transportOk)) = _
    rw [activityStep, hstep]
    rfl
  by_cases hopens : Connectable client.con ∧ transportOk = true
  · obtain ⟨hconnect, rfl⟩ := hopens
    obtain ⟨since, time, hbegins, hrole, hctsR, hsince⟩ :=
      @srConnect_begins P ctx client.con h.clientWaiting hconnect
    obtain ⟨pdu, hnew, -, hgreets⟩ := hbegins.sent
    rw [hafter]
    refine .inr ⟨⟨hbegins.waiting, h.serverWaiting, (Introduced.fixed hbegins.fixed).1 h.peers, ?_,
      h.appended⟩, hbegins.begun (.inl rfl) h.output.1 rfl rfl, hbegins.state, hrole, h.serverState,
      h.incoming.1, h.output.2, pdu.innerBytes, since, time, ?_, hgreets, hctsR, hsince⟩
    · exact ⟨(List.append_nil _).trans h.pushed.1, h.pushed.2⟩
    · show server.incoming ++ (newlySent client.con _).map SentPdu.innerBytes = [pdu.innerBytes]
      rw [h.incoming.2, hnew]
      rfl
  · have hidles : Idles client.con (srConnect P client.con transportOk) := by
      unfold srConnect
      split
      · rename_i hconnect
        rw [if_neg fun hok => hopens ⟨hconnect, hok⟩]
        exact ⟨⟨rfl, rfl, rfl, rfl, rfl, rfl, rfl, rfl, rfl, rfl, rfl, rfl, Nat.le_refl _, rfl⟩,
          ⟨rfl, rfl, rfl, rfl, rfl, rfl, rfl, rfl⟩⟩
      · exact .refl client.con
    have hnone := hidles.newlySent
    rw [hafter, hnone, Party.link_nil]
    refine .inl (h.rests ⟨hidles, rfl, ?_, List.append_nil _, rfl⟩ (.refl server))
    show client.output ++ newlySent client.con _ = client.output
    rw [hnone, List.append_nil]

theorem newlyAppended_of_eq {before after : Connection}
    (h : after.fifoReceive.items = before.fifoReceive.items) : newlyAppended before after = [] := by
  rw [newlyAppended, h, List.drop_length]

/-- A whole PDU arrives at a party that runs. -/
theorem receiveBytes_whole {bytes : Bytes} (hrunning : con.aborted = false)
    (hctx : con.srHashingContext = ctx) (hwhole : 28 + ctx.checksumLen ≤ bytes.length) :
    receiveBytes P con bytes = (srReceive P con (decodePdu P ctx bytes)).1 := by
  rw [receiveBytes_eq hctx hwhole, endpointStep, hrunning, if_neg Bool.false_ne_true]

theorem prepareServer_fifoReceive (con : Connection) :
    (prepareServer P con).fifoReceive = con.fifoReceive := by
  unfold prepareServer srInitConnection
  cases P.enableOpaque
  · rfl
  · rfl

/-- The request arrives. -/
theorem Requested.deliver (h : Requested P ctx client server) :
    Answering P ctx (activityStep P server client .deliver).2
      (activityStep P server client .deliver).1 := by
  obtain ⟨bytes, since, time, hincoming, hgreets, hctsR, hsince⟩ := h.request
  have hreceived := @receiveBytes_whole P ctx server.con bytes h.serverWaiting.running
    h.serverWaiting.srHashingContext hgreets.whole
  have hvalid : RequestValid server.con (decodePdu P ctx bytes) :=
    ⟨hgreets.checksum, hgreets.senderId.trans h.peers.clientId,
      hgreets.receiverId.trans h.peers.serverId.symm, hgreets.confirms⟩
  rw [srReceive_accepts h.serverState hgreets.type hvalid hgreets.version] at hreceived
  obtain ⟨⟨answered, hbegins⟩, hlearns⟩ :=
    @acceptConreq_begins P ctx server.con (decodePdu P ctx bytes) h.serverWaiting hgreets.echo
  have hqueue : newlyAppended server.con
      (acceptConreq P (prepareServer P server.con) (decodePdu P ctx bytes)) = [] :=
    newlyAppended_of_eq (congrArg Fifo.items
      ((acceptConreq_fifoReceive _ _).trans (prepareServer_fifoReceive _)))
  obtain ⟨pdu, hnew, -, hanswers⟩ := hbegins.sent
  unfold activityStep
  rw [hincoming]
  simp only [hreceived, hqueue]
  generalize acceptConreq P (prepareServer P server.con) (decodePdu P ctx bytes) = after at *
  refine ⟨⟨h.clientWaiting, hbegins.waiting, (Introduced.fixed hbegins.fixed).2 h.peers, h.pushed,
    ⟨h.appended.1, ?_⟩⟩, ?_, ?_, h.clientState, hbegins.state, h.clientRole, hlearns.role, rfl,
    ⟨pdu.innerBytes, answered, ?_, ?_⟩, ?_, ?_, ?_, ?_,
    ⟨since, time, hctsR, ?_, hsince, hgreets.past⟩⟩
  · exact (List.append_nil _).trans h.appended.2
  · exact ⟨h.begun.keyless, h.begun.snT, h.begun.undemanding, h.begun.once⟩
  · exact hbegins.begun (.inr rfl) h.output rfl rfl
  · show client.incoming ++ (newlySent server.con after).map SentPdu.innerBytes = [pdu.innerBytes]
    rw [h.incoming, hnew]
    rfl
  · rw [hgreets.number] at hanswers
    exact hanswers
  · exact hlearns.snR.trans (congrArg (· + 1) hgreets.number)
  · exact hlearns.csT.trans hgreets.number
  · exact hlearns.csR.trans hgreets.confirms
  · exact hlearns.ctsR.trans hgreets.echo
  · exact hlearns.tsR.trans hgreets.stamp

/-- The side of an endpoint after the first PDU in each direction, with the stamps it remembers. -/
def startSide (con : Connection) (seen echoed : ℕ) : Side Bytes where
  next := con.config.initialSequenceNumber.toNat + 1
  expected := con.csT.toNat + 1
  confirmed := con.csR.toNat
  clock := now con
  seen := seen
  echoed := echoed
  queue := []
  pushed := []
  delivered := []

theorem ofNat_toNat_succ (n : UInt32) : UInt32.ofNat (n.toNat + 1) = n + 1 := by
  rw [ofNat_succ, UInt32.ofNat_toNat]

theorem Begun.attends (h : Begun P party) (hwaiting : Waiting ctx party.con)
    (hsnR : party.con.snR = party.con.csT + 1) {seen echoed : ℕ}
    (htsR : party.con.tsR = UInt32.ofNat seen) (hctsR : party.con.ctsR = UInt32.ofNat echoed)
    (hpushed : party.pushed = []) (happended : party.appended = []) :
    Attends P ctx party (startSide party.con seen echoed) where
  speaks := by
    refine ⟨hwaiting.hashingContext, hwaiting.srHashingContext, hwaiting.lasterror, ?_, ?_,
      hwaiting.monotone, ?_, ?_, rfl, htsR, hwaiting.fifoSend⟩
    · rw [hwaiting.fifoRetransmission]
      simp
    · rw [hwaiting.fifoSend]
      exact queueFits_nil _
    · rw [h.snT]
      exact (ofNat_toNat_succ _).symm
    · exact UInt32.ofNat_toNat.symm
  expected := by
    rw [hsnR]
    exact (ofNat_toNat_succ _).symm
  confirmed := UInt32.ofNat_toNat.symm
  echoed := hctsR
  next := by
    rw [h.once]
    rfl
  pushed := hpushed.symm
  delivered := happended.symm
  running := hwaiting.running
  kexMode := hwaiting.kexMode
  keyless := h.keyless
  undemanding := h.undemanding

/-- The client between the response and its heartbeat. -/
theorem Begun.taken (h : Begun P party) (hwaiting : Waiting ctx party.con)
    (hpushed : party.pushed = []) (happended : party.appended = []) (packet : RastaPacket)
    {seen echoed : ℕ} (hstamp : packet.timestamp = UInt32.ofNat seen)
    (hctsR : party.con.ctsR = UInt32.ofNat echoed) (incoming : List Bytes) :
    let mid := setState (setCsR (updateConnectionAttrs party.con packet) packet) .up
    Attends P ctx { party with con := mid, incoming := incoming } (startSide mid seen echoed) := by
  intro mid
  have hbegun : Begun P { party with con := mid, incoming := incoming } :=
    ⟨h.keyless.congr rfl rfl, h.snT, h.undemanding, h.once⟩
  exact hbegun.attends ⟨hwaiting.running, hwaiting.fifoSend, hwaiting.fifoRetransmission,
    hwaiting.lasterror, hwaiting.hashingContext, hwaiting.srHashingContext, hwaiting.kexMode,
    hwaiting.monotone⟩ rfl hstamp hctsR hpushed happended

/-- The response is one the client accepts. -/
theorem Answering.checks (h : Answering P ctx client server) {bytes : Bytes}
    {time : ℕ} (hgreets : Greets P ctx .connResp client.con.config.initialSequenceNumber time
      server.con bytes) : srCheckPacket client.con (decodePdu P ctx bytes) = true := by
  have hconfirms : (decodePdu P ctx bytes).confirmedSequenceNumber = client.con.snT - 1 := by
    rw [hgreets.confirms, h.clientBegun.snT, UInt32.add_sub_cancel]
  have hsender : (decodePdu P ctx bytes).senderId = client.con.remoteId :=
    hgreets.senderId.trans h.peers.serverId
  have hreceiver : (decodePdu P ctx bytes).receiverId = client.con.myId :=
    hgreets.receiverId.trans h.peers.clientId.symm
  simp [srCheckPacket, srMessageAuthentic, srSnRangeValid, srCsValid, srSnInSeq, srCtsInSeq,
    hgreets.type, hgreets.checksum, hconfirms, hsender, hreceiver]

/-- With the response taken, both sides are in step and nothing is under way. -/
theorem Answering.inStep (h : Answering P ctx client server) {bytes : Bytes} {time : ℕ}
    (hgreets : Greets P ctx .connResp client.con.config.initialSequenceNumber time server.con bytes)
    {since seen : ℕ} (hsince : since ≤ seen) (hpast : seen ≤ now client.con) :
    let packet := decodePdu P ctx bytes
    let mid := setState (setCsR (updateConnectionAttrs client.con packet) packet) .up
    InStep (startSide mid time since) (startSide server.con seen 0) [] [] := by
  intro packet mid
  have hconfirmed : server.con.csR.toNat = 0 := by
    rw [h.csR]
    rfl
  constructor
  · refine .clear ?_ ?_ (Nat.zero_le _) hgreets.past rfl
    · exact congrArg (·.toNat + 1) h.csT
    · exact lt_of_eq_of_lt hconfirmed (Nat.succ_pos _)
  · refine .clear ?_ ?_ hsince hpast rfl
    · exact congrArg (·.toNat + 1) hgreets.number
    · show (decodePdu P ctx bytes).confirmedSequenceNumber.toNat < server.con.csT.toNat + 1
      rw [hgreets.confirms, h.csT]
      exact Nat.lt_succ_self _

/-- The response arrives. -/
theorem Answering.deliver (h : Answering P ctx client server) :
    UnderWay P ctx (activityStep P client server .deliver).1
      (activityStep P client server .deliver).2 := by
  obtain ⟨bytes, time, hincoming, hgreets⟩ := h.response
  obtain ⟨since, seen, hctsR, htsR, hsince, hpast⟩ := h.stamps
  have hreceived := @receiveBytes_whole P ctx client.con bytes h.clientWaiting.running
    h.clientWaiting.srHashingContext hgreets.whole
  have hversion : versionAccepted P client.con.config
      (extractRastaConnectionData P (decodePdu P ctx bytes)).version = true := by
    rw [hgreets.version]
    exact h.peers.version
  rw [srReceive_establishes h.clientState h.clientRole hgreets.type (h.checks hgreets) hversion]
    at hreceived
  have hstep := h.inStep hgreets hsince hpast
  obtain ⟨hutters, pdu, hnew, hhb⟩ :=
    @acceptConresp_utters P ctx client.con h.clientWaiting (decodePdu P ctx bytes)
  obtain ⟨hup, -, -, hqueue⟩ :=
    @acceptConresp_receiver P client.con (decodePdu P ctx bytes) h.clientWaiting.kexMode
  simp only at hstep hutters
  -- the client between the response and the heartbeat
  generalize hmid : setState (setCsR (updateConnectionAttrs client.con (decodePdu P ctx bytes))
    (decodePdu P ctx bytes)) .up = mid at hstep hutters
  have hclient : Attends P ctx { client with con := mid, incoming := [] }
      (startSide mid time since) := by
    subst hmid
    exact h.clientBegun.taken h.clientWaiting h.pushed.1 h.appended.1 _ hgreets.stamp hctsR []
  have hserverNext : server.con.snR = server.con.csT + 1 := by
    rw [h.snR, h.csT]
  have hserver : Attends P ctx server (startSide server.con seen 0) :=
    h.serverBegun.attends h.serverWaiting hserverNext htsR h.ctsR h.pushed.2 h.appended.2
  have hconversing : Conversing P ctx { client with con := mid, incoming := [] } server := by
    refine ⟨⟨_, _, [], [], hstep, hclient, hserver, ?_, .nil⟩, ?_, ?_⟩
    · rw [h.incoming]
      exact .nil
    · subst hmid
      exact h.peers.clientId
    · subst hmid
      exact h.peers.serverId
  have hsame : newlySent mid (acceptConresp P client.con (decodePdu P ctx bytes)) =
      newlySent client.con (acceptConresp P client.con (decodePdu P ctx bytes)) := by
    subst hmid
    rfl
  have hafter := hconversing.utters hutters
  unfold activityStep
  rw [hincoming]
  simp only [hreceived, newlyAppended_of_eq (congrArg Fifo.items hqueue)]
  rw [Party.moveTo, hsame, List.append_nil] at hafter
  refine ⟨?_, hup, .inr ⟨h.serverState, h.serverRole, pdu.innerBytes, [], ?_, hhb⟩⟩
  · rw [List.append_nil]
    exact hafter
  · show server.incoming ++ (newlySent client.con _).map SentPdu.innerBytes = [pdu.innerBytes]
    rw [h.incoming, hnew]
    rfl

end Phases

end LibRasta.Retransmission
