/-
Module: LibRasta/Experimental/ContextAgreement.lean
source: src/c/experimental/key_exchange.c, src/c/experimental/handlers.c, src/c/rastafactory.c, src/c/retransmission/safety_retransmission.c, src/c/retransmission/handlers.c
digest: The identities and the context both sides hand to libopaque: the identities always agree, the context agrees exactly if both sides use the same initial sequence number.
-/

import LibRasta.Experimental.Authentication

set_option autoImplicit false
set_option relaxedAutoImplicit false

namespace LibRasta.Retransmission

open LibRasta.Lib
open LibRasta.Util
open LibRasta.Factory

/-- The server id, the client id and the context `kex_prepare_credential_response` passes to
`opaque_CreateCredentialResponse`. -/
def responseArguments (con : Connection) : Bytes × Bytes × Bytes :=
  (hostToBe32 con.myId, hostToBe32 con.remoteId, hostToBe32 con.snI)

/-- Those `kex_recover_credential` passes to `opaque_RecoverCredentials`. -/
def recoverArguments (con : Connection) : Bytes × Bytes × Bytes :=
  (hostToBe32 con.remoteId, hostToBe32 con.myId, hostToBe32 con.snI)

section Initial

variable {P : Platform} {con base after : Connection} {packet : RastaPacket} {event : Event}

theorem Counted.snI (h : Counted con base) : base.snI = con.snI := by
  obtain ⟨_, _, _, _, rfl⟩ := h
  rfl

theorem DeliveryFrame.snI {before after : Connection} (h : DeliveryFrame before after) :
    after.snI = before.snI := by
  rw [h.rest]

theorem srCloseConnection_snI (con : Connection) (reason : RastaDisconnectReason)
    (details : UInt16) : (srCloseConnection P con reason details).snI = con.snI := by
  unfold srCloseConnection
  split
  · rfl
  · rfl

theorem rejectStartHb_snI (con : Connection) (packet : RastaPacket) :
    (rejectStartHb P con packet).snI = con.snI :=
  rejectStartHb_related P (R := fun a b => b.snI = a.snI) (fun _ => rfl)
    (fun _ _ _ hab hbc => hbc.trans hab) (fun c reason => srCloseConnection_snI c reason 0) con packet

theorem handleRetrreq_snI (con : Connection) (packet : RastaPacket) :
    (handleRetrreq P con packet).1.snI = con.snI := by
  unfold handleRetrreq
  split
  · have hclosing : (if con.currentState = .retrRun then srCloseConnection P con .retrFailed 0
        else con).snI = con.snI := by
      split
      · exact srCloseConnection_snI con _ _
      · rfl
    exact (answerRetrreq_frame P _).snI.trans hclosing
  · exact (answerRetrreq_frame P (setCsR con packet)).snI

theorem acceptHb_snI (con : Connection) (packet : RastaPacket) :
    (acceptHb P con packet).snI = con.snI := by
  have hremoved := (srRemoveConfirmedMessages_frame P (updateConfirmedAttrs (updateConnectionAttrs
    (srDiagnosticUpdate P (srUpdateTimeoutInterval P con packet.confirmedTimestamp) packet) packet)
    packet)).snI
  unfold acceptHb
  simp only
  split
  · exact hremoved
  · exact hremoved

theorem prepareServer_snI (con : Connection) :
    (prepareServer P con).snI = con.config.initialSequenceNumber := by
  unfold prepareServer srInitConnection
  cases P.enableOpaque <;> rfl

theorem acceptConreq_snI (con : Connection) (packet : RastaPacket) :
    (acceptConreq P con packet).snI = con.snI := by
  unfold acceptConreq
  dsimp only [redundancyMuxSend, setState, incrementSnT, tick, updateConfirmedAttrs,
    updateConnectionAttrs]

theorem acceptConresp_snI (con : Connection) (packet : RastaPacket) :
    (acceptConresp P con packet).snI = con.snI := by
  have hanswer : (answerConresp P con packet).snI = con.snI := (sendHeartbeat_frame P _ true).snI
  exact (superviseExchange_frame P _ packet).snI.trans hanswer

theorem answerKex_snI (con : Connection) (response packet : RastaPacket) (state : RastaSrState) :
    (setSessionKey (setState (srRemoveConfirmedMessages P (updateKexAttrs (incrementSnT
      (redundancyMuxSend P con response)) packet)) state)).snI = con.snI := by
  have hremoved := (srRemoveConfirmedMessages_frame P (updateKexAttrs (incrementSnT
    (redundancyMuxSend P con response)) packet)).snI
  exact hremoved.trans (redundancyMuxSend_frame P con response).snI

/-- No packet writes `sn_i` but a connection request, and that writes the own initial number. -/
theorem Received.snI_eq (h : Received P con packet after) :
    after.snI = con.snI ∨ after.snI = con.config.initialSequenceNumber := by
  cases h with
  | ignored hbase => exact .inl hbase.snI
  | closed hbase reason => exact .inl ((srCloseConnection_snI _ _ _).trans hbase.snI)
  | discReq hbase => exact .inl hbase.snI
  | @data base hbase =>
    have hadded := (srAddAppMessagesToBuffer_frame P base packet).snI.trans hbase.snI
    exact .inl ((srRemoveConfirmedMessages_frame P (updateConfirmedAttrs (updateConnectionAttrs
      (srAddAppMessagesToBuffer P base packet) packet) packet)).snI.trans hadded)
  | dataDropped hbase => exact .inl hbase.snI
  | @retransmissionRequested base hbase =>
    exact .inl ((sendRetransmissionRequest_frame P base).snI.trans hbase.snI)
  | heartbeatGap hbase => exact .inl hbase.snI
  | retrReqInSeq hbase => exact .inl ((handleRetrreq_snI _ packet).trans hbase.snI)
  | @retrReqOutOfSeq base hbase =>
    exact .inl ((answerRetrreq_frame P (setCsR base packet)).snI.trans hbase.snI)
  | retrResp hbase => exact .inl hbase.snI
  | @retrData base hbase =>
    exact .inl ((srAddAppMessagesToBuffer_frame P base packet).snI.trans hbase.snI)
  | @heartbeatStart base hbase =>
    have hrejected := (@rejectStartHb_snI P base packet).trans hbase.snI
    generalize rejectStartHb P base packet = rejected at hrejected ⊢
    exact .inl hrejected
  | @heartbeatLate base hbase =>
    exact .inl (((srCloseConnection_snI _ _ _).trans (rejectStartHb_snI base packet)).trans
      hbase.snI)
  | heartbeat hbase => exact .inl ((acceptHb_snI _ packet).trans hbase.snI)
  | conreqRefused => exact .inr ((srCloseConnection_snI _ _ _).trans (prepareServer_snI con))
  | conreqAccepted => exact .inr ((acceptConreq_snI _ packet).trans (prepareServer_snI con))
  | conrespAccepted => exact .inl (acceptConresp_snI con packet)
  | aborted hbase => exact .inl hbase.snI
  | kexRequest hbase _ _ _ _ response =>
    exact .inl ((answerKex_snI _ response packet _).trans hbase.snI)
  | kexResponse hbase _ _ _ _ response =>
    exact .inl ((answerKex_snI _ response packet _).trans hbase.snI)
  | @kexAuth base hbase =>
    exact .inl ((srRemoveConfirmedMessages_frame P (updateKexAttrs base packet)).snI.trans
      hbase.snI)

theorem openSession_snI (con : Connection) :
    (openSession P con).snI = con.config.initialSequenceNumber := by
  unfold openSession srInitConnection
  cases P.enableOpaque <;> rfl

theorem endpointStep_snI (con : Connection) (event : Event) :
    (endpointStep P con event).snI = con.snI ∨
      (endpointStep P con event).snI = con.config.initialSequenceNumber := by
  unfold endpointStep
  split
  · exact .inl rfl
  cases event with
  | receive packet => exact (srReceive_received P con packet).snI_eq
  | dataSend =>
    simp only
    split
    · exact .inl (dataSendEvent_frame P con).snI
    · exact .inl rfl
  | heartbeat =>
    simp only
    split
    · unfold heartbeatSendEvent
      split
      · exact .inl rfl
      · split
        · exact .inl (sendHeartbeat_frame P con false).snI
        · exact .inl rfl
    · exact .inl rfl
  | connectionExpired =>
    simp only
    split
    · unfold eventConnectionExpired
      split
      · exact .inl rfl
      · split
        · exact .inl (srCloseConnection_snI con .timeout 0)
        · exact .inl rfl
    · exact .inl rfl
  | timedKeyExchange =>
    simp only
    split
    · unfold sendTimedKeyExchange
      split
      · unfold rescheduleRekeying
        split
        · exact .inl (sendKexRequest_frame P con).snI
        · exact .inl (sendKexRequest_frame P con).snI
      · exact .inl rfl
    · exact .inl rfl
  | send appMessages =>
    simp only [srSend]
    split
    · split
      · exact .inl rfl
      · exact .inl (sendMessages_frame P appMessages con).snI
    · exact .inl rfl
    · exact .inl rfl
    all_goals exact .inl (sendDisconnectionRequest_frame P con .serviceNotAllowed 0).snI
  | connect transportOk =>
    simp only [srConnect]
    split
    · split
      · exact .inr (openSession_snI { con with seqTx := 0 })
      · exact .inl rfl
    · exact .inl rfl
  | connectReturn => exact .inl rfl
  | disconnect => exact .inl (srCloseConnection_snI con .userRequest 0)
  | transportClosed => exact .inl rfl
  | recv =>
    simp only [rastaRecv]
    split
    · exact .inl rfl
    · exact .inl rfl
  | accept => exact .inl rfl
  | acceptReturn => exact .inl rfl

/-- Both ways to start a session set `sn_i` to the own initial number. -/
theorem startsSession_snI (hrunning : con.aborted = false) (hstart : StartsSession P con event) :
    (endpointStep P con event).snI = con.config.initialSequenceNumber := by
  unfold endpointStep
  rw [hrunning, if_neg Bool.false_ne_true]
  cases event with
  | connect transportOk =>
    obtain ⟨rfl, hconnectable⟩ := hstart
    simp only [srConnect, if_pos hconnectable, if_true]
    exact openSession_snI { con with seqTx := 0 }
  | receive packet =>
    have haccepted : ConreqAccepted P con packet := hstart
    simp only [srReceive, if_pos haccepted.1, handleConreq_of_accepted P haccepted]
    exact (acceptConreq_snI _ packet).trans (prepareServer_snI con)
  | _ => exact hstart.elim

/-- From the start of its first session on an endpoint uses its own initial number as context. -/
theorem run_snI (con : Connection) (hrunning : con.aborted = false)
    (hstart : StartsSession P con event) (events : List Event) :
    (run (endpointStep P) con (event :: events)).snI = con.config.initialSequenceNumber := by
  have hfirst := startsSession_snI hrunning hstart
  have hconfig := (endpointStep_fixed P con event).config
  rw [run_cons]
  generalize endpointStep P con event = started at hfirst hconfig ⊢
  induction events generalizing started with
  | nil => exact hfirst
  | cons next rest ih =>
    refine ih (endpointStep P started next) ?_ ((endpointStep_fixed P started next).config.trans hconfig)
    rcases endpointStep_snI started next with hsame | hinitial
    · exact hsame.trans hfirst
    · rw [hinitial, hconfig]

end Initial

section Exchange

variable (P : Platform)

/-- What libopaque promises: a response has its fixed length, and the credentials are recovered
from it if password, ids and context are those it was made from. -/
structure Recovers (lib : LibOpaque) : Prop where
  response_length : ∀ call request record (server client context : UInt32),
    (lib.createCredentialResponse call request record (hostToBe32 server) (hostToBe32 client)
      (hostToBe32 context)).2.1.length = lib.serverSessionLen.toNat
  recovers : ∀ registration creation call recovery password record secret request
    (server client context : UInt32),
    lib.register registration password (hostToBe32 server) (hostToBe32 client) = (0, record) →
    lib.createCredentialRequest creation password = (0, secret, request) →
    (lib.createCredentialResponse call request record (hostToBe32 server) (hostToBe32 client)
      (hostToBe32 context)).1 = 0 →
    (lib.recoverCredentials recovery
      (lib.createCredentialResponse call request record (hostToBe32 server) (hostToBe32 client)
        (hostToBe32 context)).2.1
      secret (hostToBe32 context) (hostToBe32 server) (hostToBe32 client)).1 = 0

/-- The client waits for the response to a request it made from its password, the server answers
that request, from its password or a record of it, and the client takes the answer for what it
waits for. -/
structure HonestExchange (client server : Connection) (request response : RastaPacket) :
    Prop where
  enabled : P.enableOpaque = true
  password : client.config.psk = server.config.psk
  asked : ∃ call, P.libOpaque.createCredentialRequest call client.config.psk =
    (0, client.kexState.clientSecret, request.data)
  record : ∀ record, server.config.pskRecord = some record → ∃ call,
    P.libOpaque.register call server.config.psk (hostToBe32 server.myId)
      (hostToBe32 server.remoteId) = (0, record)
  answered : ∃ answer after, createKexResponse P server request = some (answer, after) ∧
    response.data = answer.data
  state : client.currentState = .kexResp
  mode : client.config.kexMode ≠ .none
  inSequence : InSequence client response

variable {P} {client server : Connection} {request response : RastaPacket}

theorem hostToBe32_injective {v w : UInt32} (h : hostToBe32 v = hostToBe32 w) : v = w := by
  have hle : hostLongToLe v = hostLongToLe w := List.reverse_injective h
  have hbytes := hle
  simp only [hostLongToLe, le32, List.cons.injEq, and_true] at hbytes
  obtain ⟨h0, h1, h2, h3⟩ := hbytes
  rw [← ofLe32_le32 v, ← ofLe32_le32 w, h0, h1, h2, h3]

/-- The record the server answers with belongs to its password. -/
theorem prepareUserRecord_registered {after : Connection}
    (hrecord : ∀ record, server.config.pskRecord = some record → ∃ call,
      P.libOpaque.register call server.config.psk (hostToBe32 server.myId)
        (hostToBe32 server.remoteId) = (0, record))
    (h : prepareUserRecord P server = some after) :
    ∃ call, P.libOpaque.register call server.config.psk (hostToBe32 server.myId)
      (hostToBe32 server.remoteId) = (0, after.kexState.userRecord) := by
  unfold prepareUserRecord at h
  split at h
  · rename_i record hsome
    obtain rfl := Option.some.inj h
    exact hrecord record hsome
  · simp only at h
    split at h
    · cases h
    · rename_i hzero
      obtain rfl := Option.some.inj h
      exact ⟨server.opaqueCalls, Prod.ext (not_not.mp hzero) rfl⟩

theorem kexPrepareCredentialResponse_response {after : Connection} {data : Bytes}
    (h : kexPrepareCredentialResponse P server data = some after) :
    let result := P.libOpaque.createCredentialResponse server.opaqueCalls data
      server.kexState.userRecord (hostToBe32 server.myId) (hostToBe32 server.remoteId)
      (hostToBe32 server.snI)
    result.1 = 0 ∧ after.kexState.certificateResponse = result.2.1 := by
  unfold kexPrepareCredentialResponse at h
  split at h
  · cases h
  · simp only at h
    split at h
    · cases h
    · rename_i hzero
      obtain rfl := Option.some.inj h
      exact ⟨not_not.mp hzero, rfl⟩

/-- If the arguments agree, the client recovers the credentials from the answer of the server. -/
theorem HonestExchange.recovered (h : HonestExchange P client server request response)
    (hrecovers : Recovers P.libOpaque)
    (hagree : client.remoteId = server.myId ∧ client.myId = server.remoteId ∧
      client.snI = server.snI) :
    (kexRecoverCredential P client response.data).1 = 0 := by
  obtain ⟨answer, after, hcreated, hdata⟩ := h.answered
  obtain ⟨creation, hasked⟩ := h.asked
  simp only [createKexResponse, Option.map_eq_some_iff, Option.bind_eq_some_iff,
    Prod.mk.injEq] at hcreated
  obtain ⟨_, ⟨prepared, hprepared, hresponse⟩, rfl, rfl⟩ := hcreated
  obtain ⟨registration, hregistered⟩ := prepareUserRecord_registered h.record hprepared
  obtain ⟨hzero, hcertificate⟩ := kexPrepareCredentialResponse_response hresponse
  obtain ⟨hserver, hclient, hcontext⟩ := hagree
  have hcounted := prepareUserRecord_counted P hprepared
  have hids : prepared.myId = server.myId ∧ prepared.remoteId = server.remoteId := by
    obtain ⟨_, _, _, _, hbase⟩ := hcounted
    rw [hbase]
    exact ⟨rfl, rfl⟩
  rw [hids.1, hids.2, hcounted.snI, ← hserver, ← hclient, ← hcontext] at hzero hcertificate
  rw [← h.password, ← hserver, ← hclient] at hregistered
  have hlength := hrecovers.response_length prepared.opaqueCalls request.data
    prepared.kexState.userRecord client.remoteId client.myId client.snI
  rw [← hcertificate] at hlength
  have hbytes : response.data = (P.libOpaque.createCredentialResponse prepared.opaqueCalls
      request.data prepared.kexState.userRecord (hostToBe32 client.remoteId)
      (hostToBe32 client.myId) (hostToBe32 client.snI)).2.1 := by
    rw [hdata, ← hcertificate]
    refine store_all _ _ ?_
    rw [hlength]
    simp [initializePacket, allocateRastaByteArray]
  have hrecovered := hrecovers.recovers registration creation prepared.opaqueCalls
    client.opaqueCalls client.config.psk _ _ _ client.remoteId client.myId client.snI hregistered
    hasked hzero
  unfold kexRecoverCredential
  rw [if_neg (not_not.mpr (by rw [hbytes, ← hcertificate, hlength]))]
  simp only [hbytes]
  exact hrecovered

/-- The client then takes the key exchange for complete. -/
theorem HonestExchange.completes (h : HonestExchange P client server request response)
    (hrecovered : (kexRecoverCredential P client response.data).1 = 0) :
    (handleKexResponse P client response).1.currentState = .up := by
  unfold handleKexResponse
  rw [if_pos h.inSequence.1, if_neg (not_not.mpr h.state), if_pos h.inSequence.2, if_neg h.mode,
    if_pos h.enabled]
  simp only [hrecovered, ne_eq, not_true_eq_false, if_false]
  rfl

/-- For all initial sequence numbers, ids and passwords of two endpoints that are configured for
each other, and for all runs in which the client opens a session and the server accepts one: both
pass the same ids and the same context to libopaque exactly if their initial sequence numbers are
equal, and then the client completes every honest key exchange. -/
theorem kex_arguments_agree_iff (clientConfig serverConfig : RastaConfigInfo)
    (clientClock serverClock : ℕ → ℕ)
    (hids : clientConfig.rastaId = serverConfig.rastaIdRemote ∧
      clientConfig.rastaIdRemote = serverConfig.rastaId)
    (clientPast clientEvents serverPast serverEvents : List Event) (conreq : RastaPacket)
    (hclient : (run (endpointStep P) (rastaLibInitConfiguration clientConfig clientClock)
        clientPast).aborted = false ∧
      StartsSession P (run (endpointStep P) (rastaLibInitConfiguration clientConfig clientClock)
        clientPast) (.connect true))
    (hserver : (run (endpointStep P) (rastaLibInitConfiguration serverConfig serverClock)
        serverPast).aborted = false ∧
      StartsSession P (run (endpointStep P) (rastaLibInitConfiguration serverConfig serverClock)
        serverPast) (.receive conreq)) :
    let client := run (endpointStep P) (rastaLibInitConfiguration clientConfig clientClock)
      (clientPast ++ .connect true :: clientEvents)
    let server := run (endpointStep P) (rastaLibInitConfiguration serverConfig serverClock)
      (serverPast ++ .receive conreq :: serverEvents)
    (recoverArguments client = responseArguments server ↔
        clientConfig.initialSequenceNumber = serverConfig.initialSequenceNumber) ∧
      (Recovers P.libOpaque →
        clientConfig.initialSequenceNumber = serverConfig.initialSequenceNumber →
        ∀ request response, HonestExchange P client server request response →
          (handleKexResponse P client response).1.currentState = .up) := by
  intro client server
  have hclientFixed := run_fixed P (rastaLibInitConfiguration clientConfig clientClock)
    (clientPast ++ .connect true :: clientEvents)
  have hserverFixed := run_fixed P (rastaLibInitConfiguration serverConfig serverClock)
    (serverPast ++ .receive conreq :: serverEvents)
  have hclientContext : client.snI = clientConfig.initialSequenceNumber := by
    have hpast := (run_fixed P (rastaLibInitConfiguration clientConfig clientClock)
      clientPast).config
    have hsnI := run_snI _ hclient.1 hclient.2 clientEvents
    rw [hpast] at hsnI
    exact (congrArg Connection.snI (run_append _ _ clientPast _)).trans hsnI
  have hserverContext : server.snI = serverConfig.initialSequenceNumber := by
    have hpast := (run_fixed P (rastaLibInitConfiguration serverConfig serverClock)
      serverPast).config
    have hsnI := run_snI _ hserver.1 hserver.2 serverEvents
    rw [hpast] at hsnI
    exact (congrArg Connection.snI (run_append _ _ serverPast _)).trans hsnI
  have hserverId : client.remoteId = server.myId := by
    have hremote : client.remoteId = clientConfig.rastaIdRemote.toUInt32 := hclientFixed.remoteId
    have hmine : server.myId = serverConfig.rastaId.toUInt32 := hserverFixed.myId
    rw [hremote, hmine, hids.2]
  have hclientId : client.myId = server.remoteId := by
    have hmine : client.myId = clientConfig.rastaId.toUInt32 := hclientFixed.myId
    have hremote : server.remoteId = serverConfig.rastaIdRemote.toUInt32 := hserverFixed.remoteId
    rw [hmine, hremote, hids.1]
  refine ⟨?_, ?_⟩
  · simp only [recoverArguments, responseArguments, hserverId, hclientId, hclientContext,
      hserverContext, Prod.mk.injEq, true_and]
    exact ⟨hostToBe32_injective, congrArg hostToBe32⟩
  · intro hrecovers hequal request response hexchange
    have hcontext : client.snI = server.snI := by rw [hclientContext, hserverContext, hequal]
    exact hexchange.completes
      (hexchange.recovered hrecovers ⟨hserverId, hclientId, hcontext⟩)

end Exchange

section Example

theorem recovers_referenceLibOpaque : Recovers exchangePlatform.libOpaque where
  response_length _ _ _ _ _ _ := rfl
  recovers := by
    intro registration creation call recovery password record secret request server client
      context hregistered hasked _
    obtain ⟨-, rfl⟩ := Prod.mk.inj hregistered
    obtain ⟨-, hsecret⟩ := Prod.mk.inj hasked
    obtain ⟨rfl, -⟩ := Prod.mk.inj hsecret
    simp [exchangePlatform, referenceLibOpaque]

/-- The client of `exampleClient` with key exchange, after the handshake with a server that has
an initial sequence number of its own. -/
def exampleKexClient (initial : UInt32) : Connection :=
  run (endpointStep exchangePlatform)
    (rastaLibInitConfiguration { exampleConfig with kexMode := .opaqueMode, psk := [0x70] }
      fun reading => (5000 + reading) * 10 ^ 6)
    [.connect true, .receive { exampleConnResp with sequenceNumber := initial }]

/-- The configuration of that server. -/
def exampleKexConfig (initial : UInt32) : RastaConfigInfo :=
  { exampleRemoteConfig with
    initialSequenceNumber := initial
    kexMode := .opaqueMode
    psk := [0x70] }

/-- That server after the handshake. -/
def exampleKexPeer (initial : UInt32) : Connection :=
  run (endpointStep exchangePlatform)
    (rastaLibInitConfiguration (exampleKexConfig initial) fun reading => (9000 + reading) * 10 ^ 6)
    [.receive exampleRequest,
      .receive { exampleKexPacket .hb 101 [] with confirmedSequenceNumber := initial }]

/-- Its answer to the key exchange request of the client, as the client receives it. -/
def exampleKexAnswer (initial : UInt32) : RastaPacket :=
  { exampleConnResp with
    type := .kexResponse
    sequenceNumber := initial + 1
    confirmedSequenceNumber := 102
    data :=
      match createKexResponse exchangePlatform (exampleKexPeer initial)
          (exampleKexPacket .kexRequest 102 [0x70]) with
      | some (answer, _) => answer.data
      | none => [] }

theorem honestExchange_example {initial : UInt32}
    (hcreated : (createKexResponse exchangePlatform (exampleKexPeer initial)
      (exampleKexPacket .kexRequest 102 [0x70])).isSome = true)
    (hserver : (exampleKexPeer initial).config = exampleKexConfig initial)
    (hclient : (exampleKexClient initial).config.psk = [0x70] ∧
      (exampleKexClient initial).config.kexMode ≠ .none ∧
      (exampleKexClient initial).kexState.clientSecret = [0x70] ∧
      (exampleKexClient initial).currentState = .kexResp ∧
      InSequence (exampleKexClient initial) (exampleKexAnswer initial)) :
    HonestExchange exchangePlatform (exampleKexClient initial) (exampleKexPeer initial)
      (exampleKexPacket .kexRequest 102 [0x70]) (exampleKexAnswer initial) := by
  obtain ⟨hpsk, hmode, hsecret, hstate, hseq⟩ := hclient
  refine ⟨rfl, ?_, ⟨0, ?_⟩, ?_, ?_, hstate, hmode, hseq⟩
  · rw [hpsk, hserver]
    rfl
  · rw [hpsk, hsecret]
    rfl
  · intro record hrecord
    rw [hserver] at hrecord
    cases hrecord
  · obtain ⟨⟨answer, after⟩, hcreated⟩ := Option.isSome_iff_exists.mp hcreated
    exact ⟨answer, after, hcreated, by simp [exampleKexAnswer, hcreated]⟩

/-- Both sides start with 100, and the exchange completes. -/
theorem kex_arguments_agree_iff_same :
    recoverArguments (exampleKexClient 100) = responseArguments (exampleKexPeer 100) ∧
      (handleKexResponse exchangePlatform (exampleKexClient 100)
        (exampleKexAnswer 100)).1.currentState = .up := by
  obtain ⟨hiff, hcompletes⟩ := @kex_arguments_agree_iff exchangePlatform
    { exampleConfig with kexMode := .opaqueMode, psk := [0x70] } (exampleKexConfig 100)
    (fun reading => (5000 + reading) * 10 ^ 6) (fun reading => (9000 + reading) * 10 ^ 6)
    ⟨rfl, rfl⟩ [] [.receive { exampleConnResp with sequenceNumber := 100 }] []
    [.receive { exampleKexPacket .hb 101 [] with confirmedSequenceNumber := 100 }] exampleRequest
    ⟨rfl, by decide +kernel⟩ ⟨rfl, by decide +kernel⟩
  refine ⟨hiff.mpr rfl, ?_⟩
  exact hcompletes recovers_referenceLibOpaque rfl _ _
    (honestExchange_example (by decide +kernel) (by decide +kernel) (by decide +kernel))

/-- The client starts with 100 and the server with 700: the client closes the connection on the
honest answer. -/
theorem honest_exchange_closed :
    Recovers exchangePlatform.libOpaque ∧
      HonestExchange exchangePlatform (exampleKexClient 700) (exampleKexPeer 700)
        (exampleKexPacket .kexRequest 102 [0x70]) (exampleKexAnswer 700) ∧
      recoverArguments (exampleKexClient 700) ≠ responseArguments (exampleKexPeer 700) ∧
      (endpointStep exchangePlatform (exampleKexClient 700)
        (.receive (exampleKexAnswer 700))).currentState = .closed :=
  ⟨recovers_referenceLibOpaque,
    honestExchange_example (by decide +kernel) (by decide +kernel) (by decide +kernel),
    by decide +kernel, by decide +kernel⟩

end Example

end LibRasta.Retransmission
