/-
Module: LibRasta/Experimental/KeyExchange.lean
source: src/c/experimental/handlers.c, src/c/experimental/key_exchange.c, src/c/rastafactory.c, src/c/rasta_init.c
digest: The key exchange of the safety layer: its three PDUs and their handlers, with libopaque as an arbitrary function.
-/

import LibRasta.Retransmission.SafetyRetransmission

set_option autoImplicit false
set_option relaxedAutoImplicit false

namespace LibRasta.Retransmission

open LibRasta.Util
open LibRasta.Factory

section Translation

variable (P : Platform)

/-- The bytes of `htobe32`. -/
def hostToBe32 (v : UInt32) : Bytes := (hostLongToLe v).reverse

/-- The process ends. -/
def abort (con : Connection) : Connection :=
  { con with aborted := true }

/-- `errors.cs++`. -/
def countCsError (con : Connection) : Connection :=
  { con with errors := { con.errors with cs := con.errors.cs + 1 } }

/-- One more call of libopaque was made. -/
def countOpaqueCall (con : Connection) : Connection :=
  { con with opaqueCalls := con.opaqueCalls + 1 }

/-- `createKexRequest` and the state it leaves behind; `none` where it aborts. -/
def createKexRequest (con : Connection) : Option (RastaPacket × Connection) :=
  let result := P.libOpaque.createCredentialRequest con.opaqueCalls con.config.psk
  if result.1 ≠ 0 then none
  else
    let packet := initializePacket P .kexRequest (nextHeader con)
      P.libOpaque.userSessionPublicLen con.srHashingContext
    some (fillData packet result.2.2,
      { con with
        opaqueCalls := con.opaqueCalls + 1
        kexState :=
          { con.kexState with clientSecret := result.2.1, clientPublic := result.2.2 } })

/-- The rekeying timer is armed at the first key exchange; later ones only log the time. -/
def armRekeying (con : Connection) : Connection :=
  if con.kexState.lastKeyExchangedMillis = 0 ∧ con.config.rekeyingIntervalMs ≠ 0 then
    tick
      { con with
        rekeyingEvent :=
          TimedEvent.enable con
            { con.rekeyingEvent with interval := con.config.rekeyingIntervalMs * 1000000 / 2 } }
  else tick con

/-- `kex_state.last_key_exchanged_millis = get_current_time_ms()`. -/
def stampKeyExchange (con : Connection) : Connection :=
  tick
    { con with
      kexState := { con.kexState with lastKeyExchangedMillis := getCurrentTimeMs con } }

/-- `send_KexRequest`. -/
def sendKexRequest (con : Connection) : Connection :=
  if P.enableOpaque then
    match createKexRequest P con with
    | none => abort con
    | some (packet, con) =>
      let con := incrementSnT (redundancyMuxSend P (armRekeying (tick con)) packet)
      setState (stampKeyExchange con) .kexResp
  else abort con

/-- `key_exchange_prepare_from_psk` unless the configuration holds a record. -/
def prepareUserRecord (con : Connection) : Option Connection :=
  match con.config.pskRecord with
  | some record => some { con with kexState := { con.kexState with userRecord := record } }
  | none =>
    let result := P.libOpaque.register con.opaqueCalls con.config.psk
      (hostToBe32 con.myId) (hostToBe32 con.remoteId)
    if result.1 ≠ 0 then none
    else
      some
        { con with
          opaqueCalls := con.opaqueCalls + 1
          kexState := { con.kexState with userRecord := result.2 } }

/-- `kex_prepare_credential_response`. -/
def kexPrepareCredentialResponse (con : Connection) (request : Bytes) : Option Connection :=
  if request.length ≠ P.libOpaque.userSessionPublicLen.toNat then none
  else
    let result := P.libOpaque.createCredentialResponse con.opaqueCalls request
      con.kexState.userRecord (hostToBe32 con.myId) (hostToBe32 con.remoteId)
      (hostToBe32 con.snI)
    if result.1 ≠ 0 then none
    else
      some
        { con with
          opaqueCalls := con.opaqueCalls + 1
          kexState :=
            { con.kexState with
              certificateResponse := result.2.1
              sessionKey := result.2.2.1
              userAuthServer := result.2.2.2 } }

/-- The header of a PDU that answers `receivedPacket` before the connection was updated. -/
def answerHeader (con : Connection) (receivedPacket : RastaPacket) : PacketHeader where
  receiverId := con.remoteId
  senderId := con.myId
  sequenceNumber := con.snT
  confirmedSequenceNumber := receivedPacket.sequenceNumber
  timestamp := curTimestamp con
  confirmedTimestamp := receivedPacket.timestamp

/-- `createKexResponse` and the state it leaves behind; `none` where it aborts. -/
def createKexResponse (con : Connection) (receivedPacket : RastaPacket) :
    Option (RastaPacket × Connection) :=
  let packet := initializePacket P .kexResponse (answerHeader con receivedPacket)
    P.libOpaque.serverSessionLen con.srHashingContext
  ((prepareUserRecord P con).bind fun con =>
    kexPrepareCredentialResponse P con receivedPacket.data).map fun con =>
      (fillData packet con.kexState.certificateResponse, con)

/-- `rasta_set_hash_key_variable` on the context of the multiplexer. -/
def setSessionKey (con : Connection) : Connection :=
  { con with srHashingContext := { con.srHashingContext with key := con.kexState.sessionKey } }

/-- The attribute updates the three handlers share. -/
def updateKexAttrs (con : Connection) (receivedPacket : RastaPacket) : Connection :=
  updateConfirmedAttrs (updateConnectionAttrs con receivedPacket) receivedPacket

/-- What `handle_kex_request` does with an acceptable request. -/
def answerKexRequest (con : Connection) (receivedPacket : RastaPacket) : Connection :=
  match createKexResponse P (stampKeyExchange con) receivedPacket with
  | none => abort (stampKeyExchange con)
  | some (response, con) =>
    let con := incrementSnT (redundancyMuxSend P (tick con) response)
    let con := srRemoveConfirmedMessages P (updateKexAttrs con receivedPacket)
    setSessionKey (setState con .kexAuth)

/-- `handle_kex_request`. -/
def handleKexRequest (con : Connection) (receivedPacket : RastaPacket) : Connection × Bool :=
  if srSnInSeq con receivedPacket then
    if con.currentState ≠ .kexReq ∧
        (con.config.rekeyingIntervalMs = 0 ∨ con.currentState ≠ .up) then
      (srCloseConnection P con .unexpectedType 0, false)
    else if srCtsInSeq con receivedPacket then
      if con.config.kexMode = .none then (srCloseConnection P con .unexpectedType 0, false)
      else if P.enableOpaque then (answerKexRequest P con receivedPacket, false)
      else (abort con, false)
    else (srCloseConnection P (countCsError con) .protocolError 0, false)
  else (srCloseConnection P con .unexpectedType 0, false)

/-- `kex_recover_credential`: its return value and the state it leaves behind. -/
def kexRecoverCredential (con : Connection) (response : Bytes) : Int × Connection :=
  if response.length ≠ P.libOpaque.serverSessionLen.toNat then (-1, con)
  else
    let result := P.libOpaque.recoverCredentials con.opaqueCalls response
      con.kexState.clientSecret (hostToBe32 con.snI) (hostToBe32 con.remoteId)
      (hostToBe32 con.myId)
    (result.1,
      { con with
        opaqueCalls := con.opaqueCalls + 1
        kexState :=
          { con.kexState with
            sessionKey := result.2.1
            userAuthServer := result.2.2
            clientSecret := [] } })

/-- `handle_kex_response`. -/
def handleKexResponse (con : Connection) (receivedPacket : RastaPacket) : Connection × Bool :=
  if srSnInSeq con receivedPacket then
    if con.currentState ≠ .kexResp then (srCloseConnection P con .unexpectedType 0, false)
    else if srCtsInSeq con receivedPacket then
      if con.config.kexMode = .none then (srCloseConnection P con .unexpectedType 0, false)
      else if P.enableOpaque then
        let recovered := kexRecoverCredential P con receivedPacket.data
        if recovered.1 ≠ 0 then (srCloseConnection P recovered.2 .unexpectedType 0, true)
        else
          let con := recovered.2
          let response := fillData
            (initializePacket P .kexAuthentication (answerHeader con receivedPacket)
              P.libOpaque.authLen con.srHashingContext) con.kexState.userAuthServer
          let con := incrementSnT (redundancyMuxSend P (tick con) response)
          let con := srRemoveConfirmedMessages P (updateKexAttrs con receivedPacket)
          (setSessionKey (setState con .up), true)
      else (abort con, true)
    else (srCloseConnection P (countCsError con) .protocolError 0, false)
  else (srCloseConnection P con .unexpectedType 0, false)

/-- `kex_authenticate_user`. -/
def kexAuthenticateUser (con : Connection) (userAuth : Bytes) : Int :=
  if userAuth.length ≠ P.libOpaque.authLen.toNat then 1
  else P.libOpaque.userAuth con.opaqueCalls con.kexState.userAuthServer userAuth

/-- `handle_kex_auth`. -/
def handleKexAuth (con : Connection) (receivedPacket : RastaPacket) : Connection × Bool :=
  if srSnInSeq con receivedPacket then
    if con.currentState ≠ .kexAuth then (srCloseConnection P con .unexpectedType 0, false)
    else if srCtsInSeq con receivedPacket then
      if con.config.kexMode = .none then (srCloseConnection P con .unexpectedType 0, false)
      else if P.enableOpaque then
        if kexAuthenticateUser P con receivedPacket.data ≠ 0 then
          (srCloseConnection P con .unexpectedType 0, true)
        else
          (setState (srRemoveConfirmedMessages P
            (updateKexAttrs (countOpaqueCall con) receivedPacket)) .up, true)
      else (abort con, true)
    else (srCloseConnection P (countCsError con) .protocolError 0, false)
  else (srCloseConnection P con .unexpectedType 0, false)

end Translation

/-- The sum of some bytes, as a digest of one byte. -/
def byteSum (bytes : Bytes) : UInt8 := bytes.foldl (· + ·) 0

/-- A stand-in for libopaque that recovers the credentials exactly if password, ids and context
agree, and computes the session key from them. -/
def referenceLibOpaque : LibOpaque where
  register _ password _ _ := (0, password)
  createCredentialRequest _ password := (0, password, [byteSum password])
  createCredentialResponse _ _ record server client context :=
    (0, server ++ client ++ context ++ [byteSum record], context ++ record, [byteSum context])
  recoverCredentials _ response secret context server client :=
    if response = server ++ client ++ context ++ [byteSum secret] then
      (0, context ++ secret, [byteSum context])
    else (-1, [], [])
  userAuth _ expected received := if received = expected then 0 else -1
  userSessionPublicLen := 1
  serverSessionLen := 13
  authLen := 1
  lens_le := by decide

/-- The reference platform with the key exchange built in. -/
def exchangePlatform : Platform :=
  { referencePlatform with enableOpaque := true, libOpaque := referenceLibOpaque }

end LibRasta.Retransmission
