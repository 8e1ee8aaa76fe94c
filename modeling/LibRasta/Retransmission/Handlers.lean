/-
Module: LibRasta/Retransmission/Handlers.lean
source: src/c/retransmission/handlers.c, src/c/retransmission/protocol.c, src/c/retransmission/safety_retransmission.c
digest: The handlers of all packet types and the dispatch of `sr_receive`.
-/

import LibRasta.Experimental.KeyExchange

set_option autoImplicit false
set_option relaxedAutoImplicit false

namespace LibRasta.Retransmission

open LibRasta.Util
open LibRasta.Factory

section Translation

variable (P : Platform)

/-- `errors.sn++`. -/
def countSnError (con : Connection) : Connection :=
  { con with errors := { con.errors with sn := con.errors.sn + 1 } }

/-- `errors.type++`. -/
def countTypeError (con : Connection) : Connection :=
  { con with errors := { con.errors with type := con.errors.type + 1 } }

/-- `errors.safety++`. -/
def countSafetyError (con : Connection) : Connection :=
  { con with errors := { con.errors with safety := con.errors.safety + 1 } }

/-- `errors.address++`. -/
def countAddressError (con : Connection) : Connection :=
  { con with errors := { con.errors with address := con.errors.address + 1 } }

/-- `handle_discreq`. -/
def handleDiscreq (con : Connection) : Connection × Bool :=
  (srResetConnection (setState con .closed), true)

/-- What `handle_data` does with a Data PDU in sequence and in time in state UP. -/
def acceptData (con : Connection) (receivedPacket : RastaPacket) : Connection :=
  let con := srAddAppMessagesToBuffer P con receivedPacket
  srRemoveConfirmedMessages P
    (updateConfirmedAttrs (updateConnectionAttrs con receivedPacket) receivedPacket)

/-- `handle_data`. -/
def handleData (con : Connection) (receivedPacket : RastaPacket) : Connection × Bool :=
  if srSnInSeq con receivedPacket then
    match con.currentState with
    | .start | .kexReq | .kexResp | .kexAuth =>
      (srCloseConnection P con .unexpectedType 0, false)
    | .up =>
      if srCtsInSeq con receivedPacket then (acceptData P con receivedPacket, true)
      else (srCloseConnection P (countCsError con) .protocolError 0, false)
    | .retrRun =>
      if srCtsInSeq con receivedPacket then (updateConnectionAttrs con receivedPacket, false)
      else (srCloseConnection P con .protocolError 0, false)
    | .closed | .down | .retrReq => (con, false)
  else
    match con.currentState with
    | .start => (srCloseConnection P con .unexpectedType 0, false)
    | .retrRun | .up =>
      (setState (sendRetransmissionRequest P (countSnError con)) .retrReq, false)
    | .closed | .down | .kexReq | .kexResp | .kexAuth | .retrReq => (con, false)

/-- The part of `handle_retrreq` both branches end with: confirmed packets are removed, and
the rest is announced and retransmitted. -/
def answerRetrreq (con : Connection) : Connection :=
  srRetransmitData P (sendRetransmissionResponse P (srRemoveConfirmedMessages P con))

/-- `handle_retrreq`. In state RETRRUN the connection is closed first and the rest of the
branch still runs. -/
def handleRetrreq (con : Connection) (receivedPacket : RastaPacket) : Connection × Bool :=
  if srSnInSeq con receivedPacket then
    let con :=
      if con.currentState = .retrRun then srCloseConnection P con .retrFailed 0 else con
    (answerRetrreq P (setCsR (updateConnectionAttrs con receivedPacket) receivedPacket), false)
  else (setState (answerRetrreq P (setCsR con receivedPacket)) .retrReq, false)

/-- `handle_retrresp`. -/
def handleRetrresp (con : Connection) (receivedPacket : RastaPacket) : Connection × Bool :=
  if con.currentState = .retrReq then
    (updateConfirmedAttrs
      (updateConnectionAttrs (setState con .retrRun) receivedPacket) receivedPacket, false)
  else (srCloseConnection P con .unexpectedType 0, false)

/-- `handle_retrdata`. -/
def handleRetrdata (con : Connection) (receivedPacket : RastaPacket) : Connection × Bool :=
  if srSnInSeq con receivedPacket then
    match con.currentState with
    | .up => (srCloseConnection P con .unexpectedType 0, false)
    | .retrRun =>
      if srCtsInSeq con receivedPacket then
        (setCsR
          (updateConnectionAttrs (srAddAppMessagesToBuffer P con receivedPacket) receivedPacket)
          receivedPacket, true)
      else (srCloseConnection P con .protocolError 0, false)
    | .closed | .down | .start | .kexReq | .kexResp | .kexAuth | .retrReq => (con, false)
  else
    match con.currentState with
    | .up => (srCloseConnection P con .unexpectedType 0, false)
    | .retrRun => (setState (sendRetransmissionRequest P con) .retrReq, false)
    | .closed | .down | .start | .kexReq | .kexResp | .kexAuth | .retrReq => (con, false)

/-- The end of the handshake in `handle_hb`. -/
def establishByHb (con : Connection) (receivedPacket : RastaPacket) : Connection :=
  let con := setCsR (updateConnectionAttrs con receivedPacket) receivedPacket
  let con := setState con (if con.config.kexMode = .none then .up else .kexReq)
  let con := enableTimeout (enableHeartbeat { con with hbLocked := false })
  { con with isNew := true }

/-- The first rejection of `handle_hb` in state START, which does not leave the branch. -/
def rejectHbSn (con : Connection) (receivedPacket : RastaPacket) : Connection :=
  if srSnInSeq con receivedPacket then con
  else if con.role = .server then srCloseConnection P con .seqnError 0
  else srCloseConnection P con .unexpectedType 0

/-- The second rejection, which does not leave the branch either. -/
def rejectHbRole (con : Connection) : Connection :=
  if con.role = .client then srCloseConnection P con .unexpectedType 0 else con

/-- The connection after both rejections. -/
def rejectStartHb (con : Connection) (receivedPacket : RastaPacket) : Connection :=
  rejectHbRole P (rejectHbSn P con receivedPacket)

/-- What `handle_hb` does with a heartbeat in sequence and in time on a running connection. -/
def acceptHb (con : Connection) (receivedPacket : RastaPacket) : Connection :=
  let con := srDiagnosticUpdate P
    (srUpdateTimeoutInterval P con receivedPacket.confirmedTimestamp) receivedPacket
  let con := srRemoveConfirmedMessages P
    (updateConfirmedAttrs (updateConnectionAttrs con receivedPacket) receivedPacket)
  if con.currentState = .retrRun then setState con .up else con

/-- `handle_hb`. -/
def handleHb (con : Connection) (receivedPacket : RastaPacket) : Connection × Bool :=
  if con.currentState = .start then
    let con := rejectStartHb P con receivedPacket
    if srCtsInSeq con receivedPacket then (establishByHb con receivedPacket, true)
    else (srCloseConnection P con .protocolError 0, false)
  else if srSnInSeq con receivedPacket then
    match con.currentState with
    | .up | .retrRun | .kexReq | .kexResp | .kexAuth =>
      if srCtsInSeq con receivedPacket then (acceptHb P con receivedPacket, false)
      else (srCloseConnection P con .timeout 0, false)
    | .closed | .down | .start | .retrReq => (con, false)
  else
    match con.currentState with
    | .up | .retrRun => (setState con .retrReq, false)
    | .closed | .down | .start | .kexReq | .kexResp | .kexAuth | .retrReq => (con, false)

/-- `RASTA_VERSION`, "0303". -/
def rastaVersion : Bytes := [0x30, 0x33, 0x30, 0x33]

/-- `compare_version`. -/
def compareVersion (localVersion remoteVersion : Bytes) : Int :=
  P.strncmp localVersion remoteVersion 4

/-- `version_accepted`. -/
def versionAccepted (config : RastaConfigInfo) (version : Bytes) : Bool :=
  config.acceptedVersions.any fun accepted => decide (compareVersion P accepted version = 0)

/-- The version test of `handle_conreq`. -/
def conreqVersionAccepted (config : RastaConfigInfo) (version : Bytes) : Bool :=
  decide (compareVersion P rastaVersion version = 0) ||
    decide (compareVersion P rastaVersion version = -1) || versionAccepted P config version

/-- The connection `handle_conreq` checks a request against. -/
def prepareServer (con : Connection) : Connection :=
  let con := srInitConnection P con .server
  { con with
    snT := con.config.initialSequenceNumber
    snI := con.config.initialSequenceNumber
    currentState := .down }

/-- What `handle_conreq` does with an acceptable request. -/
def acceptConreq (con : Connection) (receivedPacket : RastaPacket) : Connection :=
  let connectionData := extractRastaConnectionData P receivedPacket
  let con := updateConfirmedAttrs (updateConnectionAttrs con receivedPacket) receivedPacket
  let con :=
    { con with
      connectedRecvBufferSize := connectionData.sendMax.toNat
      tI := con.config.tMax }
  let header : PacketHeader := { nextHeader con with confirmedTimestamp := con.ctsR }
  let conresp := createConnectionResponse P header con.config.sendMax rastaVersion
    con.hashingContext
  redundancyMuxSend P (setState (incrementSnT (tick con)) .start) conresp

/-- `handle_conreq`. -/
def handleConreq (con : Connection) (receivedPacket : RastaPacket) : Connection :=
  if con.currentState = .closed ∨ con.currentState = .down then
    let con := prepareServer P con
    if srCheckPacket con receivedPacket then
      if conreqVersionAccepted P con.config
          (extractRastaConnectionData P receivedPacket).version then
        acceptConreq P con receivedPacket
      else srCloseConnection P con .incompatibleVersion 0
    else srCloseConnection P con .protocolError 0
  else srCloseConnection P con .unexpectedType 0

/-- The heartbeat with which `handle_conresp` answers an acceptable response. -/
def answerConresp (con : Connection) (receivedPacket : RastaPacket) : Connection :=
  sendHeartbeat P
    (setState (setCsR (updateConnectionAttrs con receivedPacket) receivedPacket) .up) true

/-- The key exchange `handle_conresp` starts if it is configured. -/
def startKeyExchange (con : Connection) : Connection :=
  if P.enableOpaque ∧ con.config.kexMode = .opaqueMode then sendKexRequest P con else con

/-- The end of `handle_conresp`, which is not reached after an abort. -/
def superviseConnection (con : Connection) (receivedPacket : RastaPacket) : Connection :=
  if con.aborted then con
  else
    enableTimeout
      { enableHeartbeat con with
        hbLocked := false
        connectedRecvBufferSize :=
          (extractRastaConnectionData P receivedPacket).sendMax.toNat }

/-- What `handle_conresp` does with an acceptable response. -/
def acceptConresp (con : Connection) (receivedPacket : RastaPacket) : Connection :=
  superviseConnection P (startKeyExchange P (answerConresp P con receivedPacket))
    receivedPacket

/-- `handle_conresp`. -/
def handleConresp (con : Connection) (receivedPacket : RastaPacket) : Connection :=
  if srCheckPacket con receivedPacket then
    match con.currentState with
    | .start =>
      if con.role = .client then
        if versionAccepted P con.config
            (extractRastaConnectionData P receivedPacket).version then
          acceptConresp P con receivedPacket
        else srCloseConnection P con .incompatibleVersion 0
      else srCloseConnection P con .unexpectedType 0
    | .retrReq | .retrRun | .up => srCloseConnection P con .unexpectedType 0
    | .closed | .down | .kexReq | .kexResp | .kexAuth => con
  else srCloseConnection P con .protocolError 0

/-- `handle_received_packet`; without `ENABLE_OPAQUE` the key exchange types are unknown. -/
def handleReceivedPacket (con : Connection) (receivedPacket : RastaPacket) :
    Connection × Bool :=
  match receivedPacket.type with
  | .retrData => handleRetrdata P con receivedPacket
  | .data => handleData P con receivedPacket
  | .retrReq => handleRetrreq P con receivedPacket
  | .retrResp => handleRetrresp P con receivedPacket
  | .discReq => handleDiscreq con
  | .hb => handleHb P con receivedPacket
  | .kexRequest =>
    if P.enableOpaque then handleKexRequest P con receivedPacket else (countTypeError con, false)
  | .kexResponse =>
    if P.enableOpaque then handleKexResponse P con receivedPacket else (countTypeError con, false)
  | .kexAuthentication =>
    if P.enableOpaque then handleKexAuth P con receivedPacket else (countTypeError con, false)
  | .connReq | .connResp | .other _ _ => (countTypeError con, false)

/-- `sr_rekeying_skipped`: the verdict, and the connection after the clock was read. -/
def srRekeyingSkipped (con : Connection) : Bool × Connection :=
  if P.enableOpaque = false ∨ con.currentState = .kexReq ∨ con.role ≠ .server ∨
      con.config.rekeyingIntervalMs = 0 ∨ con.kexState.lastKeyExchangedMillis = 0 then
    (false, con)
  else
    (decide (getCurrentTimeMs con - con.kexState.lastKeyExchangedMillis >
      500 + con.config.rekeyingIntervalMs), tick con)

/-- `sr_receive`. -/
def srReceive (con : Connection) (receivedPacket : RastaPacket) : Connection × Bool :=
  if receivedPacket.type = .connReq then (handleConreq P con receivedPacket, false)
  else if receivedPacket.type = .connResp then (handleConresp P con receivedPacket, true)
  else if receivedPacket.checksumCorrect = false then (countSafetyError con, false)
  else if srMessageAuthentic con receivedPacket = false then (countAddressError con, false)
  else if srSnRangeValid con receivedPacket = false then (countSnError con, false)
  else if srCsValid con receivedPacket = false then (countCsError con, false)
  else
    let skipped := srRekeyingSkipped P con
    if skipped.1 then (srCloseConnection P (tick skipped.2) .timeout 0, false)
    else handleReceivedPacket P skipped.2 receivedPacket

end Translation

end LibRasta.Retransmission
