/-
Module: LibRasta/Retransmission/Events.lean
source: src/c/transport/events.c, src/c/retransmission/safety_retransmission.c, src/c/rasta.c, src/c/redundancy/rasta_red_multiplexer.c
digest: The timer callbacks and the calls of the application, and the state machine of one endpoint made of them and of received packets.
-/

import LibRasta.Lib.Runs
import LibRasta.Retransmission.Handlers

set_option autoImplicit false
set_option relaxedAutoImplicit false

namespace LibRasta.Retransmission

open LibRasta.Util
open LibRasta.Factory

section Translation

variable (P : Platform)

/-- The states in which a connection is established. -/
def Established (state : RastaSrState) : Prop :=
  state = .up ∨ state = .retrReq ∨ state = .retrRun

instance (state : RastaSrState) : Decidable (Established state) :=
  inferInstanceAs (Decidable (_ ∨ _))

/-- `event_connection_expired`. -/
def eventConnectionExpired (con : Connection) : Connection :=
  if con.hbLocked then con
  else
    let con :=
      if Established con.currentState then srCloseConnection P con .timeout 0 else con
    { con with
      sendHeartbeatEvent := con.sendHeartbeatEvent.disable
      timeoutEvent := con.timeoutEvent.disable }

/-- `heartbeat_send_event`. -/
def heartbeatSendEvent (con : Connection) : Connection :=
  if con.hbLocked then con
  else if Established con.currentState then sendHeartbeat P con false
  else con

/-- The end of `send_timed_key_exchange`, which is not reached after an abort. -/
def rescheduleRekeying (con : Connection) : Connection :=
  if con.aborted then con
  else tick { con with rekeyingEvent := con.rekeyingEvent.reschedule con }

/-- `send_timed_key_exchange`. -/
def sendTimedKeyExchange (con : Connection) : Connection :=
  if P.enableOpaque then rescheduleRekeying (sendKexRequest P con) else con

/-- The loop of `sr_send`; the result tells whether all messages were queued. -/
def sendMessages : List Bytes → Connection → Connection × Bool
  | [], con => (con, true)
  | message :: rest, con =>
    let con := if fifoFull con.fifoSend then dataSendEvent P con else con
    let pushed := fifoPush con.fifoSend message
    if pushed.1 then sendMessages rest (enableSendEvent { con with fifoSend := pushed.2 })
    else (con, false)

/-- `sr_send`; the result is true for the return value 0. -/
def srSend (con : Connection) (appMessages : List Bytes) : Connection × Bool :=
  match con.currentState with
  | .up =>
    if appMessages.length > con.config.maxPacket.toNat then (con, false)
    else sendMessages P appMessages con
  | .closed | .down => (setState con .closed, true)
  | .start | .kexReq | .kexResp | .kexAuth | .retrReq | .retrRun =>
    (setState (sendDisconnectionRequest P con .serviceNotAllowed 0) .closed, false)

/-- The test with which `sr_connect` looks up its connection. -/
def Connectable (con : Connection) : Prop :=
  con.remoteId.toUInt64 = con.config.rastaIdRemote

instance (con : Connection) : Decidable (Connectable con) :=
  inferInstanceAs (Decidable (_ = _))

/-- The connection request `sr_connect` sends once a transport channel is connected. -/
def openSession (con : Connection) : Connection :=
  let con := srInitConnection P con .client
  let con := tick
    { con with
      snT := con.config.initialSequenceNumber
      csT := 0
      ctsR := curTimestamp con
      tI := con.config.tMax }
  let conreq := createConnectionRequest P con.remoteId con.myId con.snT (curTimestamp con)
    con.config.sendMax rastaVersion con.hashingContext
  let con := redundancyMuxSend P (tick { con with snI := con.snT }) conreq
  let con := setState (incrementSnT con) .start
  tick { con with handshakeTimeoutEvent := con.handshakeTimeoutEvent.enable con }

/-- `sr_connect` up to the start of the event loop, where `transportOk` tells whether any
transport channel could be connected. `redundancy_channel_connect` initialises the channel
before it tries the transports. -/
def srConnect (con : Connection) (transportOk : Bool) : Connection :=
  if Connectable con then
    if transportOk then openSession P { con with seqTx := 0 } else { con with seqTx := 0 }
  else con

/-- `sr_connect` after the event loop ended. -/
def srConnectReturn (con : Connection) : Connection :=
  { con with handshakeTimeoutEvent := con.handshakeTimeoutEvent.disable }

/-- `sr_disconnect`. -/
def srDisconnect (con : Connection) : Connection :=
  let con := srCloseConnection P con .userRequest 0
  { con with
    timeoutEvent := con.timeoutEvent.disable
    sendHeartbeatEvent := con.sendHeartbeatEvent.disable
    rekeyingEvent :=
      if P.enableOpaque ∧ con.config.rekeyingIntervalMs ≠ 0 then con.rekeyingEvent.disable
      else con.rekeyingEvent }

/-- `sr_closed_connection`. -/
def srClosedConnection (con : Connection) : Connection :=
  srResetConnection (setState con .closed)

/-- The end of `rasta_recv`, after its event loop: a message is taken in state UP only. -/
def rastaRecv (con : Connection) : Connection :=
  if con.currentState = .up then { con with fifoReceive := (fifoPop con.fifoReceive).2 }
  else con

/-- The beginning of `rasta_accept`, which initialises the redundancy channel. -/
def rastaAccept (con : Connection) : Connection :=
  { con with seqTx := 0 }

/-- The end of `rasta_accept`. -/
def rastaAcceptReturn (con : Connection) : Connection :=
  { con with isNew := false }

/-- Everything that can happen to an endpoint. -/
inductive Event where
  | receive (packet : RastaPacket)
  | dataSend
  | heartbeat
  | connectionExpired
  | timedKeyExchange
  | send (appMessages : List Bytes)
  | connect (transportOk : Bool)
  | connectReturn
  | disconnect
  | transportClosed
  | recv
  | accept
  | acceptReturn

/-- One step of an endpoint. A timer fires only while it is enabled, and nothing happens after
the process was aborted. -/
def endpointStep (con : Connection) (event : Event) : Connection :=
  if con.aborted then con
  else
    match event with
    | .receive packet => (srReceive P con packet).1
    | .dataSend => if con.sendEvent.enabled then dataSendEvent P con else con
    | .heartbeat => if con.sendHeartbeatEvent.enabled then heartbeatSendEvent P con else con
    | .connectionExpired =>
      if con.timeoutEvent.enabled then eventConnectionExpired P con else con
    | .timedKeyExchange =>
      if con.rekeyingEvent.enabled then sendTimedKeyExchange P con else con
    | .send appMessages => (srSend P con appMessages).1
    | .connect transportOk => srConnect P con transportOk
    | .connectReturn => srConnectReturn con
    | .disconnect => srDisconnect P con
    | .transportClosed => srClosedConnection con
    | .recv => rastaRecv con
    | .accept => rastaAccept con
    | .acceptReturn => rastaAcceptReturn con

end Translation

end LibRasta.Retransmission
