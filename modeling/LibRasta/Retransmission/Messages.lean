/-
Module: LibRasta/Retransmission/Messages.lean
source: src/c/retransmission/messages.c, src/c/transport/events.c, src/c/retransmission/safety_retransmission.c
digest: Every function of the layer that sends: the four control PDUs, batched data, removal of confirmed packets and retransmission; none of them touches what the connection knows about its peer.
-/

import LibRasta.Retransmission.Connection

set_option autoImplicit false
set_option relaxedAutoImplicit false

namespace LibRasta.Retransmission

open LibRasta.Util
open LibRasta.Factory

section Translation

variable (P : Platform)

/-- `sendDisconnectionRequest`; it leaves `sn_t` alone. -/
def sendDisconnectionRequest (con : Connection) (reason : RastaDisconnectReason)
    (details : UInt16) : Connection :=
  let discReq := createDisconnectionRequest P (nextHeader con)
    { details := details, reason := reason.code } con.srHashingContext
  redundancyMuxSend P (tick con) discReq

/-- `sendHeartbeat`. -/
def sendHeartbeat (con : Connection) (rescheduleManually : Bool) : Connection :=
  let hb := createHeartbeat P (nextHeader con) con.srHashingContext
  let con := incrementSnT (redundancyMuxSend P (tick con) hb)
  if rescheduleManually then rescheduleHeartbeat con else con

/-- `sendRetransmissionRequest`. -/
def sendRetransmissionRequest (con : Connection) : Connection :=
  let retrreq := createRetransmissionRequest P (nextHeader con) con.srHashingContext
  incrementSnT (redundancyMuxSend P (tick con) retrreq)

/-- `sendRetransmissionResponse`. -/
def sendRetransmissionResponse (con : Connection) : Connection :=
  let retrresp := createRetransmissionResponse P (nextHeader con) con.srHashingContext
  incrementSnT (redundancyMuxSend P (tick con) retrresp)

/-- How many messages `data_send_event` may take from the send queue: no more than the
retransmission queue has room for. -/
def sendBacklogSize (con : Connection) : ℕ :=
  let backlog := fifoGetSize con.fifoRetransmission
  let limit := con.config.maxRetransmissionQueueSize.toNat
  if backlog < limit then min (limit - backlog) (fifoGetSize con.fifoSend) else 0

/-- One Data PDU with the first `n` queued messages, as `data_send_event` builds and sends it. -/
def sendBatch (con : Connection) (n : ℕ) : Connection :=
  let data := createDataMessage P (nextHeader con) (con.fifoSend.items.take n)
    con.srHashingContext
  let packet := rastaModuleToBytes P con.lasterror data con.srHashingContext
  let con := tick
    { con with
      fifoSend := fifoPopMany con.fifoSend n
      lasterror := packet.2
      fifoRetransmission := (fifoPush con.fifoRetransmission packet.1).2 }
  rescheduleHeartbeat (incrementSnT (redundancyMuxSend P con data))

/-- The sending part of `data_send_event`. -/
def sendQueued (con : Connection) : Connection :=
  if 0 < sendBacklogSize con then
    sendBatch P con
      (if con.config.maxPacket.toNat ≤ sendBacklogSize con then con.config.maxPacket.toNat
       else sendBacklogSize con)
  else con

/-- The end of `data_send_event`: the timer stops when nothing is left to send. -/
def stopIdleSending (con : Connection) : Connection :=
  if fifoGetSize con.fifoSend = 0 then { con with sendEvent := con.sendEvent.disable } else con

/-- `data_send_event`. -/
def dataSendEvent (con : Connection) : Connection :=
  stopIdleSending (sendQueued P con)

/-- The loop of `sr_remove_confirmed_messages`: how many packets it pops, and the error
variable after decoding them. -/
def confirmedCount (ctx : RastaHashingContext) (csR : UInt32) :
    List Bytes → RastaErrorType → ℕ × RastaErrorType
  | [], lasterror => (0, lasterror)
  | elem :: rest, lasterror =>
    let packet := bytesToRastaPacket P lasterror elem ctx P.uninitPacket
    if packet.1.sequenceNumber = csR then (1, packet.2)
    else
      let result := confirmedCount ctx csR rest packet.2
      (result.1 + 1, result.2)

/-- The retransmission queue without the packets `sr_remove_confirmed_messages` pops. -/
def popConfirmed (con : Connection) : Connection :=
  let result := confirmedCount P con.hashingContext con.csR con.fifoRetransmission.items
    con.lasterror
  { con with
    fifoRetransmission := fifoPopMany con.fifoRetransmission result.1
    lasterror := result.2 }

/-- `sr_remove_confirmed_messages`. -/
def srRemoveConfirmedMessages (con : Connection) : Connection :=
  if fifoFull con.fifoSend then dataSendEvent P (popConfirmed P con) else popConfirmed P con

/-- One round of the second loop of `sr_retransmit_data`. -/
def retransmitPacket (con : Connection) (element : Bytes) : Connection :=
  let oldP := bytesToRastaPacket P con.lasterror element con.hashingContext P.uninitPacket
  let appMessages := extractMessageData P oldP.1
  let data := createRetransmittedDataMessage P (nextHeader con) appMessages con.hashingContext
  let newP := rastaModuleToBytes P oldP.2 data con.hashingContext
  let con := tick
    { con with
      lasterror := newP.2
      fifoRetransmission := (fifoPush con.fifoRetransmission newP.1).2 }
  rescheduleHeartbeat (incrementSnT (redundancyMuxSend P con data))

/-- `sr_retransmit_data`. -/
def srRetransmitData (con : Connection) : Connection :=
  let packets := con.fifoRetransmission.items
  let con :=
    { con with fifoRetransmission := fifoPopMany con.fifoRetransmission packets.length }
  sendHeartbeat P (packets.foldl (retransmitPacket P) con) true

end Translation

section Frame

variable (P : Platform)

/-- What sending never changes: the state machine, everything known about the peer, the
receive queue, the configuration, and which timers are armed apart from the send timer. -/
structure SendFrame (before after : Connection) : Prop where
  isNew : after.isNew = before.isNew
  handshakeTimeoutEvent : after.handshakeTimeoutEvent = before.handshakeTimeoutEvent
  heartbeatEnabled : after.sendHeartbeatEvent.enabled = before.sendHeartbeatEvent.enabled
  timeoutEvent : after.timeoutEvent = before.timeoutEvent
  rekeyingEvent : after.rekeyingEvent = before.rekeyingEvent
  hbLocked : after.hbLocked = before.hbLocked
  currentState : after.currentState = before.currentState
  fifoReceive : after.fifoReceive = before.fifoReceive
  role : after.role = before.role
  snR : after.snR = before.snR
  snI : after.snI = before.snI
  csT : after.csT = before.csT
  csR : after.csR = before.csR
  tsR : after.tsR = before.tsR
  ctsR : after.ctsR = before.ctsR
  tI : after.tI = before.tI
  myId : after.myId = before.myId
  remoteId : after.remoteId = before.remoteId
  errors : after.errors = before.errors
  kexState : after.kexState = before.kexState
  hashingContext : after.hashingContext = before.hashingContext
  srHashingContext : after.srHashingContext = before.srHashingContext
  config : after.config = before.config
  clock : after.clock = before.clock
  clockReads : before.clockReads ≤ after.clockReads
  aborted : after.aborted = before.aborted
  sent : before.sent <+: after.sent

theorem SendFrame.refl (con : Connection) : SendFrame con con := by
  constructor
  case sent => exact List.prefix_rfl
  all_goals rfl

theorem SendFrame.trans {a b c : Connection} (hab : SendFrame a b) (hbc : SendFrame b c) :
    SendFrame a c where
  isNew := hbc.isNew.trans hab.isNew
  handshakeTimeoutEvent := hbc.handshakeTimeoutEvent.trans hab.handshakeTimeoutEvent
  heartbeatEnabled := hbc.heartbeatEnabled.trans hab.heartbeatEnabled
  timeoutEvent := hbc.timeoutEvent.trans hab.timeoutEvent
  rekeyingEvent := hbc.rekeyingEvent.trans hab.rekeyingEvent
  hbLocked := hbc.hbLocked.trans hab.hbLocked
  currentState := hbc.currentState.trans hab.currentState
  fifoReceive := hbc.fifoReceive.trans hab.fifoReceive
  role := hbc.role.trans hab.role
  snR := hbc.snR.trans hab.snR
  snI := hbc.snI.trans hab.snI
  csT := hbc.csT.trans hab.csT
  csR := hbc.csR.trans hab.csR
  tsR := hbc.tsR.trans hab.tsR
  ctsR := hbc.ctsR.trans hab.ctsR
  tI := hbc.tI.trans hab.tI
  myId := hbc.myId.trans hab.myId
  remoteId := hbc.remoteId.trans hab.remoteId
  errors := hbc.errors.trans hab.errors
  kexState := hbc.kexState.trans hab.kexState
  hashingContext := hbc.hashingContext.trans hab.hashingContext
  srHashingContext := hbc.srHashingContext.trans hab.srHashingContext
  config := hbc.config.trans hab.config
  clock := hbc.clock.trans hab.clock
  clockReads := hab.clockReads.trans hbc.clockReads
  aborted := hbc.aborted.trans hab.aborted
  sent := hab.sent.trans hbc.sent

/-- Each sending function only appends to the log and counts the clock up. -/
theorem sendFrame_of_rfl {before after : Connection} (pdus : List SentPdu) (reads : ℕ)
    (hsent : after.sent = before.sent ++ pdus)
    (hreads : after.clockReads = before.clockReads + reads)
    (hrest : after =
      { before with
        sendHeartbeatEvent :=
          { before.sendHeartbeatEvent with lastCall := after.sendHeartbeatEvent.lastCall }
        sendEvent := after.sendEvent
        fifoSend := after.fifoSend
        fifoRetransmission := after.fifoRetransmission
        snT := after.snT
        seqTx := after.seqTx
        lasterror := after.lasterror
        clockReads := after.clockReads
        sent := after.sent }) : SendFrame before after := by
  rw [hrest]
  constructor <;> first | rfl | skip
  · exact hreads ▸ Nat.le_add_right _ _
  · exact hsent ▸ List.prefix_append _ _

theorem redundancyMuxSend_frame (con : Connection) (data : RastaPacket) :
    SendFrame con (redundancyMuxSend P con data) :=
  sendFrame_of_rfl _ 0 rfl rfl rfl

theorem sendDisconnectionRequest_frame (con : Connection) (reason : RastaDisconnectReason)
    (details : UInt16) : SendFrame con (sendDisconnectionRequest P con reason details) :=
  sendFrame_of_rfl _ 1 rfl rfl rfl

theorem sendHeartbeat_frame (con : Connection) (rescheduleManually : Bool) :
    SendFrame con (sendHeartbeat P con rescheduleManually) := by
  cases rescheduleManually
  · exact sendFrame_of_rfl _ 1 rfl rfl rfl
  · exact sendFrame_of_rfl _ 2 rfl rfl rfl

theorem sendRetransmissionRequest_frame (con : Connection) :
    SendFrame con (sendRetransmissionRequest P con) :=
  sendFrame_of_rfl _ 1 rfl rfl rfl

theorem sendRetransmissionResponse_frame (con : Connection) :
    SendFrame con (sendRetransmissionResponse P con) :=
  sendFrame_of_rfl _ 1 rfl rfl rfl

theorem sendBatch_frame (con : Connection) (n : ℕ) : SendFrame con (sendBatch P con n) :=
  sendFrame_of_rfl _ 2 rfl rfl rfl

theorem sendQueued_frame (con : Connection) : SendFrame con (sendQueued P con) := by
  unfold sendQueued
  split
  · exact sendBatch_frame P con _
  · exact SendFrame.refl con

theorem stopIdleSending_frame (con : Connection) : SendFrame con (stopIdleSending con) := by
  unfold stopIdleSending
  split
  · exact sendFrame_of_rfl [] 0 (by simp) rfl rfl
  · exact SendFrame.refl con

theorem dataSendEvent_frame (con : Connection) : SendFrame con (dataSendEvent P con) :=
  (sendQueued_frame P con).trans (stopIdleSending_frame _)

theorem popConfirmed_frame (con : Connection) : SendFrame con (popConfirmed P con) :=
  sendFrame_of_rfl [] 0 (by simp [popConfirmed]) rfl rfl

theorem srRemoveConfirmedMessages_frame (con : Connection) :
    SendFrame con (srRemoveConfirmedMessages P con) := by
  unfold srRemoveConfirmedMessages
  split
  · exact (popConfirmed_frame P con).trans (dataSendEvent_frame P _)
  · exact popConfirmed_frame P con

theorem retransmitPacket_frame (con : Connection) (element : Bytes) :
    SendFrame con (retransmitPacket P con element) :=
  sendFrame_of_rfl _ 2 rfl rfl rfl

theorem retransmitPackets_frame (packets : List Bytes) (con : Connection) :
    SendFrame con (packets.foldl (retransmitPacket P) con) := by
  induction packets generalizing con with
  | nil => exact SendFrame.refl con
  | cons element rest ih => exact (retransmitPacket_frame P con element).trans (ih _)

theorem srRetransmitData_frame (con : Connection) : SendFrame con (srRetransmitData P con) := by
  have hpop : SendFrame con
      { con with
        fifoRetransmission :=
          fifoPopMany con.fifoRetransmission con.fifoRetransmission.items.length } :=
    sendFrame_of_rfl [] 0 (by simp) rfl rfl
  exact (hpop.trans (retransmitPackets_frame P _ _)).trans (sendHeartbeat_frame P _ true)

end Frame

end LibRasta.Retransmission
