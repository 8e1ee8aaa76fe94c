/-
Module: LibRasta/Retransmission/SafetyRetransmission.lean
source: src/c/retransmission/safety_retransmission.c
digest: Supervision times, diagnostics, delivery into the receive queue, and resetting, closing and initialising a connection.
-/

import LibRasta.Retransmission.Checks
import LibRasta.Retransmission.Messages

set_option autoImplicit false
set_option relaxedAutoImplicit false

namespace LibRasta.Retransmission

open LibRasta.Util
open LibRasta.Factory

section Translation

variable (P : Platform)

/-- `sr_update_timeout_interval`; the cast to `uint32_t` makes the arithmetic one of 32 bits. -/
def srUpdateTimeoutInterval (con : Connection) (confirmedTimestamp : UInt32) : Connection :=
  let tRtd := curTimestamp con + UInt32.ofNat (1000 / P.clkTck) - confirmedTimestamp
  rescheduleTimeout (tick { con with tI := con.config.tMax - tRtd })

/-- The loop of `sr_diagnostic_update`: only the first matching interval is counted up. -/
def countInterval (tRtd tAlive : UInt64) : List DiagnosticInterval → List DiagnosticInterval
  | [] => []
  | interval :: rest =>
    if interval.intervalStart.toUInt64 ≥ tRtd ∧ interval.intervalEnd.toUInt64 ≤ tRtd then
      { interval with
        messageCount := interval.messageCount + 1
        tAliveMessageCount :=
          if interval.intervalStart.toUInt64 ≥ tAlive ∧ interval.intervalEnd.toUInt64 ≤ tAlive
          then interval.tAliveMessageCount + 1 else interval.tAliveMessageCount } :: rest
    else interval :: countInterval tRtd tAlive rest

/-- `reset_diagnostic`. -/
def resetDiagnostic (intervals : List DiagnosticInterval) : List DiagnosticInterval :=
  intervals.map fun interval => { interval with messageCount := 0, tAliveMessageCount := 0 }

/-- `sr_diagnostic_update`. -/
def srDiagnosticUpdate (con : Connection) (receivedPacket : RastaPacket) : Connection :=
  let tLocal := (curTimestamp con).toUInt64
  let tRtd :=
    tLocal + UInt64.ofNat (1000 / P.clkTck) - receivedPacket.confirmedTimestamp.toUInt64
  let tAlive := tLocal - con.ctsR.toUInt64
  let intervals := countInterval tRtd tAlive con.diagnosticIntervals
  let count := con.receivedDiagnosticMessageCount + 1
  tick
    { con with
      receivedDiagnosticMessageCount := count
      diagnosticIntervals :=
        if count ≥ con.config.diagWindow then resetDiagnostic intervals else intervals }

/-- One message of `sr_add_app_messages_to_buffer`. -/
def addAppMessage (con : Connection) (packet : RastaPacket) (message : Bytes) : Connection :=
  srDiagnosticUpdate P
    (srUpdateTimeoutInterval P
      { con with fifoReceive := (fifoPush con.fifoReceive message).2 }
      packet.confirmedTimestamp) packet

/-- The loop of `sr_add_app_messages_to_buffer`; a full receive queue ends it. -/
def addAppMessages (packet : RastaPacket) : List Bytes → Connection → Connection
  | [], con => con
  | message :: rest, con =>
    if fifoFull con.fifoReceive then con
    else addAppMessages packet rest (addAppMessage P con packet message)

/-- `sr_add_app_messages_to_buffer`. -/
def srAddAppMessagesToBuffer (con : Connection) (packet : RastaPacket) : Connection :=
  addAppMessages P packet (extractMessageData P packet) con

/-- `sr_reset_connection`. -/
def srResetConnection (con : Connection) : Connection :=
  { con with
    currentState := .closed
    connectedRecvBufferSize := -1
    hbLocked := true
    sendHeartbeatEvent := con.sendHeartbeatEvent.disable
    timeoutEvent := con.timeoutEvent.disable
    errors := { safety := 0, address := 0, type := 0, sn := 0, cs := 0 } }

/-- `sr_close_connection`; the transport channels it closes are not part of the state. -/
def srCloseConnection (con : Connection) (reason : RastaDisconnectReason) (details : UInt16) :
    Connection :=
  if con.currentState = .down ∨ con.currentState = .closed then srResetConnection con
  else
    setState (sendDisconnectionRequest P (srResetConnection con) reason details) .closed

/-- `sr_init_connection`. -/
def srInitConnection (con : Connection) (role : RastaRole) : Connection :=
  let con := { srResetConnection con with role := role }
  if P.enableOpaque then
    { con with kexState := { con.kexState with lastKeyExchangedMillis := 0 } }
  else con

end Translation

section Frame

variable (P : Platform)

/-- What delivering application messages may change. -/
structure DeliveryFrame (before after : Connection) : Prop where
  rest : after =
    { before with
      fifoReceive := after.fifoReceive
      tI := after.tI
      timeoutEvent := { before.timeoutEvent with lastCall := after.timeoutEvent.lastCall }
      receivedDiagnosticMessageCount := after.receivedDiagnosticMessageCount
      diagnosticIntervals := after.diagnosticIntervals
      clockReads := after.clockReads }
  clockReads : before.clockReads ≤ after.clockReads

theorem DeliveryFrame.refl (con : Connection) : DeliveryFrame con con where
  rest := rfl
  clockReads := le_refl _

theorem DeliveryFrame.trans {a b c : Connection} (hab : DeliveryFrame a b)
    (hbc : DeliveryFrame b c) : DeliveryFrame a c where
  rest := by
    have hb := hab.rest
    have hc := hbc.rest
    rw [hb] at hc
    exact hc
  clockReads := hab.clockReads.trans hbc.clockReads

theorem DeliveryFrame.currentState {before after : Connection} (h : DeliveryFrame before after) :
    after.currentState = before.currentState := by
  rw [h.rest]

theorem DeliveryFrame.role {before after : Connection} (h : DeliveryFrame before after) :
    after.role = before.role := by
  rw [h.rest]

theorem DeliveryFrame.config {before after : Connection} (h : DeliveryFrame before after) :
    after.config = before.config := by
  rw [h.rest]

theorem DeliveryFrame.rekeyingEvent {before after : Connection} (h : DeliveryFrame before after) :
    after.rekeyingEvent = before.rekeyingEvent := by
  rw [h.rest]

theorem DeliveryFrame.snT {before after : Connection} (h : DeliveryFrame before after) :
    after.snT = before.snT := by
  rw [h.rest]

theorem DeliveryFrame.sent {before after : Connection} (h : DeliveryFrame before after) :
    after.sent = before.sent := by
  rw [h.rest]

theorem srUpdateTimeoutInterval_frame (con : Connection) (confirmedTimestamp : UInt32) :
    DeliveryFrame con (srUpdateTimeoutInterval P con confirmedTimestamp) where
  rest := rfl
  clockReads := Nat.le_add_right _ 2

theorem srDiagnosticUpdate_frame (con : Connection) (receivedPacket : RastaPacket) :
    DeliveryFrame con (srDiagnosticUpdate P con receivedPacket) where
  rest := rfl
  clockReads := Nat.le_add_right _ 1

theorem addAppMessage_frame (con : Connection) (packet : RastaPacket) (message : Bytes) :
    DeliveryFrame con (addAppMessage P con packet message) where
  rest := rfl
  clockReads := Nat.le_add_right _ 3

theorem addAppMessages_frame (packet : RastaPacket) (messages : List Bytes)
    (con : Connection) : DeliveryFrame con (addAppMessages P packet messages con) := by
  induction messages generalizing con with
  | nil => exact DeliveryFrame.refl con
  | cons message rest ih =>
    rw [addAppMessages]
    split
    · exact DeliveryFrame.refl con
    · exact (addAppMessage_frame P con packet message).trans (ih _)

theorem srAddAppMessagesToBuffer_frame (con : Connection) (packet : RastaPacket) :
    DeliveryFrame con (srAddAppMessagesToBuffer P con packet) :=
  addAppMessages_frame P packet _ con

/-- Delivery appends as many of the messages as the receive queue has room for. -/
theorem addAppMessages_fifoReceive (packet : RastaPacket) (messages : List Bytes)
    (con : Connection) :
    (addAppMessages P packet messages con).fifoReceive.items =
        con.fifoReceive.items ++
          messages.take (con.fifoReceive.maxSize - con.fifoReceive.items.length) ∧
      (addAppMessages P packet messages con).fifoReceive.maxSize = con.fifoReceive.maxSize := by
  induction messages generalizing con with
  | nil => simp [addAppMessages]
  | cons message rest ih =>
    rw [addAppMessages]
    cases hfull : fifoFull con.fifoReceive with
    | true =>
      have hlen := fifoFull_eq_true.mp hfull
      simp [hlen]
    | false =>
      have hroom := fifoFull_eq_false.mp hfull
      have hpush := (fifoPush_of_room hroom message).2
      have hitems : (addAppMessage P con packet message).fifoReceive.items =
          con.fifoReceive.items ++ [message] := hpush
      have hmax : (addAppMessage P con packet message).fifoReceive.maxSize =
          con.fifoReceive.maxSize := fifoPush_maxSize _ _
      obtain ⟨ihItems, ihMax⟩ := ih (addAppMessage P con packet message)
      obtain ⟨room, hroomEq⟩ : ∃ room, con.fifoReceive.maxSize - con.fifoReceive.items.length =
          room + 1 := ⟨con.fifoReceive.maxSize - con.fifoReceive.items.length - 1, by omega⟩
      have hnext : con.fifoReceive.maxSize - (con.fifoReceive.items.length + 1) = room := by
        omega
      refine ⟨?_, ihMax.trans hmax⟩
      simp only [Bool.false_eq_true, if_false]
      rw [ihItems, hitems, hmax, hroomEq, List.length_append, List.length_singleton, hnext,
        List.take_succ_cons, List.append_assoc, List.singleton_append]

end Frame

end LibRasta.Retransmission
