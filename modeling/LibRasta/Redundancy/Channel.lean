/-
Module: LibRasta/Redundancy/Channel.lean
source: src/c/redundancy/rastaredundancy.c, src/c/redundancy/rasta_red_multiplexer.c, src/c/redundancy/rasta_redundancy_channel.c, src/c/transport/diagnostics.c, src/c/transport/events.c
digest: The receiving half of a redundancy channel: reads are split into PDUs, PDUs enter the defer queue, and the queue is drained in sequence into the safety and retransmission layer.
-/

import LibRasta.Retransmission.Events
import LibRasta.Util.DeferQueue

set_option autoImplicit false
set_option relaxedAutoImplicit false

namespace LibRasta.Redundancy

open LibRasta.Util
open LibRasta.Factory
open LibRasta.Retransmission

/-- `rasta_redundancy_diagnostics_data`. -/
structure DiagnosticsData where
  startTime : UInt64
  nMissed : Int
  tDrift : UInt64
  tDrift2 : UInt64
  receivedPackets : Int
deriving DecidableEq, Repr

/-- One packet handed to `sr_receive`: the queue element it was taken from, the connection at
the call, and the packet itself. -/
structure Handover where
  queuePacket : RastaRedundancyPacket
  con : Connection
  packet : RastaPacket

/-- `rasta_redundancy_channel`, less what sending uses and is part of the connection; of a
transport channel only the diagnostics count here. -/
structure RedundancyChannel where
  associatedId : UInt64
  seqRx : UInt64
  deferQ : DeferQueue
  diagnosticsPacketBuffer : DeferQueue
  transportChannels : List DiagnosticsData
  -- all calls of `sr_receive`, oldest first
  delivered : List Handover

structure Endpoint where
  con : Connection
  channel : RedundancyChannel

section Translation

variable (P : Platform)

def redundancyChannelAlloc (config : RastaConfigInfo) (slots : ℕ → RastaRedundancyPacketWrapper)
    (transportChannelCount : ℕ) : RedundancyChannel where
  associatedId := config.rastaIdRemote
  seqRx := 0
  deferQ := deferqueueInit config.nDeferqueueSize.toNat
    ((List.range config.nDeferqueueSize.toNat).map slots) (by simp)
  diagnosticsPacketBuffer := deferqueueInit (10 * config.nDeferqueueSize).toNat
    ((List.range (10 * config.nDeferqueueSize).toNat).map slots) (by simp)
  transportChannels := List.replicate transportChannelCount
    { startTime := 0, nMissed := 0, tDrift := 0, tDrift2 := 0, receivedPackets := 0 }
  delivered := []

def redundancyChannelInit (endpoint : Endpoint) : Endpoint where
  con := { endpoint.con with seqTx := 0 }
  channel :=
    { endpoint.channel with
      seqRx := 0
      deferQ := deferqueueClear endpoint.channel.deferQ
      diagnosticsPacketBuffer := deferqueueClear endpoint.channel.diagnosticsPacketBuffer }

def updateDiagnostics (channel : RedundancyChannel) (channelId : ℕ)
    (update : DiagnosticsData → DiagnosticsData) : RedundancyChannel :=
  { channel with transportChannels := channel.transportChannels.modify channelId update }

/-- The statistics on a PDU that another transport channel delivered before. -/
def recordDelay (endpoint : Endpoint) (packet : RastaRedundancyPacket) (channelId : ℕ) :
    Endpoint :=
  let ts := deferqueueGetTs endpoint.channel.diagnosticsPacketBuffer
    packet.sequenceNumber.toUInt64
  if ts = 0 then endpoint
  else
    let delay := (curTimestamp endpoint.con).toUInt64 - ts
    { con := tick endpoint.con
      channel := updateDiagnostics endpoint.channel channelId fun diagnostics =>
        if delay > endpoint.con.config.tSeq.toUInt64 then
          { diagnostics with nMissed := diagnostics.nMissed + 1 }
        else
          { diagnostics with
            tDrift := diagnostics.tDrift + delay
            tDrift2 := diagnostics.tDrift2 + delay * delay } }

def addToDiagnostics (endpoint : Endpoint) (packet : RastaRedundancyPacket) : Endpoint where
  con := tick endpoint.con
  channel :=
    { endpoint.channel with
      diagnosticsPacketBuffer := (deferqueueAdd P endpoint.channel.diagnosticsPacketBuffer
        packet (curTimestamp endpoint.con).toUInt64).2 }

def addToDeferQueue (endpoint : Endpoint) (packet : RastaRedundancyPacket) : Endpoint where
  con := tick endpoint.con
  channel :=
    { endpoint.channel with
      deferQ := (deferqueueAdd P endpoint.channel.deferQ packet
        (curTimestamp endpoint.con).toUInt64).2 }

/-- The largest number `red_f_receiveData` defers; the product is one of `unsigned int`. -/
def windowEnd (endpoint : Endpoint) : UInt64 :=
  endpoint.channel.seqRx + (endpoint.con.config.nDeferqueueSize * 10).toUInt64

/-- The part of `red_f_receiveData` after the checksum test and the count of packets. -/
def classifyPdu (endpoint : Endpoint) (packet : RastaRedundancyPacket) (channelId : ℕ) :
    Endpoint × Bool :=
  if endpoint.channel.seqRx = 0 ∧ endpoint.con.seqTx = 0 ∧ packet.sequenceNumber ≠ 0 then
    (endpoint, false)
  else if packet.sequenceNumber.toUInt64 < endpoint.channel.seqRx then
    (recordDelay endpoint packet channelId, false)
  else if packet.sequenceNumber.toUInt64 = endpoint.channel.seqRx then
    (addToDeferQueue P (addToDiagnostics P endpoint packet) packet, true)
  else if packet.sequenceNumber.toUInt64 ≤ windowEnd endpoint then
    if deferqueueContains endpoint.channel.deferQ packet.sequenceNumber.toUInt64 then
      (endpoint, false)
    else if deferqueueIsfull endpoint.channel.deferQ then (endpoint, false)
    else (addToDeferQueue P endpoint packet, false)
  else (endpoint, false)

def redFReceiveData (endpoint : Endpoint) (packet : RastaRedundancyPacket) (channelId : ℕ) :
    Endpoint × Bool :=
  if packet.checksumCorrect then
    classifyPdu P
      { endpoint with
        channel := updateDiagnostics endpoint.channel channelId fun diagnostics =>
          { diagnostics with receivedPackets := diagnostics.receivedPackets + 1 } }
      packet channelId
  else (endpoint, false)

/-- `handle_received_data` on the memory from the start of a PDU on; the packet is decoded into
an uninitialised local variable. -/
def handleReceivedData (con : Connection) (buffer : Bytes) (len : ℕ) :
    RastaRedundancyPacket × RastaErrorType :=
  bytesToRastaRedundancyPacket P con.lasterror buffer len con.config.crcType
    con.srHashingContext (P.uninitRedundancyPacket buffer)

def setLasterror (endpoint : Endpoint) (lasterror : RastaErrorType) : Endpoint :=
  { endpoint with con := { endpoint.con with lasterror := lasterror } }

/-- What the loop of `receive_packet` does with a decoded packet. -/
def dispatchPdu (endpoint : Endpoint) (channelId : ℕ) (receivedPacket : RastaRedundancyPacket) :
    Endpoint × Bool :=
  if endpoint.channel.associatedId = receivedPacket.data.senderId.toUInt64 then
    if deferqueueIsfull endpoint.channel.deferQ then (endpoint, false)
    else redFReceiveData P endpoint receivedPacket channelId
  else (endpoint, false)

/-- One round of the loop of `receive_packet` at the memory `buffer`. -/
def receivePdu (endpoint : Endpoint) (channelId : ℕ) (buffer : Bytes) : Endpoint × Bool :=
  let received := handleReceivedData P endpoint.con buffer (leShortToHost P buffer 0).toNat
  dispatchPdu P (setLasterror endpoint received.2) channelId received.1

/-- The loop of `receive_packet` with `lenRemaining` bytes to go, for at most `rounds` rounds:
`size_t` wraps around when a length field claims more than is left, and a length field 0 makes
no progress. -/
def receiveLoop (channelId : ℕ) : ℕ → ℕ → Bytes → Endpoint → Bool → Option (Endpoint × Bool)
  | rounds, lenRemaining, buffer, endpoint, result =>
    if lenRemaining = 0 then some (endpoint, result)
    else
      match rounds with
      | 0 => none
      | rounds + 1 =>
        let size := (leShortToHost P buffer 0).toNat
        let received := receivePdu P endpoint channelId buffer
        receiveLoop channelId rounds ((lenRemaining + 2 ^ 64 - size) % 2 ^ 64)
          (buffer.drop size) received.1 (result || received.2)

def receivePacket (rounds : ℕ) (endpoint : Endpoint) (channelId : ℕ) (buffer : Bytes) :
    Option (Endpoint × Bool) :=
  receiveLoop P channelId rounds buffer.length buffer endpoint false

/-- The packet `_deliver_message_to_upper_layer` passes on for an element of the defer queue:
encoded and decoded once more. -/
def deliverMessage (con : Connection) (queuePacket : RastaRedundancyPacket) :
    RastaPacket × RastaErrorType :=
  let bytes := rastaModuleToBytes P con.lasterror queuePacket.data con.hashingContext
  bytesToRastaPacket P bytes.2 bytes.1 con.hashingContext P.uninitPacket

/-- The call that is logged for such a packet. -/
def handoverOf (con : Connection) (queuePacket : RastaRedundancyPacket)
    (message : RastaPacket × RastaErrorType) : Handover where
  queuePacket := queuePacket
  con := { con with lasterror := message.2 }
  packet := message.1

/-- The call of `sr_receive` with a message for an element of the defer queue. -/
def passOn (endpoint : Endpoint) (queuePacket : RastaRedundancyPacket)
    (message : RastaPacket × RastaErrorType) : Endpoint × Bool :=
  let handover := handoverOf endpoint.con queuePacket message
  let received := srReceive P handover.con handover.packet
  ({ con := received.1
     channel :=
      { endpoint.channel with delivered := endpoint.channel.delivered ++ [handover] } },
    received.2)

def handOver (endpoint : Endpoint) (queuePacket : RastaRedundancyPacket) : Endpoint × Bool :=
  passOn P endpoint queuePacket (deliverMessage P endpoint.con queuePacket)

/-- The end of a round of `red_f_deliverDeferQueue`. -/
def advance (endpoint : Endpoint) : Endpoint :=
  { endpoint with
    channel :=
      { endpoint.channel with
        deferQ := deferqueueRemove P endpoint.channel.deferQ endpoint.channel.seqRx
        seqRx := endpoint.channel.seqRx + 1 } }

/-- The loop of `red_f_deliverDeferQueue`; nothing follows an abort in `sr_receive`. -/
def deliverLoop : ℕ → Endpoint → Bool → Endpoint × Bool
  | 0, endpoint, result => (endpoint, result)
  | rounds + 1, endpoint, result =>
    if deferqueueContains endpoint.channel.deferQ endpoint.channel.seqRx then
      let queuePacket := (deferqueueGet endpoint.channel.deferQ
        endpoint.channel.seqRx).getD zeroRedundancyPacket
      let handed := handOver P endpoint queuePacket
      if handed.1.con.aborted then (handed.1, result || handed.2)
      else deliverLoop rounds (advance P handed.1) (result || handed.2)
    else (endpoint, result)

/-- `red_f_deliverDeferQueue`: every round removes an element, so as many rounds as there are
elements suffice. -/
def redFDeliverDeferQueue (endpoint : Endpoint) : Endpoint × Bool :=
  deliverLoop P endpoint.channel.deferQ.count endpoint false

/-- `run_channel_diagnostics`. -/
def runChannelDiagnostics (endpoint : Endpoint) (channelId : ℕ) : Endpoint :=
  let startTime := ((endpoint.channel.transportChannels[channelId]?).map
    DiagnosticsData.startTime).getD 0
  let now := (curTimestamp endpoint.con).toUInt64
  let con := tick endpoint.con
  if now - startTime ≥ UInt64.ofInt endpoint.con.config.nDiagnose then
    { con := tick con
      channel :=
        { updateDiagnostics endpoint.channel channelId fun _ =>
            { startTime := (curTimestamp con).toUInt64
              nMissed := 0
              tDrift := 0
              tDrift2 := 0
              receivedPackets := 0 } with
          diagnosticsPacketBuffer :=
            deferqueueClear endpoint.channel.diagnosticsPacketBuffer } }
  else { endpoint with con := con }

/-- Deliver what a read made deliverable. -/
def deliverAfter (received : Endpoint × Bool) : Endpoint :=
  if received.2 then (redFDeliverDeferQueue P received.1).1 else received.1

/-- Bytes read from a transport channel; their number is a `size_t`. -/
structure Read where
  channelId : ℕ
  buffer : Bytes
  length_lt : buffer.length < 2 ^ 64

/-- `channel_receive_event` on a read that succeeded. -/
def channelReceiveEvent (rounds : ℕ) (endpoint : Endpoint) (read : Read) : Option Endpoint :=
  if endpoint.con.aborted then some endpoint
  else
    (receivePacket P rounds (runChannelDiagnostics endpoint read.channelId) read.channelId
      read.buffer).map (deliverAfter P)

/-- The endpoint after a sequence of reads. -/
def receiveEvents (rounds : ℕ) (endpoint : Endpoint) (reads : List Read) : Option Endpoint :=
  reads.foldlM (channelReceiveEvent P rounds) endpoint

end Translation

end LibRasta.Redundancy
