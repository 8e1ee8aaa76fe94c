/-
Module: LibRasta/Retransmission/Connection.lean
source: src/c/rasta_connection.h, src/include/rasta/config.h, src/c/util/event_system.c, src/c/redundancy/rasta_red_multiplexer.c
digest: The state of one connection of the safety and retransmission layer, with the sending half of its redundancy channel, and the elementary updates its handlers are made of.
-/

import LibRasta.Factory
import LibRasta.Util.Fifo

set_option autoImplicit false
set_option relaxedAutoImplicit false

namespace LibRasta.Retransmission

open LibRasta.Util
open LibRasta.Factory

/-- `rasta_role`. -/
inductive RastaRole where
  | client
  | server
deriving DecidableEq, Repr

/-- `rasta_sr_state`. -/
inductive RastaSrState where
  | closed
  | down
  | start
  | kexReq
  | kexResp
  | kexAuth
  | up
  | retrReq
  | retrRun
deriving DecidableEq, Repr

/-- `rasta_disconnect_reason`. -/
inductive RastaDisconnectReason where
  | userRequest
  | unexpectedType
  | seqnError
  | timeout
  | serviceNotAllowed
  | incompatibleVersion
  | retrFailed
  | protocolError
deriving DecidableEq, Repr

/-- The value of a reason on the wire. -/
def RastaDisconnectReason.code : RastaDisconnectReason → UInt16
  | userRequest => 0
  | unexpectedType => 2
  | seqnError => 3
  | timeout => 4
  | serviceNotAllowed => 5
  | incompatibleVersion => 6
  | retrFailed => 7
  | protocolError => 8

/-- `enum KEY_EXCHANGE_MODE`. -/
inductive KeyExchangeMode where
  | none
  | opaqueMode
deriving DecidableEq, Repr

/-- The fields of `rasta_config_info` that the layers read. -/
structure RastaConfigInfo where
  initialSequenceNumber : UInt32
  acceptedVersions : List Bytes
  /-- `sending.t_max` -/
  tMax : UInt32
  /-- `sending.t_h` -/
  tH : UInt32
  /-- `sending.md4_type` -/
  md4Type : RastaChecksumType
  /-- `sending.md4_a` to `sending.md4_d` -/
  md4A : UInt32
  md4B : UInt32
  md4C : UInt32
  md4D : UInt32
  /-- `sending.send_max` -/
  sendMax : UInt16
  /-- `sending.max_packet` -/
  maxPacket : UInt32
  /-- `sending.diag_window` -/
  diagWindow : UInt32
  /-- `sending.sr_hash_key` -/
  srHashKey : UInt32
  /-- `sending.sr_hash_algorithm` -/
  srHashAlgorithm : RastaHashAlgorithm
  /-- `receive.max_recvqueue_size` -/
  maxRecvqueueSize : UInt32
  /-- `retransmission.max_retransmission_queue_size` -/
  maxRetransmissionQueueSize : UInt32
  /-- `redundancy.crc_type` -/
  crcType : CrcOptions
  /-- `redundancy.t_seq` -/
  tSeq : UInt32
  /-- `redundancy.n_diagnose` -/
  nDiagnose : Int
  /-- `redundancy.n_deferqueue_size` -/
  nDeferqueueSize : UInt32
  /-- `general.rasta_id` -/
  rastaId : UInt64
  /-- `general.rasta_id_remote` -/
  rastaIdRemote : UInt64
  /-- `kex.mode` -/
  kexMode : KeyExchangeMode
  /-- `kex.psk`, less its terminator -/
  psk : Bytes
  /-- `kex.rekeying_interval_ms` -/
  rekeyingIntervalMs : UInt64
  /-- `kex.psk_record` where `kex.has_psk_record` is set -/
  pskRecord : Option Bytes
deriving DecidableEq

/-- The hashing context `redundancy_mux_alloc` and `redundancy_channel_alloc` both set up. -/
def hashingContextOf (config : RastaConfigInfo) : RastaHashingContext where
  hashLength := config.md4Type
  algorithm := config.srHashAlgorithm
  key :=
    match config.srHashAlgorithm with
    | .md4 =>
      hostLongToLe config.md4A ++ hostLongToLe config.md4B ++ hostLongToLe config.md4C ++
        hostLongToLe config.md4D
    | _ => (hostLongToLe config.srHashKey).reverse

/-- `timed_event`, less its callback and its list links. -/
structure TimedEvent where
  enabled : Bool
  interval : UInt64
  lastCall : UInt64
deriving DecidableEq, Repr

/-- `struct rasta_error_counters`, as unbounded counters. -/
structure RastaErrorCounters where
  safety : ℕ
  address : ℕ
  type : ℕ
  sn : ℕ
  cs : ℕ
deriving DecidableEq, Repr

/-- `struct diagnostic_interval`. -/
structure DiagnosticInterval where
  intervalStart : UInt32
  intervalEnd : UInt32
  messageCount : UInt32
  tAliveMessageCount : UInt32
deriving DecidableEq, Repr

/-- `struct key_exchange_state`. -/
structure KeyExchangeState where
  userRecord : Bytes
  clientSecret : Bytes
  clientPublic : Bytes
  certificateResponse : Bytes
  sessionKey : Bytes
  userAuthServer : Bytes
  lastKeyExchangedMillis : UInt64
deriving DecidableEq, Repr

/-- One call of `redundancy_mux_send`: the packet, its encoding, the redundancy layer PDU handed to
every transport channel, and the key of the safety code in both. -/
structure SentPdu where
  packet : RastaPacket
  innerBytes : Bytes
  dataToSend : Bytes
  hashKey : Bytes
deriving DecidableEq, Repr

/-- `struct rasta_connection` with the fields of its redundancy channel and multiplexer that
sending uses, the error variable of `rastamodule.c`, the clock, and what was sent so far. -/
structure Connection where
  isNew : Bool
  handshakeTimeoutEvent : TimedEvent
  sendHeartbeatEvent : TimedEvent
  timeoutEvent : TimedEvent
  rekeyingEvent : TimedEvent
  /-- `send_handle.send_event` -/
  sendEvent : TimedEvent
  hbLocked : Bool
  currentState : RastaSrState
  fifoSend : Fifo Bytes
  fifoReceive : Fifo Bytes
  fifoRetransmission : Fifo Bytes
  connectedRecvBufferSize : Int
  role : RastaRole
  snT : UInt32
  snR : UInt32
  snI : UInt32
  csT : UInt32
  csR : UInt32
  tsR : UInt32
  ctsR : UInt32
  tI : UInt32
  myId : UInt32
  remoteId : UInt32
  receivedDiagnosticMessageCount : UInt32
  diagnosticIntervals : List DiagnosticInterval
  errors : RastaErrorCounters
  kexState : KeyExchangeState
  /-- `redundancy_channel->hashing_context` -/
  hashingContext : RastaHashingContext
  /-- `redundancy_channel->mux->sr_hashing_context` -/
  srHashingContext : RastaHashingContext
  /-- `redundancy_channel->seq_tx` -/
  seqTx : UInt64
  config : RastaConfigInfo
  /-- `rastamodule_lasterror` -/
  lasterror : RastaErrorType
  /-- The readings of `CLOCK_MONOTONIC` in nanoseconds, and how many were taken. -/
  clock : ℕ → ℕ
  clockReads : ℕ
  /-- Number of calls of libopaque so far. -/
  opaqueCalls : ℕ
  /-- Set once `abort` was called. -/
  aborted : Bool
  /-- All calls of `redundancy_mux_send`, oldest first. -/
  sent : List SentPdu

/-- An `unsigned int` passed as `int` and widened to 64 bits, as the handshake timeout is. -/
def signExtend (v : UInt32) : UInt64 :=
  if v < 0x80000000 then v.toUInt64 else v.toUInt64 - 0x100000000

/-- The connection as `rasta_lib_init_configuration` leaves it. -/
def rastaLibInitConfiguration (config : RastaConfigInfo) (clock : ℕ → ℕ) : Connection where
  isNew := false
  handshakeTimeoutEvent :=
    { enabled := false, interval := signExtend config.tMax * 1000000, lastCall := 0 }
  sendHeartbeatEvent :=
    { enabled := false, interval := config.tH.toUInt64 * 1000000, lastCall := 0 }
  timeoutEvent :=
    { enabled := false, interval := config.tMax.toUInt64 * 1000000, lastCall := 0 }
  rekeyingEvent :=
    { enabled := false, interval := config.rekeyingIntervalMs * 1000000 / 2, lastCall := 0 }
  sendEvent := { enabled := false, interval := 10 * 1000000, lastCall := 0 }
  hbLocked := true
  currentState := .closed
  fifoSend := fifoInit (2 * config.maxPacket).toNat
  fifoReceive := fifoInit config.maxRecvqueueSize.toNat
  fifoRetransmission := fifoInit config.maxRetransmissionQueueSize.toNat
  connectedRecvBufferSize := -1
  role := .client
  snT := 0
  snR := 0
  snI := 0
  csT := 0
  csR := 0
  tsR := 0
  ctsR := 0
  tI := 0
  myId := config.rastaId.toUInt32
  remoteId := config.rastaIdRemote.toUInt32
  receivedDiagnosticMessageCount := 0
  diagnosticIntervals := []
  errors := { safety := 0, address := 0, type := 0, sn := 0, cs := 0 }
  kexState :=
    { userRecord := [], clientSecret := [], clientPublic := [], certificateResponse := [],
      sessionKey := [], userAuthServer := [], lastKeyExchangedMillis := 0 }
  hashingContext := hashingContextOf config
  srHashingContext := hashingContextOf config
  seqTx := 0
  config := config
  lasterror := .none
  clock := clock
  clockReads := 0
  opaqueCalls := 0
  aborted := false
  sent := []

/-- A configuration with the values of the example files: an 8 byte safety code, no CRC. -/
def exampleConfig : RastaConfigInfo where
  initialSequenceNumber := 100
  acceptedVersions := [[0x30, 0x33, 0x30, 0x33], [0x30, 0x33, 0x30, 0x31]]
  tMax := 1800
  tH := 300
  md4Type := .b8
  md4A := 0x67452301
  md4B := 0xefcdab89
  md4C := 0x98badcfe
  md4D := 0x10325476
  sendMax := 20
  maxPacket := 3
  diagWindow := 5000
  srHashKey := 0
  srHashAlgorithm := .md4
  maxRecvqueueSize := 4
  maxRetransmissionQueueSize := 4
  crcType := crcInitOptA
  tSeq := 50
  nDiagnose := 200
  nDeferqueueSize := 4
  rastaId := 0x61
  rastaIdRemote := 0x62
  kexMode := .none
  psk := []
  rekeyingIntervalMs := 0
  pskRecord := none

/-- The same configuration seen from the other side. -/
def exampleRemoteConfig : RastaConfigInfo :=
  { exampleConfig with
    initialSequenceNumber := 700
    rastaId := 0x62
    rastaIdRemote := 0x61 }

section Clock

variable (con : Connection)

/-- The next reading of the clock. -/
def nanotime : UInt64 := UInt64.ofNat (con.clock con.clockReads)

/-- `cur_timestamp` of the next reading. -/
def curTimestamp : UInt32 := UInt32.ofNat (con.clock con.clockReads / 10 ^ 6)

/-- `get_current_time_ms` of the next reading. -/
def getCurrentTimeMs : UInt64 := UInt64.ofNat (con.clock con.clockReads / 10 ^ 6)

/-- One reading was taken. -/
def tick : Connection := { con with clockReads := con.clockReads + 1 }

end Clock

section Timers

variable (con : Connection)

/-- `reschedule_event`, with the reading it takes from `con`. -/
def TimedEvent.reschedule (event : TimedEvent) : TimedEvent :=
  { event with lastCall := nanotime con }

/-- `enable_timed_event`, with the reading it takes from `con`. -/
def TimedEvent.enable (event : TimedEvent) : TimedEvent :=
  { event with enabled := true, lastCall := nanotime con }

/-- `disable_timed_event`. -/
def TimedEvent.disable (event : TimedEvent) : TimedEvent :=
  { event with enabled := false }

/-- `reschedule_event(&con->send_heartbeat_event)`. -/
def rescheduleHeartbeat : Connection :=
  tick { con with sendHeartbeatEvent := con.sendHeartbeatEvent.reschedule con }

/-- `reschedule_event(&con->timeout_event)`. -/
def rescheduleTimeout : Connection :=
  tick { con with timeoutEvent := con.timeoutEvent.reschedule con }

/-- `enable_timed_event(&con->send_heartbeat_event)`. -/
def enableHeartbeat : Connection :=
  tick { con with sendHeartbeatEvent := con.sendHeartbeatEvent.enable con }

/-- `enable_timed_event(&con->timeout_event)`. -/
def enableTimeout : Connection :=
  tick { con with timeoutEvent := con.timeoutEvent.enable con }

/-- `enable_timed_event(&con->send_handle.send_event)`. -/
def enableSendEvent : Connection :=
  tick { con with sendEvent := con.sendEvent.enable con }

end Timers

section Sending

variable (P : Platform)

/-- `redundancy_mux_send`, up to the transport channels. -/
def redundancyMuxSend (con : Connection) (data : RastaPacket) : Connection :=
  let packet := createRedundancyPacket con.seqTx.toUInt32 data con.config.crcType
  let inner := rastaModuleToBytes P con.lasterror data con.hashingContext
  let bytes := rastaRedundancyPacketToBytes P con.lasterror packet con.hashingContext
  { con with
    seqTx := con.seqTx + 1
    lasterror := bytes.2
    sent := con.sent ++
      [{ packet := data, innerBytes := inner.1, dataToSend := bytes.1,
         hashKey := con.hashingContext.key }] }

/-- The header fields of the next PDU of `con`, with the timestamp taken for it. -/
def nextHeader (con : Connection) : PacketHeader where
  receiverId := con.remoteId
  senderId := con.myId
  sequenceNumber := con.snT
  confirmedSequenceNumber := con.csT
  timestamp := curTimestamp con
  confirmedTimestamp := con.tsR

/-- `update_connection_attrs`. -/
def updateConnectionAttrs (con : Connection) (receivedPacket : RastaPacket) : Connection :=
  { con with
    snR := receivedPacket.sequenceNumber + 1
    csT := receivedPacket.sequenceNumber
    tsR := receivedPacket.timestamp }

/-- `update_confirmed_attrs`. -/
def updateConfirmedAttrs (con : Connection) (receivedPacket : RastaPacket) : Connection :=
  { con with
    ctsR := receivedPacket.confirmedTimestamp
    csR := receivedPacket.confirmedSequenceNumber }

/-- `connection->current_state = state`. -/
def setState (con : Connection) (state : RastaSrState) : Connection :=
  { con with currentState := state }

/-- `connection->cs_r = receivedPacket->confirmed_sequence_number`. -/
def setCsR (con : Connection) (receivedPacket : RastaPacket) : Connection :=
  { con with csR := receivedPacket.confirmedSequenceNumber }

/-- `connection->sn_t = connection->sn_t + 1`. -/
def incrementSnT (con : Connection) : Connection :=
  { con with snT := con.snT + 1 }

end Sending

end LibRasta.Retransmission
