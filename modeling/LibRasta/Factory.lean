/-
Module: LibRasta/Factory.lean
source: src/c/rastafactory.c
digest: Construction of the PDUs of the safety and retransmission layer and of the redundancy layer, and extraction of their payloads.
-/

import LibRasta.Util.Module
import Mathlib.Algebra.Order.BigOperators.Group.List

set_option autoImplicit false
set_option relaxedAutoImplicit false

namespace LibRasta.Factory

open LibRasta.Lib
open LibRasta.Util

section Translation

variable (P : Platform)

/-- The arguments every constructor of the factory starts with. -/
structure PacketHeader where
  receiverId : UInt32
  senderId : UInt32
  sequenceNumber : UInt32
  confirmedSequenceNumber : UInt32
  timestamp : UInt32
  confirmedTimestamp : UInt32
deriving DecidableEq, Repr

/-- `initializePacket`; `checksum_correct` keeps whatever the stack held. -/
def initializePacket (type : RastaConnType) (header : PacketHeader) (dataLength : UInt16)
    (ctx : RastaHashingContext) : RastaPacket :=
  { P.uninitPacket with
    type := type
    receiverId := header.receiverId
    senderId := header.senderId
    sequenceNumber := header.sequenceNumber
    confirmedSequenceNumber := header.confirmedSequenceNumber
    timestamp := header.timestamp
    confirmedTimestamp := header.confirmedTimestamp
    data := allocateRastaByteArray dataLength.toNat
    checksum := allocateRastaByteArray ctx.checksumLen
    length := UInt16.ofNat (28 + ctx.checksumLen + dataLength.toNat) }

/-- The packet with `bytes` written to its data array from index 0 on. -/
def fillData (packet : RastaPacket) (bytes : Bytes) : RastaPacket :=
  { packet with data := store packet.data 0 bytes }

/-- The 14 data bytes of a connection request or response. -/
def connectionData (version : Bytes) (sendMax : UInt16) : Bytes :=
  version.take 4 ++ hostShortToLe sendMax ++ List.replicate 8 0

/-- `createConnectionRequest`. -/
def createConnectionRequest (receiverId senderId initialSequenceNumber timestamp : UInt32)
    (sendMax : UInt16) (version : Bytes) (ctx : RastaHashingContext) : RastaPacket :=
  fillData
    (initializePacket P .connReq
      ⟨receiverId, senderId, initialSequenceNumber, 0, timestamp, 0⟩ 14 ctx)
    (connectionData version sendMax)

/-- `createConnectionResponse`. -/
def createConnectionResponse (header : PacketHeader) (sendMax : UInt16) (version : Bytes)
    (ctx : RastaHashingContext) : RastaPacket :=
  fillData (initializePacket P .connResp header 14 ctx) (connectionData version sendMax)

/-- `struct RastaConnectionData`, less the null terminator of the version. -/
structure RastaConnectionData where
  version : Bytes
  sendMax : UInt16
deriving DecidableEq, Repr

/-- `extractRastaConnectionData`. -/
def extractRastaConnectionData (packet : RastaPacket) : RastaConnectionData :=
  if packet.data.length = 14 then
    { version := readBytes P packet.data 0 4, sendMax := leShortToHost P packet.data 4 }
  else { version := List.replicate 4 0, sendMax := 0 }

/-- `createRetransmissionRequest`. -/
def createRetransmissionRequest (header : PacketHeader) (ctx : RastaHashingContext) :
    RastaPacket :=
  initializePacket P .retrReq header 0 ctx

/-- `createRetransmissionResponse`. -/
def createRetransmissionResponse (header : PacketHeader) (ctx : RastaHashingContext) :
    RastaPacket :=
  initializePacket P .retrResp header 0 ctx

/-- `struct RastaDisconnectionData`. -/
structure RastaDisconnectionData where
  details : UInt16
  reason : UInt16
deriving DecidableEq, Repr

/-- `createDisconnectionRequest`. -/
def createDisconnectionRequest (header : PacketHeader) (data : RastaDisconnectionData)
    (ctx : RastaHashingContext) : RastaPacket :=
  fillData (initializePacket P .discReq header 4 ctx)
    (hostShortToLe data.details ++ hostShortToLe data.reason)

/-- `extractRastaDisconnectionData`. -/
def extractRastaDisconnectionData (packet : RastaPacket) : RastaDisconnectionData :=
  if packet.data.length = 4 then
    { details := leShortToHost P packet.data 0, reason := leShortToHost P packet.data 2 }
  else { details := 0, reason := 0 }

/-- `createHeartbeat`. -/
def createHeartbeat (header : PacketHeader) (ctx : RastaHashingContext) : RastaPacket :=
  initializePacket P .hb header 0 ctx

/-- The bytes the fill loop of `createDataMessage` writes, message after message. -/
def messageStream (messages : List Bytes) : Bytes :=
  messages.flatMap fun message => hostShortToLe (UInt16.ofNat message.length) ++ message

/-- `createDataMessage`. The data array has as many bytes as the `uint16_t` parameter of
`initializePacket` keeps of the message length. -/
def createDataMessage (header : PacketHeader) (messages : List Bytes)
    (ctx : RastaHashingContext) : RastaPacket :=
  let messageLength := (messages.map List.length).sum + 2 * messages.length
  fillData (initializePacket P .data header (UInt16.ofNat messageLength) ctx)
    (messageStream messages)

/-- `createRetransmittedDataMessage`. -/
def createRetransmittedDataMessage (header : PacketHeader) (messages : List Bytes)
    (ctx : RastaHashingContext) : RastaPacket :=
  { createDataMessage P header messages ctx with type := .retrData }

/-- The loop of `extractMessageData` at `currentLength`; every round consumes at least two
bytes, so as many rounds as there are data bytes suffice. -/
def extractLoop (data : Bytes) : ℕ → ℕ → List Bytes
  | 0, _ => []
  | rounds + 1, currentLength =>
    if currentLength < data.length then
      let length := (leShortToHost P data currentLength).toNat
      readBytes P data (2 + currentLength) length ::
        extractLoop data rounds (currentLength + length + 2)
    else []

/-- `extractMessageData`. -/
def extractMessageData (packet : RastaPacket) : List Bytes :=
  extractLoop P packet.data packet.data.length 0

/-- `createRedundancyPacket`. -/
def createRedundancyPacket (sequenceNumber : UInt32) (innerData : RastaPacket)
    (checksumType : CrcOptions) : RastaRedundancyPacket where
  sequenceNumber := sequenceNumber
  data := innerData
  checksumType := checksumType
  reserve := 0
  length := UInt16.ofNat (8 + innerData.length.toNat + checksumType.crcLen)
  checksumCorrect := true

end Translation

section Shape

variable (P : Platform)

@[simp]
theorem length_store (mem bytes : Bytes) (offset : ℕ) :
    (store mem offset bytes).length = mem.length := by
  simp only [store, List.length_append, List.length_take, List.length_drop]
  omega

theorem store_all (mem bytes : Bytes) (h : bytes.length = mem.length) :
    store mem 0 bytes = bytes := by
  simp only [store, List.take_zero, List.nil_append, Nat.sub_zero, Nat.zero_add]
  rw [← h, List.take_length, h, List.drop_length, List.append_nil]

theorem initializePacket_wellFormed (type : RastaConnType) (header : PacketHeader)
    (dataLength : UInt16) (ctx : RastaHashingContext)
    (h : 28 + ctx.checksumLen + dataLength.toNat < 2 ^ 16) :
    WellFormed ctx (initializePacket P type header dataLength ctx) := by
  simp only [WellFormed, initializePacket, allocateRastaByteArray, List.length_replicate,
    UInt16.toNat_ofNat']
  exact Nat.mod_eq_of_lt h

theorem fillData_wellFormed {ctx : RastaHashingContext} {packet : RastaPacket} {bytes : Bytes}
    (h : WellFormed ctx packet) : WellFormed ctx (fillData packet bytes) := by
  simp only [WellFormed, fillData] at h ⊢
  rw [length_store]
  exact h

theorem length_messageStream (messages : List Bytes) :
    (messageStream messages).length = (messages.map List.length).sum + 2 * messages.length := by
  induction messages with
  | nil => rfl
  | cons message rest ih =>
    simp only [messageStream, List.flatMap_cons, List.length_append, hostShortToLe,
      length_le16] at ih ⊢
    rw [ih]
    simp only [List.map_cons, List.sum_cons, List.length_cons]
    omega

/-- The messages fit into one Data PDU without any 16 bit length being cut. -/
def MessagesFit (ctx : RastaHashingContext) (messages : List Bytes) : Prop :=
  28 + ctx.checksumLen + (messageStream messages).length < 2 ^ 16

instance (ctx : RastaHashingContext) (messages : List Bytes) :
    Decidable (MessagesFit ctx messages) :=
  inferInstanceAs (Decidable (_ < _))

theorem createDataMessage_data {header : PacketHeader} {messages : List Bytes}
    {ctx : RastaHashingContext} (h : MessagesFit ctx messages) :
    (createDataMessage P header messages ctx).data = messageStream messages := by
  have hlen := length_messageStream messages
  unfold MessagesFit at h
  simp only [createDataMessage, fillData, initializePacket]
  apply store_all
  simp only [allocateRastaByteArray, List.length_replicate, UInt16.toNat_ofNat']
  omega

theorem createDataMessage_wellFormed {header : PacketHeader} {messages : List Bytes}
    {ctx : RastaHashingContext} (h : MessagesFit ctx messages) :
    WellFormed ctx (createDataMessage P header messages ctx) := by
  have hlen := length_messageStream messages
  unfold MessagesFit at h
  apply fillData_wellFormed
  apply initializePacket_wellFormed
  rw [UInt16.toNat_ofNat']
  omega

theorem createRetransmittedDataMessage_wellFormed {header : PacketHeader}
    {messages : List Bytes} {ctx : RastaHashingContext} (h : MessagesFit ctx messages) :
    WellFormed ctx (createRetransmittedDataMessage P header messages ctx) :=
  @createDataMessage_wellFormed P header messages ctx h

/-- Reading the stream of `messages` back, whatever precedes it in the data array. -/
theorem extractLoop_messageStream (messages : List Bytes)
    (hfit : ∀ message ∈ messages, message.length < 2 ^ 16) (front : Bytes) (rounds : ℕ)
    (hrounds : messages.length ≤ rounds) :
    extractLoop P (front ++ messageStream messages) rounds front.length = messages := by
  -- the part of the array already consumed grows by one record per message
  induction messages generalizing front rounds with
  | nil =>
    cases rounds with
    | zero => rfl
    | succ rounds => simp [extractLoop, messageStream]
  | cons message rest ih =>
    obtain ⟨rounds, rfl⟩ : ∃ n, rounds = n + 1 := ⟨rounds - 1, by simp at hrounds; omega⟩
    have hmessage : message.length < 2 ^ 16 := hfit message (by simp)
    have hstream : messageStream (message :: rest) =
        hostShortToLe (UInt16.ofNat message.length) ++ (message ++ messageStream rest) := by
      simp [messageStream]
    have hword : (leShortToHost P (front ++ messageStream (message :: rest))
        front.length).toNat = message.length := by
      rw [hstream, leShortToHost_append, UInt16.toNat_ofNat', Nat.mod_eq_of_lt hmessage]
    have hread : readBytes P (front ++ messageStream (message :: rest)) (2 + front.length)
        message.length = message := by
      have hmiddle := readBytes_append_middle P
        (front ++ hostShortToLe (UInt16.ofNat message.length)) message (messageStream rest)
      rw [hstream]
      rw [List.length_append, hostShortToLe, length_le16, Nat.add_comm] at hmiddle
      simpa [hostShortToLe] using hmiddle
    have hnext := ih (fun m hm => hfit m (by simp [hm]))
      (front ++ hostShortToLe (UInt16.ofNat message.length) ++ message) rounds
      (by simpa using hrounds)
    have hlen : (front ++ hostShortToLe (UInt16.ofNat message.length) ++ message).length =
        front.length + message.length + 2 := by
      simp only [List.length_append, hostShortToLe, length_le16]
      omega
    have hrest : front ++ messageStream (message :: rest) =
        front ++ hostShortToLe (UInt16.ofNat message.length) ++ message ++
          messageStream rest := by
      rw [hstream]
      simp
    rw [hlen, ← hrest] at hnext
    rw [extractLoop, if_pos (by rw [hstream]; simp [hostShortToLe])]
    simp only [hword, hread, hnext]

theorem message_length_le_stream {messages : List Bytes} {message : Bytes}
    (h : message ∈ messages) : message.length ≤ (messageStream messages).length := by
  have hsum : message.length ≤ (messages.map List.length).sum :=
    List.le_sum_of_mem (List.mem_map_of_mem h)
  have hlen := length_messageStream messages
  omega

theorem extractMessageData_of_data {packet : RastaPacket} {messages : List Bytes}
    {ctx : RastaHashingContext} (hfit : MessagesFit ctx messages)
    (hdata : packet.data = messageStream messages) :
    extractMessageData P packet = messages := by
  have hlen := length_messageStream messages
  unfold MessagesFit at hfit
  have hround := extractLoop_messageStream P messages
    (fun message hmem => by
      have := message_length_le_stream hmem
      omega) [] (messageStream messages).length (by omega)
  simpa [extractMessageData, hdata] using hround

end Shape

end LibRasta.Factory
