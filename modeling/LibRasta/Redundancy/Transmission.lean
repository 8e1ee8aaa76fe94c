/-
Module: LibRasta/Redundancy/Transmission.lean
source: src/c/redundancy/rasta_red_multiplexer.c, src/c/redundancy/rastaredundancy.c
digest: The PDUs a peer sends in one session, the reads in which copies of them arrive, and what one arriving copy does to the channel.
-/

import LibRasta.Redundancy.Framing
import LibRasta.Redundancy.Pdu

set_option autoImplicit false
set_option relaxedAutoImplicit false

namespace LibRasta.Redundancy

open LibRasta.Util
open LibRasta.Factory
open LibRasta.Retransmission

/-- What the peer of an endpoint with the given configuration sends: packets with its own
identifier that the encoder can encode, fewer than there are numbers, from the start of its
channel on. -/
structure Transmission (config : RastaConfigInfo) where
  peer : Connection
  packets : List RastaPacket
  seqTx : peer.seqTx = 0
  lasterror : peer.lasterror = .none
  checksumLen : peer.hashingContext.checksumLen = (hashingContextOf config).checksumLen
  crcType : peer.config.crcType = config.crcType
  sender : ∀ packet ∈ packets, config.rastaIdRemote = packet.senderId.toUInt64
  sendable : ∀ packet ∈ packets, Sendable peer.hashingContext config.crcType packet
  few : packets.length < 2 ^ 32

section Sending

variable (P : Platform)

theorem redundancyMuxSend_pdu {peer : Connection} {packet : RastaPacket}
    (herror : peer.lasterror = .none)
    (h : Sendable peer.hashingContext peer.config.crcType packet) :
    (redundancyMuxSend P peer packet).sent.map SentPdu.dataToSend =
        peer.sent.map SentPdu.dataToSend ++
          [pduBytes P peer.hashingContext peer.config.crcType peer.seqTx.toUInt32 packet] ∧
      (redundancyMuxSend P peer packet).lasterror = .none := by
  have hinner : (rastaModuleToBytes P .none packet peer.hashingContext).2 = .none := by
    rw [rastaModuleToBytes_of_fits P h.header]
  constructor
  · simp only [redundancyMuxSend, List.map_append, List.map_cons, List.map_nil, herror, pduBytes]
  · have hlast : (redundancyMuxSend P peer packet).lasterror =
        (rastaModuleToBytes P peer.lasterror packet peer.hashingContext).2 := rfl
    rw [hlast, herror]
    exact hinner

/-- The PDUs of consecutive calls of `redundancy_mux_send` carry consecutive numbers. -/
theorem redundancyMuxSend_pdus (packets : List RastaPacket) (peer : Connection) (first : ℕ)
    (herror : peer.lasterror = .none) (hfirst : peer.seqTx = UInt64.ofNat first)
    (h : ∀ packet ∈ packets, Sendable peer.hashingContext peer.config.crcType packet) :
    (packets.foldl (redundancyMuxSend P) peer).sent.map SentPdu.dataToSend =
      peer.sent.map SentPdu.dataToSend ++ packets.mapIdx fun i packet =>
        pduBytes P peer.hashingContext peer.config.crcType (UInt64.ofNat (first + i)).toUInt32
          packet := by
  induction packets generalizing peer first with
  | nil => simp
  | cons packet rest ih =>
    obtain ⟨hsent, hclear⟩ := redundancyMuxSend_pdu P herror (h packet List.mem_cons_self)
    have hseq : (redundancyMuxSend P peer packet).seqTx = UInt64.ofNat (first + 1) := by
      have hnext : (redundancyMuxSend P peer packet).seqTx = peer.seqTx + 1 := rfl
      rw [hnext, hfirst]
      simp
    have hrest := ih (redundancyMuxSend P peer packet) (first + 1) hclear hseq
      (fun p hp => h p (List.mem_cons_of_mem packet hp))
    rw [List.foldl_cons, hrest, hsent, hfirst, List.mapIdx_cons, List.append_assoc]
    simp only [List.cons_append, List.nil_append, Nat.add_zero]
    have hcomm : ∀ i, first + 1 + i = first + (i + 1) := by intro i; omega
    simp only [hcomm]
    rfl

end Sending

namespace Transmission

variable (P : Platform) {config : RastaConfigInfo} (T : Transmission config)

/-- The PDUs in the order in which they are sent. -/
def pdus : List Bytes :=
  (((T.packets.foldl (redundancyMuxSend P) T.peer).sent.drop T.peer.sent.length).map
    SentPdu.dataToSend)

theorem pdus_eq : T.pdus P = T.packets.mapIdx fun i packet =>
    pduBytes P T.peer.hashingContext config.crcType (UInt64.ofNat i).toUInt32 packet := by
  have hsendable : ∀ packet ∈ T.packets,
      Sendable T.peer.hashingContext T.peer.config.crcType packet := by
    rw [T.crcType]
    exact T.sendable
  have hall := redundancyMuxSend_pdus P T.packets T.peer 0 T.lasterror T.seqTx hsendable
  unfold pdus
  rw [List.map_drop, hall, List.drop_left' (by simp), T.crcType]
  simp only [Nat.zero_add]

theorem length_pdus : (T.pdus P).length = T.packets.length := by
  rw [pdus_eq, List.length_mapIdx]

/-- A copy of PDU `i` as some decoder of the session left it. -/
def Copy (i : ℕ) (packet : RastaRedundancyPacket) : Prop :=
  ∃ inner ctx code, T.packets[i]? = some inner ∧
    ctx.checksumLen = (hashingContextOf config).checksumLen ∧
    packet = arrivedPdu P ctx config.crcType (UInt64.ofNat i).toUInt32 inner code

variable {P T}

theorem Copy.lt {i : ℕ} {packet : RastaRedundancyPacket} (h : T.Copy P i packet) :
    i < T.packets.length := by
  obtain ⟨inner, -, -, hinner, -⟩ := h
  exact (List.getElem?_eq_some_iff.mp hinner).1

theorem Copy.sequenceNumber {i : ℕ} {packet : RastaRedundancyPacket} (h : T.Copy P i packet) :
    packet.sequenceNumber.toUInt64.toNat = i := by
  have hlt := h.lt
  have hfew := T.few
  obtain ⟨inner, ctx, code, -, -, rfl⟩ := h
  have hsn : (arrivedPdu P ctx config.crcType (UInt64.ofNat i).toUInt32 inner code).sequenceNumber
      = (UInt64.ofNat i).toUInt32 := rfl
  rw [hsn, UInt32.toNat_toUInt64, UInt64.toNat_toUInt32, UInt64.toNat_ofNat']
  omega

theorem Copy.sender {i : ℕ} {packet : RastaRedundancyPacket} (h : T.Copy P i packet) :
    config.rastaIdRemote = packet.data.senderId.toUInt64 := by
  obtain ⟨inner, ctx, code, hinner, -, rfl⟩ := h
  exact T.sender inner (List.mem_of_getElem? hinner)

theorem Copy.checksumCorrect {i : ℕ} {packet : RastaRedundancyPacket}
    (h : T.Copy P i packet) : packet.checksumCorrect = true := by
  obtain ⟨inner, ctx, code, -, -, rfl⟩ := h
  rfl

/-- The PDU at index `i`, and what it was made of. -/
theorem get_pdus (i : Fin (T.pdus P).length) :
    ∃ inner, T.packets[i.val]? = some inner ∧
      (T.pdus P).get i = pduBytes P T.peer.hashingContext config.crcType
        (UInt64.ofNat i).toUInt32 inner ∧
      Sendable T.peer.hashingContext config.crcType inner := by
  have hlt : i.val < T.packets.length := by
    rw [← T.length_pdus P]
    exact i.isLt
  have hmem : T.packets[i.val] ∈ T.packets := List.getElem_mem hlt
  refine ⟨T.packets[i.val], List.getElem?_eq_getElem hlt, ?_, T.sendable _ hmem⟩
  have hget : ∀ n (hn : n < T.packets.length), (T.pdus P)[n]? =
      some (pduBytes P T.peer.hashingContext config.crcType (UInt64.ofNat n).toUInt32
        T.packets[n]) := by
    intro n hn
    rw [pdus_eq, List.getElem?_mapIdx, List.getElem?_eq_getElem hn]
    rfl
  have hbytes := hget i.val hlt
  rw [List.getElem?_eq_getElem i.isLt] at hbytes
  exact Option.some.inj hbytes

theorem framed_get (i : Fin (T.pdus P).length) : Framed P ((T.pdus P).get i) := by
  obtain ⟨inner, -, hbytes, hsendable⟩ := T.get_pdus i
  have hlen := length_pduBytes P hsendable (UInt64.ofNat i).toUInt32
  rw [hbytes]
  refine ⟨by omega, ?_⟩
  have hsize := pduBytes_size P hsendable (UInt64.ofNat i).toUInt32 []
  rwa [List.append_nil] at hsize

/-- Wherever a PDU of the peer lies in a read, the receiver decodes a copy of it. -/
theorem handleReceivedData_copy (i : Fin (T.pdus P).length) (rest : Bytes) {con : Connection}
    (hcrc : con.config.crcType = config.crcType)
    (hctx : con.srHashingContext.checksumLen = (hashingContextOf config).checksumLen) :
    ∃ packet, T.Copy P i packet ∧
      handleReceivedData P con ((T.pdus P).get i ++ rest)
        (leShortToHost P ((T.pdus P).get i ++ rest) 0).toNat = (packet, con.lasterror) := by
  obtain ⟨inner, hinner, hbytes, hsendable⟩ := T.get_pdus i
  have hdecoded := bytesToRastaRedundancyPacket_pduBytes P hsendable
    (UInt64.ofNat i).toUInt32 rest (hctx.trans T.checksumLen.symm) con.lasterror
    (P.uninitRedundancyPacket ((T.pdus P).get i ++ rest))
  refine ⟨_, ⟨inner, con.srHashingContext, safetyCode P T.peer.hashingContext inner, hinner, hctx,
    rfl⟩, ?_⟩
  unfold handleReceivedData
  rw [hcrc, hbytes, pduBytes_size P hsendable]
  rw [hbytes] at hdecoded
  exact hdecoded

theorem receivePdu_copy (i : Fin (T.pdus P).length) (rest : Bytes) {endpoint : Endpoint}
    (hcrc : endpoint.con.config.crcType = config.crcType)
    (hctx : endpoint.con.srHashingContext.checksumLen =
      (hashingContextOf config).checksumLen) (channelId : ℕ) :
    ∃ packet, T.Copy P i packet ∧
      packet = Reception.packet P
        { con := endpoint.con, buffer := (T.pdus P).get i ++ rest } ∧
      Dispatched P endpoint packet
        (receivePdu P endpoint channelId ((T.pdus P).get i ++ rest)) := by
  obtain ⟨packet, hcopy, hreceived⟩ := T.handleReceivedData_copy i rest hcrc hctx
  refine ⟨packet, hcopy, ?_, ?_⟩
  · unfold Reception.packet Reception.size
    rw [hreceived]
  · have hsame : setLasterror endpoint endpoint.con.lasterror = endpoint := rfl
    unfold receivePdu
    rw [hreceived]
    simp only [hsame]
    exact dispatchPdu_dispatched P endpoint channelId packet

end Transmission

end LibRasta.Redundancy
