/-
Module: LibRasta/Redundancy/Pdu.lean
source: src/c/util/rastamodule.c, src/c/rastafactory.c, src/c/redundancy/rasta_red_multiplexer.c
digest: A PDU of the redundancy layer as three consecutive blocks, and what the receiver decodes from it wherever it lies in a read.
-/

import LibRasta.Factory

set_option autoImplicit false
set_option relaxedAutoImplicit false

namespace LibRasta.Redundancy

open LibRasta.Lib
open LibRasta.Util
open LibRasta.Factory

/-- The length fields of a PDU around the packet hold the lengths they stand for, and the
checksum is one of those a PDU can carry. -/
structure Sendable (ctx : RastaHashingContext) (crc : CrcOptions) (packet : RastaPacket) :
    Prop where
  header : 28 + ctx.checksumLen ≤ packet.length.toNat
  total : 8 + packet.length.toNat + crc.crcLen < 2 ^ 16
  crcLen : crc.crcLen ≤ 4

instance (ctx : RastaHashingContext) (crc : CrcOptions) (packet : RastaPacket) :
    Decidable (Sendable ctx crc packet) :=
  decidable_of_iff (28 + ctx.checksumLen ≤ packet.length.toNat ∧
      8 + packet.length.toNat + crc.crcLen < 2 ^ 16 ∧ crc.crcLen ≤ 4)
    ⟨fun h => ⟨h.1, h.2.1, h.2.2⟩, fun h => ⟨h.header, h.total, h.crcLen⟩⟩

section Blocks

variable (P : Platform) {ctx : RastaHashingContext} {crc : CrcOptions} {packet : RastaPacket}

/-- The PDU with number `sn` around a packet, as `redundancy_mux_send` encodes it. -/
def pduBytes (ctx : RastaHashingContext) (crc : CrcOptions) (sn : UInt32)
    (packet : RastaPacket) : Bytes :=
  (rastaRedundancyPacketToBytes P .none (createRedundancyPacket sn packet crc) ctx).1

/-- The checksum bytes behind a PDU's other bytes. -/
def crcBytes (crc : CrcOptions) (body : Bytes) : Bytes :=
  (hostLongToLe (crcCalculate crc body).toUInt32).take crc.crcLen

theorem length_crcBytes (h : crc.crcLen ≤ 4) (body : Bytes) :
    (crcBytes crc body).length = crc.crcLen := by
  have hlong : (hostLongToLe (crcCalculate crc body).toUInt32).length = 4 := rfl
  rw [crcBytes, List.length_take, hlong]
  omega

@[simp]
theorem length_redundancyHeader (packet : RastaRedundancyPacket) :
    (redundancyHeader packet).length = 8 := rfl

theorem store_at_end (front back bytes : Bytes) (h : bytes.length ≤ back.length) :
    store (front ++ back) front.length bytes =
      front ++ (bytes ++ back.drop bytes.length) := by
  unfold store
  rw [List.take_left, List.length_append, Nat.add_sub_cancel_left, List.take_of_length_le h,
    List.drop_append, List.drop_eq_nil_of_le (by omega), List.nil_append, List.append_assoc]
  congr 3
  omega

/-- With a correct length field the encoder writes the header, the encoded packet, and the
checksum of both. -/
theorem rastaRedundancyPacketToBytes_blocks {pdu : RastaRedundancyPacket}
    {lasterror : RastaErrorType}
    (hlength : pdu.length.toNat = 8 + (pdu.data.length.toNat + pdu.checksumType.crcLen))
    (hcrc : pdu.checksumType.crcLen ≤ 4) :
    (rastaRedundancyPacketToBytes P lasterror pdu ctx).1 =
      redundancyHeader pdu ++ ((rastaModuleToBytes P lasterror pdu.data ctx).1 ++
        crcBytes pdu.checksumType
          (redundancyHeader pdu ++ (rastaModuleToBytes P lasterror pdu.data ctx).1)) := by
  have htotal : pdu.length.toNat < 2 ^ 16 := pdu.length.toNat_lt
  have hinner : (rastaModuleToBytes P lasterror pdu.data ctx).1.length = pdu.data.length.toNat :=
    length_rastaModuleToBytes P lasterror
  generalize hheader : redundancyHeader pdu = header
  have hheaderLen : header.length = 8 := by
    rw [← hheader]
    rfl
  unfold rastaRedundancyPacketToBytes
  rw [hheader]
  simp only
  generalize hmodule : (rastaModuleToBytes P lasterror pdu.data ctx).1 = inner at hinner
  -- the header, then the packet, then the checksum are stored behind each other
  have hfirst : store (allocateRastaByteArray
      (8 + (pdu.data.length.toNat + pdu.checksumType.crcLen))) 0 header =
      header ++ List.replicate (pdu.data.length.toNat + pdu.checksumType.crcLen) 0 := by
    have hat := store_at_end []
      (allocateRastaByteArray (8 + (pdu.data.length.toNat + pdu.checksumType.crcLen))) header
      (by simp [allocateRastaByteArray, hheaderLen])
    simpa [allocateRastaByteArray, hheaderLen] using hat
  have hsecond : store
      (header ++ List.replicate (pdu.data.length.toNat + pdu.checksumType.crcLen) 0) 8 inner =
      header ++ inner ++ List.replicate pdu.checksumType.crcLen 0 := by
    have hat := store_at_end header
      (List.replicate (pdu.data.length.toNat + pdu.checksumType.crcLen) 0) inner
      (by simp [hinner])
    rw [hheaderLen] at hat
    rw [hat, hinner, List.append_assoc]
    simp
  have hbody : (header ++ inner).length = 8 + pdu.data.length.toNat := by
    rw [List.length_append, hheaderLen, hinner]
  have hwithout : lengthWithoutChecksum
      (8 + (pdu.data.length.toNat + pdu.checksumType.crcLen)) pdu.checksumType =
      (header ++ inner).length := by
    rw [hbody]
    unfold lengthWithoutChecksum
    omega
  rw [hlength, hfirst, hsecond, hwithout, readBytes_append_front]
  have hthird := store_at_end (header ++ inner) (List.replicate pdu.checksumType.crcLen 0)
    (crcBytes pdu.checksumType (header ++ inner)) (by simp [length_crcBytes hcrc])
  rw [hbody, length_crcBytes hcrc] at hthird
  rw [← List.append_assoc]
  simpa [crcBytes] using hthird

/-- The PDU consists of its header, the encoded packet, and the checksum of both. -/
theorem pduBytes_blocks (h : Sendable ctx crc packet) (sn : UInt32) :
    pduBytes P ctx crc sn packet =
      redundancyHeader (createRedundancyPacket sn packet crc) ++
        ((rastaModuleToBytes P .none packet ctx).1 ++
          crcBytes crc (redundancyHeader (createRedundancyPacket sn packet crc) ++
            (rastaModuleToBytes P .none packet ctx).1)) := by
  have htotal := h.total
  have hlength : (createRedundancyPacket sn packet crc).length.toNat =
      8 + (packet.length.toNat + crc.crcLen) := by
    simp only [createRedundancyPacket, UInt16.toNat_ofNat']
    omega
  exact rastaRedundancyPacketToBytes_blocks P hlength h.crcLen

theorem length_pduBytes (h : Sendable ctx crc packet) (sn : UInt32) :
    (pduBytes P ctx crc sn packet).length = 8 + packet.length.toNat + crc.crcLen := by
  rw [pduBytes_blocks P h, List.length_append, List.length_append, length_redundancyHeader,
    length_rastaModuleToBytes, length_crcBytes h.crcLen]
  omega

theorem redundancyHeader_length (packet : RastaRedundancyPacket) (rest : Bytes) :
    leShortToHost P (redundancyHeader packet ++ rest) 0 = packet.length :=
  ofLe16_le16 packet.length

theorem redundancyHeader_reserve (packet : RastaRedundancyPacket) (rest : Bytes) :
    leShortToHost P (redundancyHeader packet ++ rest) 2 = packet.reserve :=
  ofLe16_le16 packet.reserve

theorem redundancyHeader_sequenceNumber (packet : RastaRedundancyPacket) (rest : Bytes) :
    leLongToHost P (redundancyHeader packet ++ rest) 4 = packet.sequenceNumber :=
  ofLe32_le32 packet.sequenceNumber

/-- The length field at the start of a PDU. -/
theorem pduBytes_size (h : Sendable ctx crc packet) (sn : UInt32) (rest : Bytes) :
    (leShortToHost P (pduBytes P ctx crc sn packet ++ rest) 0).toNat =
      (pduBytes P ctx crc sn packet).length := by
  have htotal := h.total
  rw [length_pduBytes P h, pduBytes_blocks P h, List.append_assoc, redundancyHeader_length]
  simp only [createRedundancyPacket, UInt16.toNat_ofNat']
  omega

/-- The PDU as the receiver decodes it with its own hashing context: `code` is the safety code
that was received. -/
def arrivedPdu (ctx : RastaHashingContext) (crc : CrcOptions) (sn : UInt32)
    (packet : RastaPacket) (code : Bytes) : RastaRedundancyPacket :=
  { createRedundancyPacket sn packet crc with data := recoded P packet ctx code }

/-- The safety code the sender of a packet computes. -/
def safetyCode (ctx : RastaHashingContext) (packet : RastaPacket) : Bytes :=
  (P.calculateHash ctx (bytesToHash P packet ctx)).take ctx.checksumLen

/-- Wherever a PDU lies in a read, it decodes to the packet it was made of. -/
theorem bytesToRastaRedundancyPacket_pduBytes (h : Sendable ctx crc packet) (sn : UInt32)
    (rest : Bytes) {ctx' : RastaHashingContext} (hctx : ctx'.checksumLen = ctx.checksumLen)
    (lasterror : RastaErrorType) (result : RastaRedundancyPacket) :
    bytesToRastaRedundancyPacket P lasterror (pduBytes P ctx crc sn packet ++ rest)
        (pduBytes P ctx crc sn packet).length crc ctx' result =
      (arrivedPdu P ctx' crc sn packet (safetyCode P ctx packet), lasterror) := by
  have htotal := h.total
  have hheader := h.header
  have hcode : (safetyCode P ctx packet).length = ctx'.checksumLen := by
    rw [safetyCode, length_safetyCode, hctx]
  have hinner : (rastaModuleToBytes P .none packet ctx).1 =
      bytesToHash P packet ctx' ++ safetyCode P ctx packet := by
    rw [rastaModuleToBytes_of_fits P h.header, bytesToHash_congr P hctx]
    rfl
  have hinnerLen : (rastaModuleToBytes P .none packet ctx).1.length = packet.length.toNat :=
    length_rastaModuleToBytes P .none
  have hdecoded : ∀ r, bytesToRastaPacket P lasterror (rastaModuleToBytes P .none packet ctx).1
      ctx' r = (recoded P packet ctx' (safetyCode P ctx packet), lasterror) := by
    intro r
    rw [hinner]
    exact bytesToRastaPacket_blocks P (by rw [hctx]; exact hheader) hcode lasterror r
  -- the three blocks, with whatever follows the PDU behind them
  have hlen := length_pduBytes P h sn
  have hdataLen : innerLength (pduBytes P ctx crc sn packet).length crc =
      (rastaModuleToBytes P .none packet ctx).1.length := by
    rw [hlen, hinnerLen]
    unfold innerLength
    omega
  have hblocks := pduBytes_blocks P h sn
  generalize hheaderEq : redundancyHeader (createRedundancyPacket sn packet crc) = header
    at hblocks
  have hheaderLen : header.length = 8 := by
    rw [← hheaderEq]
    rfl
  have hwithout : lengthWithoutChecksum (pduBytes P ctx crc sn packet).length crc =
      (header ++ (rastaModuleToBytes P .none packet ctx).1).length := by
    rw [hlen, List.length_append, hheaderLen, hinnerLen]
    unfold lengthWithoutChecksum
    omega
  generalize hmemory : pduBytes P ctx crc sn packet ++ rest = memory
  have hfields : memory = redundancyHeader (createRedundancyPacket sn packet crc) ++
      ((rastaModuleToBytes P .none packet ctx).1 ++
        (crcBytes crc (header ++ (rastaModuleToBytes P .none packet ctx).1) ++ rest)) := by
    rw [← hmemory, hblocks, hheaderEq]
    simp only [List.append_assoc]
  have hread : readBytes P memory 8
      (innerLength (pduBytes P ctx crc sn packet).length crc) =
      (rastaModuleToBytes P .none packet ctx).1 := by
    rw [hfields, hdataLen]
    exact readBytes_append_middle P _ _ _
  have hbody : readBytes P memory 0
      (lengthWithoutChecksum (pduBytes P ctx crc sn packet).length crc) =
      header ++ (rastaModuleToBytes P .none packet ctx).1 := by
    rw [hfields, hheaderEq, hwithout, ← List.append_assoc]
    exact readBytes_append_front P _ _
  have hreceived : readBytes P memory
      ((8 + innerLength (pduBytes P ctx crc sn packet).length crc) % 2 ^ 32) crc.crcLen =
      crcBytes crc (header ++ (rastaModuleToBytes P .none packet ctx).1) := by
    have hoffset : (8 + innerLength (pduBytes P ctx crc sn packet).length crc) % 2 ^ 32 =
        (header ++ (rastaModuleToBytes P .none packet ctx).1).length := by
      rw [hdataLen, List.length_append, hheaderLen, hinnerLen]
      omega
    have hmiddle := readBytes_append_middle P
      (header ++ (rastaModuleToBytes P .none packet ctx).1)
      (crcBytes crc (header ++ (rastaModuleToBytes P .none packet ctx).1)) rest
    rw [length_crcBytes h.crcLen] at hmiddle
    rw [hoffset, hfields, hheaderEq, ← List.append_assoc]
    exact hmiddle
  unfold bytesToRastaRedundancyPacket
  rw [hread, hdecoded]
  unfold redundancyPacketOf
  simp only [hbody, hreceived]
  rw [hfields, redundancyHeader_length, redundancyHeader_reserve,
    redundancyHeader_sequenceNumber]
  simp only [crcBytes, decide_true, ite_self]
  rfl

end Blocks

end LibRasta.Redundancy
