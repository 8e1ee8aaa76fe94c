/-
Module: LibRasta/Util/Module.lean
source: src/c/util/rastamodule.c
digest: Encoding and decoding of the packets of both layers, with the sticky error variable of the translation unit passed explicitly, and the round trips of the two formats.
-/

import LibRasta.Util.Crc

set_option autoImplicit false
set_option relaxedAutoImplicit false

namespace LibRasta.Util

open LibRasta.Lib

section Translation

variable (P : Platform)

/-- `getDataLength`; the negative case of the source is the truncation of `ℕ`. -/
def getDataLength (packet : RastaPacket) (ctx : RastaHashingContext) : ℕ :=
  packet.length.toNat - 28 - ctx.checksumLen

/-- The error `allocateBytes` leaves in `rastamodule_lasterror`. -/
def allocateBytesError (lasterror : RastaErrorType) (packet : RastaPacket)
    (ctx : RastaHashingContext) : RastaErrorType :=
  if packet.length.toNat < 28 + ctx.checksumLen then .packageLengthInvalid else lasterror

/-- `packFields`: the 28 header bytes. -/
def packFields (packet : RastaPacket) : Bytes :=
  hostShortToLe packet.length ++ hostShortToLe packet.type.code ++
    hostLongToLe packet.receiverId ++ hostLongToLe packet.senderId ++
    hostLongToLe packet.sequenceNumber ++ hostLongToLe packet.confirmedSequenceNumber ++
    hostLongToLe packet.timestamp ++ hostLongToLe packet.confirmedTimestamp

/-- Header and data, the bytes the safety code of a packet is computed over. -/
def bytesToHash (packet : RastaPacket) (ctx : RastaHashingContext) : Bytes :=
  packFields packet ++ readBytes P packet.data 0 (getDataLength packet ctx)

/-- `rastaModuleToBytes`. The first component is the returned array, the second the error
variable afterwards; an error left by an earlier call makes the result all zeros. -/
def rastaModuleToBytes (lasterror : RastaErrorType) (packet : RastaPacket)
    (ctx : RastaHashingContext) : Bytes × RastaErrorType :=
  let lasterror := allocateBytesError lasterror packet ctx
  if lasterror ≠ .none then (allocateRastaByteArray packet.length.toNat, lasterror)
  else
    let body := bytesToHash P packet ctx
    (body ++ (P.calculateHash ctx body).take ctx.checksumLen, lasterror)

/-- `rastaModuleToBytesNoChecksum`: the packet's own checksum bytes are written. -/
def rastaModuleToBytesNoChecksum (lasterror : RastaErrorType) (packet : RastaPacket)
    (ctx : RastaHashingContext) : Bytes × RastaErrorType :=
  let lasterror := allocateBytesError lasterror packet ctx
  if lasterror ≠ .none then (allocateRastaByteArray packet.length.toNat, lasterror)
  else
    (bytesToHash P packet ctx ++ readBytes P packet.checksum 0 ctx.checksumLen, lasterror)

/-- The number of bytes `bytesToRastaPacket` hashes; the subtraction is one of `unsigned int`. -/
def hashedLength (length : UInt16) (ctx : RastaHashingContext) : ℕ :=
  (length.toNat + 2 ^ 32 - ctx.checksumLen) % 2 ^ 32

/-- `bytesToRastaPacket` writing into `result`. A runt leaves all but two fields as they were. -/
def bytesToRastaPacket (lasterror : RastaErrorType) (data : Bytes) (ctx : RastaHashingContext)
    (result : RastaPacket) : RastaPacket × RastaErrorType :=
  if data.length < 28 + ctx.checksumLen then
    ({ result with length := 0, checksumCorrect := false }, .packageLengthInvalid)
  else
    let length := leShortToHost P data 0
    let len := length.toNat - 28 - ctx.checksumLen
    let checksum := readBytes P data (28 + len) ctx.checksumLen
    let hash := P.calculateHash ctx (readBytes P data 0 (hashedLength length ctx))
    ({ length := length
       type := RastaConnType.ofCode (leShortToHost P data 2)
       receiverId := leLongToHost P data 4
       senderId := leLongToHost P data 8
       sequenceNumber := leLongToHost P data 12
       confirmedSequenceNumber := leLongToHost P data 16
       timestamp := leLongToHost P data 20
       confirmedTimestamp := leLongToHost P data 24
       data := readBytes P data 28 len
       checksum := checksum
       checksumCorrect := decide (hash.take ctx.checksumLen = checksum) }, lasterror)

/-- The leading 8 bytes of a redundancy layer PDU. -/
def redundancyHeader (packet : RastaRedundancyPacket) : Bytes :=
  hostShortToLe packet.length ++ hostShortToLe packet.reserve ++
    hostLongToLe packet.sequenceNumber

/-- The length of the inner packet in a PDU of `length` bytes, as `unsigned int`. -/
def innerLength (length : ℕ) (checksumType : CrcOptions) : ℕ :=
  (length + 2 ^ 33 - 8 - checksumType.crcLen) % 2 ^ 32

/-- The length of a PDU less its checksum, as `unsigned int`. -/
def lengthWithoutChecksum (length : ℕ) (checksumType : CrcOptions) : ℕ :=
  (length + 2 ^ 32 - checksumType.crcLen) % 2 ^ 32

/-- `rastaRedundancyPacketToBytes`. -/
def rastaRedundancyPacketToBytes (lasterror : RastaErrorType) (packet : RastaRedundancyPacket)
    (ctx : RastaHashingContext) : Bytes × RastaErrorType :=
  let internalLen := packet.data.length.toNat
  let internal := rastaModuleToBytes P lasterror packet.data ctx
  let result := allocateRastaByteArray packet.length.toNat
  let result := store result 0 (redundancyHeader packet)
  let result := store result 8 internal.1
  let lenWoChecksum := lengthWithoutChecksum packet.length.toNat packet.checksumType
  let checksum := crcCalculate packet.checksumType (readBytes P result 0 lenWoChecksum)
  let storage := hostLongToLe checksum.toUInt32
  (store result (8 + internalLen) (storage.take packet.checksumType.crcLen), internal.2)

/-- The redundancy layer packet around a decoded inner packet. -/
def redundancyPacketOf (data : Bytes) (length : ℕ) (checksumType : CrcOptions)
    (inner : RastaPacket) : RastaRedundancyPacket :=
  let woChecksumLen := lengthWithoutChecksum length checksumType
  let calculated := crcCalculate checksumType (readBytes P data 0 woChecksumLen)
  let received := readBytes P data ((8 + innerLength length checksumType) % 2 ^ 32)
    checksumType.crcLen
  { length := leShortToHost P data 0
    reserve := leShortToHost P data 2
    sequenceNumber := leLongToHost P data 4
    data := inner
    checksumCorrect :=
      if length = woChecksumLen then true
      else decide ((hostLongToLe calculated.toUInt32).take checksumType.crcLen = received)
    checksumType := checksumType }

/-- `bytesToRastaRedundancyPacket` writing into `packet`. `data` is the memory from the start
of the PDU on and `length` the length the caller claims for it. -/
def bytesToRastaRedundancyPacket (lasterror : RastaErrorType) (data : Bytes) (length : ℕ)
    (checksumType : CrcOptions) (ctx : RastaHashingContext) (packet : RastaRedundancyPacket) :
    RastaRedundancyPacket × RastaErrorType :=
  let inner := bytesToRastaPacket P lasterror
    (readBytes P data 8 (innerLength length checksumType)) ctx packet.data
  (redundancyPacketOf P data length checksumType inner.1, inner.2)

end Translation

section Header

variable (P : Platform)

-- stated for any inner packet, so that using it never evaluates the inner decoder
theorem redundancyPacketOf_data (data : Bytes) (length : ℕ) (checksumType : CrcOptions)
    (inner : RastaPacket) :
    (redundancyPacketOf P data length checksumType inner).data = inner := rfl

@[simp]
theorem length_packFields (packet : RastaPacket) : (packFields packet).length = 28 := rfl

theorem packFields_length (packet : RastaPacket) (rest : Bytes) :
    leShortToHost P (packFields packet ++ rest) 0 = packet.length :=
  ofLe16_le16 packet.length

theorem packFields_type (packet : RastaPacket) (rest : Bytes) :
    leShortToHost P (packFields packet ++ rest) 2 = packet.type.code :=
  ofLe16_le16 packet.type.code

theorem packFields_receiverId (packet : RastaPacket) (rest : Bytes) :
    leLongToHost P (packFields packet ++ rest) 4 = packet.receiverId :=
  ofLe32_le32 packet.receiverId

theorem packFields_senderId (packet : RastaPacket) (rest : Bytes) :
    leLongToHost P (packFields packet ++ rest) 8 = packet.senderId :=
  ofLe32_le32 packet.senderId

theorem packFields_sequenceNumber (packet : RastaPacket) (rest : Bytes) :
    leLongToHost P (packFields packet ++ rest) 12 = packet.sequenceNumber :=
  ofLe32_le32 packet.sequenceNumber

theorem packFields_confirmedSequenceNumber (packet : RastaPacket) (rest : Bytes) :
    leLongToHost P (packFields packet ++ rest) 16 = packet.confirmedSequenceNumber :=
  ofLe32_le32 packet.confirmedSequenceNumber

theorem packFields_timestamp (packet : RastaPacket) (rest : Bytes) :
    leLongToHost P (packFields packet ++ rest) 20 = packet.timestamp :=
  ofLe32_le32 packet.timestamp

theorem packFields_confirmedTimestamp (packet : RastaPacket) (rest : Bytes) :
    leLongToHost P (packFields packet ++ rest) 24 = packet.confirmedTimestamp :=
  ofLe32_le32 packet.confirmedTimestamp

end Header

section RoundTrip

variable (P : Platform) {packet : RastaPacket} {ctx : RastaHashingContext}

theorem rastaModuleToBytes_of_fits (h : 28 + ctx.checksumLen ≤ packet.length.toNat) :
    rastaModuleToBytes P .none packet ctx =
      (bytesToHash P packet ctx ++
        (P.calculateHash ctx (bytesToHash P packet ctx)).take ctx.checksumLen, .none) := by
  have hnot : ¬ packet.length.toNat < 28 + ctx.checksumLen := by omega
  simp [rastaModuleToBytes, allocateBytesError, hnot]

theorem length_bytesToHash (h : 28 + ctx.checksumLen ≤ packet.length.toNat) :
    (bytesToHash P packet ctx).length = packet.length.toNat - ctx.checksumLen := by
  simp only [bytesToHash, getDataLength, List.length_append, length_packFields,
    length_readBytes]
  omega

theorem length_safetyCode (body : Bytes) :
    ((P.calculateHash ctx body).take ctx.checksumLen).length = ctx.checksumLen := by
  rw [List.length_take, P.length_calculateHash]
  exact Nat.min_eq_left ctx.checksumLen_le

theorem hashedLength_of_le (h : ctx.checksumLen ≤ packet.length.toNat) :
    hashedLength packet.length ctx = packet.length.toNat - ctx.checksumLen := by
  have hlt : packet.length.toNat < 2 ^ 16 := packet.length.toNat_lt
  unfold hashedLength
  omega

/-- What decoding returns for an encoded packet: the data field as the encoder read it,
and a safety code that is correct whatever the packet said about it. -/
def reencoded (packet : RastaPacket) (ctx : RastaHashingContext) : RastaPacket :=
  { packet with
    data := readBytes P packet.data 0 (getDataLength packet ctx)
    checksum := (P.calculateHash ctx (bytesToHash P packet ctx)).take ctx.checksumLen
    checksumCorrect := true }

/-- The packet with the data bytes the encoder read, and with the given safety code. -/
def recoded (packet : RastaPacket) (ctx : RastaHashingContext) (code : Bytes) : RastaPacket :=
  { packet with
    data := readBytes P packet.data 0 (getDataLength packet ctx)
    checksum := code
    checksumCorrect :=
      decide ((P.calculateHash ctx (bytesToHash P packet ctx)).take ctx.checksumLen = code) }

/-- Decoding header, data and any safety code. -/
theorem bytesToRastaPacket_blocks (h : 28 + ctx.checksumLen ≤ packet.length.toNat)
    {code : Bytes} (hcode : code.length = ctx.checksumLen) (lasterror : RastaErrorType)
    (result : RastaPacket) :
    bytesToRastaPacket P lasterror (bytesToHash P packet ctx ++ code) ctx result =
      (recoded P packet ctx code, lasterror) := by
  have hbody := length_bytesToHash P h
  have hblocks : bytesToHash P packet ctx ++ code =
      packFields packet ++ (readBytes P packet.data 0 (getDataLength packet ctx) ++ code) := by
    simp only [bytesToHash, List.append_assoc]
  have hlength : leShortToHost P (bytesToHash P packet ctx ++ code) 0 = packet.length := by
    rw [hblocks, packFields_length]
  have hnotRunt : ¬ (bytesToHash P packet ctx ++ code).length < 28 + ctx.checksumLen := by
    rw [List.length_append, hbody, hcode]
    omega
  have hhash : readBytes P (bytesToHash P packet ctx ++ code) 0
      (hashedLength packet.length ctx) = bytesToHash P packet ctx := by
    rw [hashedLength_of_le (by omega), ← hbody]
    exact readBytes_append_front P _ _
  have hdata : readBytes P (bytesToHash P packet ctx ++ code) 28
      (packet.length.toNat - 28 - ctx.checksumLen) =
      readBytes P packet.data 0 (getDataLength packet ctx) := by
    rw [hblocks]
    have hmiddle := readBytes_append_middle P (packFields packet)
      (readBytes P packet.data 0 (getDataLength packet ctx)) code
    rwa [length_readBytes, length_packFields] at hmiddle
  have hchecksum : readBytes P (bytesToHash P packet ctx ++ code)
      (28 + (packet.length.toNat - 28 - ctx.checksumLen)) ctx.checksumLen = code := by
    have hoffset : 28 + (packet.length.toNat - 28 - ctx.checksumLen) =
        (bytesToHash P packet ctx).length := by omega
    have hmiddle := readBytes_append_middle P (bytesToHash P packet ctx) code []
    rw [List.append_nil, hcode] at hmiddle
    rw [hoffset]
    exact hmiddle
  simp only [bytesToRastaPacket, if_neg hnotRunt, hlength, hhash, hdata, hchecksum]
  simp only [hblocks, packFields_type, packFields_receiverId, packFields_senderId,
    packFields_sequenceNumber, packFields_confirmedSequenceNumber, packFields_timestamp,
    packFields_confirmedTimestamp, RastaConnType.ofCode_code, recoded]

theorem bytesToRastaPacket_toBytes (h : 28 + ctx.checksumLen ≤ packet.length.toNat)
    (lasterror : RastaErrorType) (result : RastaPacket) :
    bytesToRastaPacket P lasterror (rastaModuleToBytes P .none packet ctx).1 ctx result =
      (reencoded P packet ctx, lasterror) := by
  rw [rastaModuleToBytes_of_fits P h,
    bytesToRastaPacket_blocks P h (length_safetyCode P _) lasterror result]
  simp only [recoded, reencoded, decide_true]

theorem bytesToHash_congr {ctx' : RastaHashingContext}
    (h : ctx'.checksumLen = ctx.checksumLen) :
    bytesToHash P packet ctx' = bytesToHash P packet ctx := by
  simp only [bytesToHash, getDataLength, h]

/-- Encoding depends on header and data alone, so a second encoding changes nothing more. -/
theorem reencoded_recoded {ctx' : RastaHashingContext}
    (h : ctx'.checksumLen = ctx.checksumLen) (code : Bytes) :
    reencoded P (recoded P packet ctx' code) ctx = reencoded P packet ctx := by
  have hlen : getDataLength packet ctx' = getDataLength packet ctx := by
    simp only [getDataLength, h]
  have hdata : readBytes P (readBytes P packet.data 0 (getDataLength packet ctx)) 0
      (getDataLength packet ctx) = readBytes P packet.data 0 (getDataLength packet ctx) := by
    have hall := readBytes_all P (readBytes P packet.data 0 (getDataLength packet ctx))
    rwa [length_readBytes] at hall
  have hrecoded : getDataLength (recoded P packet ctx' code) ctx = getDataLength packet ctx := rfl
  have hfields : packFields (recoded P packet ctx' code) = packFields packet := rfl
  have hdata' : (recoded P packet ctx' code).data =
      readBytes P packet.data 0 (getDataLength packet ctx) := by
    simp only [recoded, hlen]
  simp only [reencoded, bytesToHash, hrecoded, hfields, hdata', hdata]
  rfl

/-- The length field of a packet agrees with its data, as for every packet the factory builds
within the range of the field. -/
def WellFormed (ctx : RastaHashingContext) (packet : RastaPacket) : Prop :=
  packet.length.toNat = 28 + ctx.checksumLen + packet.data.length

theorem reencoded_of_wellFormed (h : WellFormed ctx packet) :
    reencoded P packet ctx =
      { packet with
        checksum := (P.calculateHash ctx (packFields packet ++ packet.data)).take
          ctx.checksumLen
        checksumCorrect := true } := by
  have hlen : getDataLength packet ctx = packet.data.length := by
    unfold WellFormed at h
    unfold getDataLength
    omega
  simp only [reencoded, bytesToHash, hlen, readBytes_all]

theorem length_rastaModuleToBytes (lasterror : RastaErrorType) :
    (rastaModuleToBytes P lasterror packet ctx).1.length = packet.length.toNat := by
  by_cases herr : allocateBytesError lasterror packet ctx = .none
  · have hfits : 28 + ctx.checksumLen ≤ packet.length.toNat := by
      by_contra hshort
      simp [allocateBytesError, Nat.not_le.mp hshort] at herr
    simp only [rastaModuleToBytes, herr, ne_eq, not_true_eq_false, if_false,
      List.length_append, length_safetyCode, length_bytesToHash P hfits]
    omega
  · simp [rastaModuleToBytes, herr, allocateRastaByteArray]

end RoundTrip

end LibRasta.Util
