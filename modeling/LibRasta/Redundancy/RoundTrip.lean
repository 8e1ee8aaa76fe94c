/-
Module: LibRasta/Redundancy/RoundTrip.lean
source: src/c/util/rastamodule.c, src/c/rastafactory.c
digest: The wire format in both directions: what is encoded decodes to itself, and which accepted byte strings are encodings.
-/

import LibRasta.Redundancy.Pdu

set_option autoImplicit false
set_option relaxedAutoImplicit false

namespace LibRasta.Redundancy

open LibRasta.Lib
open LibRasta.Util
open LibRasta.Factory

/-- The option sets a configuration can select. -/
def crcOptionSets : List CrcOptions :=
  [crcInitOptA, crcInitOptB, crcInitOptC, crcInitOptD, crcInitOptE]

theorem crcLen_le_of_mem {crc : CrcOptions} (h : crc ∈ crcOptionSets) : crc.crcLen ≤ 4 := by
  have hall : ∀ option ∈ crcOptionSets, option.crcLen ≤ 4 := by decide
  exact hall crc h

section Encoded

variable (P : Platform) {ctx : RastaHashingContext} {crc : CrcOptions} {packet : RastaPacket}

theorem sendable_of_wellFormed (hcrc : crc ∈ crcOptionSets) (h : WellFormed ctx packet)
    (htotal : 8 + packet.length.toNat + crc.crcLen ≤ 65535) : Sendable ctx crc packet where
  header := by
    unfold WellFormed at h
    omega
  total := by omega
  crcLen := crcLen_le_of_mem hcrc

/-- Decoding with the sender's own context finds the safety code correct. -/
theorem recoded_safetyCode :
    recoded P packet ctx (safetyCode P ctx packet) = reencoded P packet ctx := by
  simp only [recoded, reencoded, safetyCode, decide_true]

theorem reencoded_reencoded : reencoded P (reencoded P packet ctx) ctx = reencoded P packet ctx := by
  have htwice : reencoded P (recoded P packet ctx (safetyCode P ctx packet)) ctx =
      reencoded P packet ctx := reencoded_recoded P rfl _
  rwa [recoded_safetyCode P] at htwice

/-- A packet whose length field agrees with its data survives the wire: all fields of both
headers and the data come back, both checksums are found correct, and encoding and decoding the
inner packet once more changes nothing. -/
theorem wire_round_trip (hcrc : crc ∈ crcOptionSets) (h : WellFormed ctx packet)
    (htotal : 8 + packet.length.toNat + crc.crcLen ≤ 65535) (sn : UInt32)
    (outer : RastaRedundancyPacket) (inner : RastaPacket) :
    ∃ decoded : RastaRedundancyPacket,
      bytesToRastaRedundancyPacket P .none
          (rastaRedundancyPacketToBytes P .none (createRedundancyPacket sn packet crc) ctx).1
          (rastaRedundancyPacketToBytes P .none (createRedundancyPacket sn packet crc)
            ctx).1.length crc ctx outer = (decoded, .none) ∧
        decoded = { createRedundancyPacket sn packet crc with data := decoded.data } ∧
        decoded.data =
          { packet with checksum := decoded.data.checksum, checksumCorrect := true } ∧
        decoded.checksumCorrect = true ∧
        bytesToRastaPacket P .none (rastaModuleToBytes P .none decoded.data ctx).1 ctx inner =
          (decoded.data, .none) := by
  have hsendable := sendable_of_wellFormed hcrc h htotal
  have hdecoded := bytesToRastaRedundancyPacket_pduBytes P hsendable sn [] rfl .none outer
  rw [List.append_nil] at hdecoded
  have hdata : (arrivedPdu P ctx crc sn packet (safetyCode P ctx packet)).data =
      reencoded P packet ctx := recoded_safetyCode P
  refine ⟨_, hdecoded, rfl, ?_, rfl, ?_⟩
  · rw [hdata, reencoded_of_wellFormed P h]
  · have hlength : 28 + ctx.checksumLen ≤ (reencoded P packet ctx).length.toNat :=
      hsendable.header
    rw [hdata, bytesToRastaPacket_toBytes P hlength, reencoded_reencoded]

end Encoded

/-- A heartbeat of the example configuration. -/
def exampleInner : RastaPacket :=
  { zeroPacket with length := 36, type := .hb, senderId := 0x62, receiverId := 0x61 }

def exampleContext : RastaHashingContext where
  hashLength := .b8
  algorithm := .md4
  key := [1, 2, 3, 4]

theorem wire_round_trip_heartbeat :
    ∃ decoded : RastaRedundancyPacket,
      bytesToRastaRedundancyPacket referencePlatform .none
          (rastaRedundancyPacketToBytes referencePlatform .none
            (createRedundancyPacket 7 exampleInner crcInitOptB) exampleContext).1
          (rastaRedundancyPacketToBytes referencePlatform .none
            (createRedundancyPacket 7 exampleInner crcInitOptB) exampleContext).1.length
          crcInitOptB exampleContext zeroRedundancyPacket = (decoded, .none) ∧
        decoded.sequenceNumber = 7 ∧ decoded.data.checksumCorrect = true := by
  obtain ⟨decoded, hwire, houter, hinner, -⟩ := wire_round_trip referencePlatform
    (by simp [crcOptionSets] : crcInitOptB ∈ crcOptionSets)
    (by unfold WellFormed; decide : WellFormed exampleContext exampleInner) (by decide) 7
    zeroRedundancyPacket zeroPacket
  refine ⟨decoded, hwire, ?_, ?_⟩
  · rw [houter]
    rfl
  · rw [hinner]

section Accepted

variable (P : Platform) {ctx : RastaHashingContext} {crc : CrcOptions}

theorem hostShortToLe_leShortToHost (mem : Bytes) (offset : ℕ) :
    hostShortToLe (leShortToHost P mem offset) = readBytes P mem offset 2 :=
  le16_ofLe16 _ _

theorem hostLongToLe_leLongToHost (mem : Bytes) (offset : ℕ) :
    hostLongToLe (leLongToHost P mem offset) = readBytes P mem offset 4 :=
  le32_ofLe32 _ _ _ _

/-- The header fields of a decoded packet encode to the bytes they were read from. -/
theorem packFields_decoded {bytes : Bytes} (hlen : 28 + ctx.checksumLen ≤ bytes.length)
    (lasterror : RastaErrorType) (result : RastaPacket) :
    packFields (bytesToRastaPacket P lasterror bytes ctx result).1 = readBytes P bytes 0 28 := by
  have hsplit : readBytes P bytes 0 28 =
      readBytes P bytes 0 2 ++ readBytes P bytes 2 2 ++ readBytes P bytes 4 4 ++
        readBytes P bytes 8 4 ++ readBytes P bytes 12 4 ++ readBytes P bytes 16 4 ++
        readBytes P bytes 20 4 ++ readBytes P bytes 24 4 := rfl
  rw [hsplit, bytesToRastaPacket, if_neg (Nat.not_lt.mpr hlen)]
  simp only [packFields, RastaConnType.code_ofCode, hostShortToLe_leShortToHost,
    hostLongToLe_leLongToHost]

/-- A packet with a correct safety code whose length field is its length is the encoding of what
it decodes to. -/
theorem rastaModuleToBytes_decoded {bytes : Bytes} (hlen : 28 + ctx.checksumLen ≤ bytes.length)
    (hfield : (leShortToHost P bytes 0).toNat = bytes.length) (lasterror : RastaErrorType)
    (result : RastaPacket)
    (hcorrect : (bytesToRastaPacket P lasterror bytes ctx result).1.checksumCorrect = true) :
    (rastaModuleToBytes P .none (bytesToRastaPacket P lasterror bytes ctx result).1 ctx).1 =
      bytes := by
  have hfields := packFields_decoded P hlen lasterror result
  have hnotRunt : ¬ bytes.length < 28 + ctx.checksumLen := Nat.not_lt.mpr hlen
  have hlength : (bytesToRastaPacket P lasterror bytes ctx result).1.length =
      leShortToHost P bytes 0 := by
    rw [bytesToRastaPacket, if_neg hnotRunt]
  have hdata : (bytesToRastaPacket P lasterror bytes ctx result).1.data =
      readBytes P bytes 28 (bytes.length - 28 - ctx.checksumLen) := by
    simp only [bytesToRastaPacket, if_neg hnotRunt, hfield]
  have hhashed : hashedLength (leShortToHost P bytes 0) ctx = bytes.length - ctx.checksumLen := by
    have hlt : (leShortToHost P bytes 0).toNat < 2 ^ 16 := (leShortToHost P bytes 0).toNat_lt
    unfold hashedLength
    omega
  have hcode : (P.calculateHash ctx (readBytes P bytes 0 (bytes.length - ctx.checksumLen))).take
      ctx.checksumLen =
      readBytes P bytes (28 + (bytes.length - 28 - ctx.checksumLen)) ctx.checksumLen := by
    rw [bytesToRastaPacket, if_neg hnotRunt] at hcorrect
    simpa [hfield, hhashed] using hcorrect
  generalize bytesToRastaPacket P lasterror bytes ctx result = decoded at *
  have hdataLength : getDataLength decoded.1 ctx = bytes.length - 28 - ctx.checksumLen := by
    rw [getDataLength, hlength, hfield]
  have hbody : bytesToHash P decoded.1 ctx =
      readBytes P bytes 0 (bytes.length - ctx.checksumLen) := by
    have hall := readBytes_all P decoded.1.data
    rw [hdata, length_readBytes] at hall
    have hsum : bytes.length - ctx.checksumLen = 28 + (bytes.length - 28 - ctx.checksumLen) := by
      omega
    rw [bytesToHash, hfields, hdataLength, hdata, hall, hsum, readBytes_add]
  have hfits : 28 + ctx.checksumLen ≤ decoded.1.length.toNat := by
    rw [hlength, hfield]
    exact hlen
  have hend : bytes.length - ctx.checksumLen = 28 + (bytes.length - 28 - ctx.checksumLen) := by
    omega
  have hwhole : bytes.length = bytes.length - ctx.checksumLen + ctx.checksumLen := by omega
  rw [rastaModuleToBytes_of_fits P hfits, hbody]
  simp only
  rw [hcode]
  calc readBytes P bytes 0 (bytes.length - ctx.checksumLen) ++
        readBytes P bytes (28 + (bytes.length - 28 - ctx.checksumLen)) ctx.checksumLen
      = readBytes P bytes 0 (bytes.length - ctx.checksumLen + ctx.checksumLen) := by
        rw [readBytes_add, ← hend, Nat.zero_add]
    _ = bytes := by rw [← hwhole, readBytes_all]

/-- The outer and the inner length field hold the numbers of bytes they stand for. -/
def LengthsConsistent (crc : CrcOptions) (data : Bytes) : Prop :=
  (leShortToHost P data 0).toNat = data.length ∧
    8 + (leShortToHost P data 8).toNat + crc.crcLen = data.length

instance (crc : CrcOptions) (data : Bytes) : Decidable (LengthsConsistent P crc data) :=
  inferInstanceAs (Decidable (_ ∧ _))

/-- What the decoder makes of a byte array. -/
def decoded (ctx : RastaHashingContext) (crc : CrcOptions) (data : Bytes)
    (result : RastaRedundancyPacket) : RastaRedundancyPacket :=
  (bytesToRastaRedundancyPacket P .none data data.length crc ctx result).1

theorem decoded_length (data : Bytes) (result : RastaRedundancyPacket) :
    (decoded P ctx crc data result).length = leShortToHost P data 0 := rfl

theorem decoded_data (data : Bytes) (result : RastaRedundancyPacket) :
    (decoded P ctx crc data result).data =
      (bytesToRastaPacket P .none (readBytes P data 8 (innerLength data.length crc)) ctx
        result.data).1 := by
  unfold decoded bytesToRastaRedundancyPacket
  exact redundancyPacketOf_data P _ _ _ _

theorem decoded_checksumType (data : Bytes) (result : RastaRedundancyPacket) :
    (decoded P ctx crc data result).checksumType = crc := rfl

theorem redundancyHeader_decoded (data : Bytes) (result : RastaRedundancyPacket) :
    redundancyHeader (decoded P ctx crc data result) = readBytes P data 0 8 := by
  have hsplit : readBytes P data 0 8 =
      readBytes P data 0 2 ++ readBytes P data 2 2 ++ readBytes P data 4 4 := rfl
  rw [hsplit, ← hostShortToLe_leShortToHost, ← hostShortToLe_leShortToHost,
    ← hostLongToLe_leLongToHost]
  rfl

/-- With an outer checksum found correct, the bytes behind the inner packet are that checksum. -/
theorem crcBytes_decoded {data : Bytes} {inner : ℕ} (hinner : 8 + inner + crc.crcLen = data.length)
    (hlt : data.length < 2 ^ 16) (hcrc : crc.crcLen ≤ 4) (result : RastaRedundancyPacket)
    (houter : (decoded P ctx crc data result).checksumCorrect = true) :
    crcBytes crc (readBytes P data 0 (8 + inner)) = readBytes P data (8 + inner) crc.crcLen := by
  have hwithout : lengthWithoutChecksum data.length crc = 8 + inner := by
    unfold lengthWithoutChecksum
    omega
  have hoffset : (8 + innerLength data.length crc) % 2 ^ 32 = 8 + inner := by
    unfold innerLength
    omega
  unfold decoded bytesToRastaRedundancyPacket redundancyPacketOf at houter
  simp only [hwithout, hoffset] at houter
  by_cases hnone : data.length = 8 + inner
  · have hzero : crc.crcLen = 0 := by omega
    simp [crcBytes, hzero, readBytes]
  · rw [if_neg hnone] at houter
    exact of_decide_eq_true houter

/-- A byte array both of whose checksums are found correct is the encoding of what it decodes
to, with consistent lengths, exactly when its two length fields are right. -/
theorem accepted_iff_encoded (hcrc : crc ∈ crcOptionSets) (data : Bytes)
    (hlen : 8 + 28 + ctx.checksumLen + crc.crcLen ≤ data.length)
    (result : RastaRedundancyPacket)
    (houter : (decoded P ctx crc data result).checksumCorrect = true)
    (hinner : (decoded P ctx crc data result).data.checksumCorrect = true) :
    (rastaRedundancyPacketToBytes P .none (decoded P ctx crc data result) ctx).1 = data ∧
        (decoded P ctx crc data result).length.toNat = data.length ∧
        8 + (decoded P ctx crc data result).data.length.toNat + crc.crcLen = data.length ↔
      LengthsConsistent P crc data := by
  have hcrcLen := crcLen_le_of_mem hcrc
  have hinnerField : ∀ n, leShortToHost P (readBytes P data 8 (n + 2)) 0 =
      leShortToHost P data 8 := by
    intro n
    simp [leShortToHost, byteAt, readBytes]
  have hdataLength : (decoded P ctx crc data result).data.length = leShortToHost P data 8 := by
    rw [decoded_data] at hinner ⊢
    by_cases hrunt : (readBytes P data 8 (innerLength data.length crc)).length <
        28 + ctx.checksumLen
    · rw [bytesToRastaPacket, if_pos hrunt] at hinner
      cases hinner
    · rw [bytesToRastaPacket, if_neg hrunt]
      rw [length_readBytes] at hrunt
      obtain ⟨m, hm⟩ : ∃ m, innerLength data.length crc = m + 2 :=
        ⟨innerLength data.length crc - 2, by omega⟩
      rw [hm]
      exact hinnerField m
  constructor
  · rintro ⟨-, hfield, hinnerLength⟩
    rw [hdataLength] at hinnerLength
    exact ⟨hfield, hinnerLength⟩
  · rintro ⟨hfield, hinnerLength⟩
    have hlt : data.length < 2 ^ 16 := by
      rw [← hfield]
      exact (leShortToHost P data 0).toNat_lt
    have hlength : (decoded P ctx crc data result).length.toNat =
        8 + ((decoded P ctx crc data result).data.length.toNat +
          (decoded P ctx crc data result).checksumType.crcLen) := by
      rw [decoded_length, decoded_checksumType, hdataLength]
      omega
    generalize hn : (leShortToHost P data 8).toNat = n at hinnerLength
    have hinnerLen : innerLength data.length crc = n := by
      unfold innerLength
      omega
    have hmodule : (rastaModuleToBytes P .none (decoded P ctx crc data result).data ctx).1 =
        readBytes P data 8 n := by
      rw [decoded_data, hinnerLen] at hinner ⊢
      obtain ⟨m, rfl⟩ : ∃ m, n = m + 2 := ⟨n - 2, by omega⟩
      refine rastaModuleToBytes_decoded P ?_ ?_ .none result.data hinner
      · rw [length_readBytes]
        omega
      · rw [hinnerField, hn, length_readBytes]
    refine ⟨?_, hfield, by rw [hdataLength, hn]; exact hinnerLength⟩
    have hbody : readBytes P data 0 8 ++ readBytes P data 8 n = readBytes P data 0 (8 + n) := by
      rw [readBytes_add, Nat.zero_add]
    rw [rastaRedundancyPacketToBytes_blocks P hlength hcrcLen, redundancyHeader_decoded, hmodule,
      decoded_checksumType, ← List.append_assoc, hbody,
      crcBytes_decoded P hinnerLength hlt hcrcLen result houter]
    have hwhole := readBytes_all P data
    rw [← hinnerLength, readBytes_add, Nat.zero_add] at hwhole
    exact hwhole

end Accepted

/-- A PDU around the heartbeat with four more bytes behind the heartbeat, which its outer length
field counts and its inner length field does not. -/
def examplePadded : Bytes :=
  redundancyHeader { zeroRedundancyPacket with length := 48, sequenceNumber := 7 } ++
    (rastaModuleToBytes referencePlatform .none exampleInner exampleContext).1 ++ [1, 2, 3, 4]

theorem accepted_iff_encoded_heartbeat :
    (rastaRedundancyPacketToBytes referencePlatform .none
        (decoded referencePlatform exampleContext crcInitOptB
          (pduBytes referencePlatform exampleContext crcInitOptB 7 exampleInner)
          zeroRedundancyPacket) exampleContext).1 =
      pduBytes referencePlatform exampleContext crcInitOptB 7 exampleInner :=
  ((accepted_iff_encoded referencePlatform (by simp [crcOptionSets])
    (pduBytes referencePlatform exampleContext crcInitOptB 7 exampleInner) (by decide +kernel)
    zeroRedundancyPacket (by decide +kernel) (by decide +kernel)).mpr (by decide +kernel)).1

/-- Both checksums of the padded PDU are found correct, but it is not what its content encodes
to. -/
theorem padded_pdu_accepted :
    8 + 28 + exampleContext.checksumLen + crcInitOptA.crcLen ≤ examplePadded.length ∧
      (decoded referencePlatform exampleContext crcInitOptA examplePadded
        zeroRedundancyPacket).checksumCorrect = true ∧
      (decoded referencePlatform exampleContext crcInitOptA examplePadded
        zeroRedundancyPacket).data.checksumCorrect = true ∧
      (rastaRedundancyPacketToBytes referencePlatform .none
        (decoded referencePlatform exampleContext crcInitOptA examplePadded
          zeroRedundancyPacket) exampleContext).1 ≠ examplePadded := by
  decide +kernel

end LibRasta.Redundancy
