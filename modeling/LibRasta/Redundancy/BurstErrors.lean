/-
Module: LibRasta/Redundancy/BurstErrors.lean
source: src/c/util/rastacrc.c, src/c/util/rastamodule.c
digest: A burst error no longer than the checksum, before the checksum field or inside it, is always reported by the decoder.
-/

import LibRasta.Redundancy.RoundTrip
import LibRasta.Util.CrcSerial

set_option autoImplicit false
set_option relaxedAutoImplicit false

namespace LibRasta.Redundancy

open LibRasta.Lib
open LibRasta.Lib.Crc
open LibRasta.Util
open LibRasta.Factory

/-- The received bytes differ from the sent ones in a window that is no longer than the checksum
and lies before the checksum field or inside it. -/
structure BurstError (crc : CrcOptions) (sent received : Bytes) : Prop where
  length : received.length = sent.length
  differs : received ≠ sent
  window : ∃ start size, size ≤ crc.crcLen ∧
    (start + size ≤ sent.length - crc.crcLen ∨ sent.length - crc.crcLen ≤ start) ∧
    ∀ i, i < start ∨ start + size ≤ i → received[i]? = sent[i]?

section Bits

theorem byteBits_injective (refin : Bool) : Function.Injective (byteBits refin) := by
  intro a b hab
  rw [← UInt8.toBitVec_inj]
  apply BitVec.eq_of_getLsbD_eq
  intro t ht
  have hbit : (byteBits refin a).getD (if refin then t else 7 - t) false =
      (byteBits refin b).getD (if refin then t else 7 - t) false := by rw [hab]
  rw [getD_byteBits, getD_byteBits] at hbit
  cases refin with
  | false =>
    have hin : 7 - t < 8 := by omega
    have hback : 7 - (7 - t) = t := by omega
    simpa [hin, hback] using hbit
  | true => simpa [ht] using hbit

theorem length_flatMap_byteBits (refin : Bool) (data : Bytes) :
    (data.flatMap (byteBits refin)).length = 8 * data.length := by
  induction data with
  | nil => rfl
  | cons byte rest ih =>
    rw [List.flatMap_cons, List.length_append, ih, length_byteBits, List.length_cons]
    omega

theorem flatMap_byteBits_injective (refin : Bool) :
    Function.Injective fun data : Bytes => data.flatMap (byteBits refin) := by
  intro a b hab
  induction a generalizing b with
  | nil =>
    have hlen := congrArg List.length hab
    simp only [length_flatMap_byteBits] at hlen
    cases b with
    | nil => rfl
    | cons byte rest => simp at hlen
  | cons byte rest ih =>
    cases b with
    | nil =>
      have hlen := congrArg List.length hab
      simp only [length_flatMap_byteBits] at hlen
      simp at hlen
    | cons other others =>
      simp only [List.flatMap_cons] at hab
      obtain ⟨hfirst, hrest⟩ := List.append_inj hab rfl
      rw [byteBits_injective refin hfirst, ih hrest]

end Bits

section Register

variable {crc : CrcOptions}

theorem low_polynom_odd (h : crc ∈ checkingOptionSets) :
    (low crc crc.polynom).getLsbD 0 = true := by
  have hall : ∀ options ∈ checkingOptionSets, (low options options.polynom).getLsbD 0 = true := by
    decide +kernel
  exact hall crc h

theorem crcLen_of_mem (h : crc ∈ checkingOptionSets) :
    crc.crcLen = 2 ∧ crc.width.toNat = 16 ∨ crc.crcLen = 4 ∧ crc.width.toNat = 32 := by
  have hall : ∀ options ∈ checkingOptionSets,
      options.crcLen = 2 ∧ options.width.toNat = 16 ∨
        options.crcLen = 4 ∧ options.width.toNat = 32 := by
    decide +kernel
  exact hall crc h

theorem reverse_injective {w : ℕ} : Function.Injective (BitVec.reverse : BitVec w → BitVec w) := by
  intro x y hxy
  have htwice := congrArg BitVec.reverse hxy
  rwa [BitVec.reverse_reverse_eq, BitVec.reverse_reverse_eq] at htwice

/-- Equal bit serial values come from equal registers. -/
theorem register_eq_of_bitSerialCrc {a b : Bytes} (h : bitSerialCrc crc a = bitSerialCrc crc b) :
    (a.flatMap (byteBits crc.refin)).foldl (feed (low crc crc.polynom))
        (low crc crc.initialOptimized) =
      (b.flatMap (byteBits crc.refin)).foldl (feed (low crc crc.polynom))
        (low crc crc.initialOptimized) := by
  unfold bitSerialCrc at h
  have hplain := xor_right_injective _ h
  cases hrefout : crc.refout with
  | false =>
    rw [hrefout] at hplain
    exact hplain
  | true =>
    rw [hrefout] at hplain
    exact reverse_injective hplain

/-- Data that differ in a window no longer than the register have different CRCs. -/
theorem bitSerialCrc_window (h : crc ∈ checkingOptionSets) {front u v back : Bytes}
    (hlen : u.length = v.length) (hwindow : u.length ≤ crc.crcLen)
    (heq : bitSerialCrc crc (front ++ (u ++ back)) = bitSerialCrc crc (front ++ (v ++ back))) :
    u = v := by
  have hwidth := crcLen_of_mem h
  have hregister := register_eq_of_bitSerialCrc heq
  simp only [List.flatMap_append] at hregister
  apply flatMap_byteBits_injective crc.refin
  refine burst_detected (by omega) (low_polynom_odd h) ?_ ?_ _ hregister
  · rw [length_flatMap_byteBits, length_flatMap_byteBits, hlen]
  · rw [length_flatMap_byteBits]
    omega

end Register

section Field

variable {crc : CrcOptions}

/-- The bytes of the checksum field determine as much of the word as they can hold. -/
theorem hostLongToLe_take_two {x y : UInt32} (hx : x.toNat < 2 ^ 16) (hy : y.toNat < 2 ^ 16)
    (h : (hostLongToLe x).take 2 = (hostLongToLe y).take 2) : x = y := by
  apply UInt32.toNat_inj.mp
  have hbytes : [UInt8.ofNat x.toNat, UInt8.ofNat (x.toNat / 2 ^ 8)] =
      [UInt8.ofNat y.toNat, UInt8.ofNat (y.toNat / 2 ^ 8)] := h
  simp only [List.cons.injEq, and_true] at hbytes
  have hfirst := congrArg UInt8.toNat hbytes.1
  have hsecond := congrArg UInt8.toNat hbytes.2
  simp only [UInt8.toNat_ofNat'] at hfirst hsecond
  omega

theorem hostLongToLe_injective : Function.Injective hostLongToLe := by
  intro x y hxy
  have hbytes : [UInt8.ofNat x.toNat, UInt8.ofNat (x.toNat / 2 ^ 8),
      UInt8.ofNat (x.toNat / 2 ^ 16), UInt8.ofNat (x.toNat / 2 ^ 24)] =
      [UInt8.ofNat y.toNat, UInt8.ofNat (y.toNat / 2 ^ 8),
        UInt8.ofNat (y.toNat / 2 ^ 16), UInt8.ofNat (y.toNat / 2 ^ 24)] := hxy
  simp only [List.cons.injEq, and_true] at hbytes
  rw [← ofLe32_le32 x, ← ofLe32_le32 y, hbytes.1, hbytes.2.1, hbytes.2.2.1, hbytes.2.2.2]

theorem crcCalculate_toUInt32 (h : crc ∈ checkingOptionSets) (data : Bytes) :
    (crcCalculate crc data).toUInt32.toNat = (bitSerialCrc crc data).toNat := by
  have hwidth := crcLen_of_mem h
  have hlt := (bitSerialCrc crc data).isLt
  have hpow : 2 ^ crc.width.toNat ≤ 2 ^ 32 := Nat.pow_le_pow_right (by omega) (by omega)
  rw [crcCalculate_of_mem h, UInt64.toNat_toUInt32, UInt64.toNat_ofBitVec, BitVec.toNat_setWidth]
  omega

/-- The checksum field shows the whole CRC. -/
theorem bitSerialCrc_eq_of_crcBytes (h : crc ∈ checkingOptionSets) {a b : Bytes}
    (heq : crcBytes crc a = crcBytes crc b) : bitSerialCrc crc a = bitSerialCrc crc b := by
  have hword : (crcCalculate crc a).toUInt32 = (crcCalculate crc b).toUInt32 := by
    rcases crcLen_of_mem h with ⟨hlen, hwidth⟩ | ⟨hlen, hwidth⟩
    · have hbound : ∀ data, (crcCalculate crc data).toUInt32.toNat < 2 ^ 16 := by
        intro data
        rw [crcCalculate_toUInt32 h, ← hwidth]
        exact (bitSerialCrc crc data).isLt
      rw [crcBytes, crcBytes, hlen] at heq
      exact hostLongToLe_take_two (hbound a) (hbound b) heq
    · rw [crcBytes, crcBytes, hlen] at heq
      exact hostLongToLe_injective heq
  apply BitVec.eq_of_toNat_eq
  rw [← crcCalculate_toUInt32 h, ← crcCalculate_toUInt32 h, hword]

end Field

section Windows

variable {a b : Bytes} {start size : ℕ}

theorem take_eq_of_outside {n : ℕ} (h : ∀ i, i < n → a[i]? = b[i]?) : a.take n = b.take n := by
  apply List.ext_getElem?
  intro i
  by_cases hi : i < n
  · rw [List.getElem?_take_of_lt hi, List.getElem?_take_of_lt hi, h i hi]
  · rw [List.getElem?_take_eq_none (by omega), List.getElem?_take_eq_none (by omega)]

theorem drop_eq_of_outside {n : ℕ} (h : ∀ i, n ≤ i → a[i]? = b[i]?) : a.drop n = b.drop n := by
  apply List.ext_getElem?
  intro i
  rw [List.getElem?_drop, List.getElem?_drop, h (n + i) (by omega)]

theorem window_split (data : Bytes) (start size : ℕ) :
    data = data.take start ++ ((data.drop start).take size ++ data.drop (start + size)) := by
  rw [← List.drop_drop, List.take_append_drop, List.take_append_drop]

end Windows

section Detection

variable {crc : CrcOptions}

/-- Data with one checksum do not differ by a burst. -/
theorem eq_of_crcBytes_window (h : crc ∈ checkingOptionSets) {a b : Bytes} {start size : ℕ}
    (hlen : a.length = b.length) (hsize : size ≤ crc.crcLen)
    (hsame : ∀ i, i < start ∨ start + size ≤ i → a[i]? = b[i]?)
    (heq : crcBytes crc a = crcBytes crc b) : a = b := by
  have hfront : a.take start = b.take start :=
    take_eq_of_outside fun i hi => hsame i (Or.inl hi)
  have hback : a.drop (start + size) = b.drop (start + size) :=
    drop_eq_of_outside fun i hi => hsame i (Or.inr hi)
  have hcrc := bitSerialCrc_eq_of_crcBytes h heq
  rw [window_split a start size, window_split b start size, hfront, hback] at hcrc
  have hmiddle : (a.drop start).take size = (b.drop start).take size := by
    apply bitSerialCrc_window h ?_ ?_ hcrc
    · simp only [List.length_take, List.length_drop, hlen]
    · rw [List.length_take]
      omega
  rw [window_split a start size, window_split b start size, hfront, hmiddle, hback]

/-- A byte string with a correct checksum is no burst error of another one. -/
theorem eq_of_both_checked (h : crc ∈ checkingOptionSets) {sent received : Bytes} {n : ℕ}
    (hsent : sent.length = n + crc.crcLen) (hlen : received.length = sent.length)
    (hcodeSent : crcBytes crc (sent.take n) = sent.drop n)
    (hcodeReceived : crcBytes crc (received.take n) = received.drop n)
    {start size : ℕ} (hsize : size ≤ crc.crcLen) (hwindow : start + size ≤ n ∨ n ≤ start)
    (hsame : ∀ i, i < start ∨ start + size ≤ i → received[i]? = sent[i]?) : received = sent := by
  rw [← List.take_append_drop n received, ← List.take_append_drop n sent]
  rcases hwindow with hbefore | hinside
  · have hfield : received.drop n = sent.drop n :=
      drop_eq_of_outside fun i hi => hsame i (by omega)
    have hbody : received.take n = sent.take n := by
      apply eq_of_crcBytes_window h (by simp only [List.length_take, hlen]) hsize
      · intro i hi
        by_cases hin : i < n
        · rw [List.getElem?_take_of_lt hin, List.getElem?_take_of_lt hin, hsame i hi]
        · rw [List.getElem?_take_eq_none (by omega), List.getElem?_take_eq_none (by omega)]
      · rw [hcodeReceived, hcodeSent, hfield]
    rw [hbody, hfield]
  · have hbody : received.take n = sent.take n :=
      take_eq_of_outside fun i hi => hsame i (by omega)
    rw [← hcodeReceived, ← hcodeSent, hbody]

/-- An encoded PDU ends with the checksum of what is before it. -/
theorem encoded_checked (P : Platform) {ctx : RastaHashingContext} {lasterror : RastaErrorType}
    {packet : RastaRedundancyPacket} {n : ℕ} (hn : n = 8 + packet.data.length.toNat)
    (hlength : packet.length.toNat = n + packet.checksumType.crcLen)
    (hcrcLen : packet.checksumType.crcLen ≤ 4) :
    (rastaRedundancyPacketToBytes P lasterror packet ctx).1.length =
        n + packet.checksumType.crcLen ∧
      crcBytes packet.checksumType
          ((rastaRedundancyPacketToBytes P lasterror packet ctx).1.take n) =
        (rastaRedundancyPacketToBytes P lasterror packet ctx).1.drop n := by
  rw [rastaRedundancyPacketToBytes_blocks P (by omega) hcrcLen, ← List.append_assoc]
  generalize hbody : redundancyHeader packet ++
    (rastaModuleToBytes P lasterror packet.data ctx).1 = body
  have hlen : body.length = n := by
    rw [← hbody, List.length_append, length_redundancyHeader, length_rastaModuleToBytes, hn]
  constructor
  · rw [List.length_append, length_crcBytes hcrcLen, hlen]
  · rw [← hlen, List.take_left, List.drop_left]

-- the checksum is compared whatever became of the inner packet
theorem redundancyPacketOf_checksumCorrect (P : Platform) (data : Bytes) (length : ℕ)
    (crc : CrcOptions) (inner other : RastaPacket) :
    (redundancyPacketOf P data length crc inner).checksumCorrect =
      (redundancyPacketOf P data length crc other).checksumCorrect := rfl

/-- A byte string whose checksum is found correct ends with the checksum of what is before it. -/
theorem decoded_checked (P : Platform) {ctx : RastaHashingContext} {lasterror : RastaErrorType}
    {data : Bytes} {inner : ℕ} (hlength : data.length = 8 + inner + crc.crcLen)
    (hlt : data.length < 2 ^ 16) (hcrcLen : crc.crcLen ≤ 4) (result : RastaRedundancyPacket)
    (hcorrect : (bytesToRastaRedundancyPacket P lasterror data data.length crc ctx
      result).1.checksumCorrect = true) :
    crcBytes crc (data.take (8 + inner)) = data.drop (8 + inner) := by
  have houter : (decoded P ctx crc data result).checksumCorrect = true := by
    unfold bytesToRastaRedundancyPacket at hcorrect
    unfold decoded bytesToRastaRedundancyPacket
    rw [redundancyPacketOf_checksumCorrect] at hcorrect
    exact hcorrect
  have hcode := crcBytes_decoded P hlength.symm hlt hcrcLen result houter
  have hfield : (data.drop (8 + inner)).length = crc.crcLen := by
    rw [List.length_drop]
    omega
  rwa [readBytes_eq_take_drop P _ _ _ (by omega), readBytes_eq_take_drop P _ _ _ (by omega),
    List.drop_zero, ← hfield, List.take_length] at hcode

/-- Every burst error in an encoded PDU that is no longer than its checksum, and does not cross
the border of the checksum field, is reported by the decoder. -/
theorem burstError_reported (P : Platform) (ctx ctx' : RastaHashingContext)
    (lasterror lasterror' : RastaErrorType) (packet : RastaRedundancyPacket)
    (hcrc : packet.checksumType ∈ checkingOptionSets)
    (hlength : packet.length.toNat = 8 + packet.data.length.toNat + packet.checksumType.crcLen)
    (received : Bytes)
    (hburst : BurstError packet.checksumType
      (rastaRedundancyPacketToBytes P lasterror packet ctx).1 received)
    (result : RastaRedundancyPacket) :
    (bytesToRastaRedundancyPacket P lasterror' received received.length packet.checksumType ctx'
      result).1.checksumCorrect = false := by
  obtain ⟨hlen, hdiffers, start, size, hsize, hwindow, hsame⟩ := hburst
  have htotal := packet.length.toNat_lt
  have hcrcLen : packet.checksumType.crcLen ≤ 4 := by
    rcases crcLen_of_mem hcrc with ⟨htwo, -⟩ | ⟨hfour, -⟩ <;> omega
  obtain ⟨hsent, hcodeSent⟩ := encoded_checked P rfl hlength hcrcLen
  rw [hsent, Nat.add_sub_cancel] at hwindow
  rw [← Bool.not_eq_true]
  intro hcorrect
  have hcodeReceived := decoded_checked P (hlen.trans hsent) (by omega) hcrcLen result hcorrect
  exact hdiffers (eq_of_both_checked hcrc hsent hlen hcodeSent hcodeReceived hsize hwindow hsame)

/-- One changed byte is a burst. -/
theorem burstError_set {sent : Bytes} {i : ℕ} {byte : UInt8} (hcrc : 0 < crc.crcLen)
    (hbefore : i < sent.length - crc.crcLen) (hbyte : sent[i]? ≠ some byte) :
    BurstError crc sent (sent.set i byte) where
  length := List.length_set
  differs := by
    intro hsame
    have hset : (sent.set i byte)[i]? = some byte := List.getElem?_set_self (by omega)
    rw [hsame] at hset
    exact hbyte hset
  window := by
    refine ⟨i, 1, hcrc, Or.inl hbefore, ?_⟩
    intro j hj
    exact List.getElem?_set_ne (by omega)

/-- The encoded heartbeat of the example configuration with its length field one off. -/
theorem burstError_reported_heartbeat :
    (bytesToRastaRedundancyPacket referencePlatform .none
      ((rastaRedundancyPacketToBytes referencePlatform .none
        (createRedundancyPacket 7 exampleInner crcInitOptB) exampleContext).1.set 0 49)
      48 crcInitOptB exampleContext zeroRedundancyPacket).1.checksumCorrect = false := by
  have hsent : (rastaRedundancyPacketToBytes referencePlatform .none
      (createRedundancyPacket 7 exampleInner crcInitOptB) exampleContext).1.length = 48 := by
    decide +kernel
  have hfirst : (rastaRedundancyPacketToBytes referencePlatform .none
      (createRedundancyPacket 7 exampleInner crcInitOptB) exampleContext).1[0]? = some 48 := by
    decide +kernel
  have hburst : BurstError crcInitOptB (rastaRedundancyPacketToBytes referencePlatform .none
      (createRedundancyPacket 7 exampleInner crcInitOptB) exampleContext).1
      ((rastaRedundancyPacketToBytes referencePlatform .none
        (createRedundancyPacket 7 exampleInner crcInitOptB) exampleContext).1.set 0 49) := by
    apply burstError_set (by decide)
    · rw [hsent]
      decide
    · rw [hfirst]
      decide
  have hreported := burstError_reported referencePlatform exampleContext exampleContext .none .none
    (createRedundancyPacket 7 exampleInner crcInitOptB) (List.mem_cons_self) (by decide) _ hburst
    zeroRedundancyPacket
  rwa [List.length_set, hsent] at hreported

end Detection

end LibRasta.Redundancy
