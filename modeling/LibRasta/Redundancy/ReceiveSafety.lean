/-
Module: LibRasta/Redundancy/ReceiveSafety.lean
source: src/c/redundancy/rasta_red_multiplexer.c, src/c/util/rastamodule.c
digest: The memory the receive path reads, the fields it relies on and the lengths it subtracts, for arbitrary bytes, and exactly which reads it processes safely.
-/

import LibRasta.Redundancy.Progress
import LibRasta.Redundancy.RoundTrip

set_option autoImplicit false
set_option relaxedAutoImplicit false

namespace LibRasta.Redundancy

open LibRasta.Util
open LibRasta.Retransmission

section Accesses

/-- A block of bytes that is read. -/
structure Access where
  offset : ℕ
  count : ℕ
deriving DecidableEq

/-- The block lies in an array of `n` bytes; an empty block reads nothing. -/
def Access.Inside (access : Access) (n : ℕ) : Prop :=
  access.count = 0 ∨ access.offset + access.count ≤ n

instance (access : Access) (n : ℕ) : Decidable (access.Inside n) :=
  inferInstanceAs (Decidable (_ ∨ _))

/-- What `receive_packet` and `bytesToRastaRedundancyPacket` read of the buffer for a PDU that
claims `size` bytes, from its first byte on. -/
def outerReads (size : ℕ) (crc : CrcOptions) : List Access :=
  [⟨0, 2⟩, ⟨2, 2⟩, ⟨4, 4⟩, ⟨8, innerLength size crc⟩, ⟨0, lengthWithoutChecksum size crc⟩] ++
    if size = lengthWithoutChecksum size crc then []
    else [⟨(8 + innerLength size crc) % 2 ^ 32, crc.crcLen⟩]

/-- What `bytesToRastaPacket` reads of the inner packet after the test for runts, where `length`
is the length field of that packet. -/
def innerReads (length : UInt16) (ctx : RastaHashingContext) : List Access :=
  [⟨0, 2⟩, ⟨2, 2⟩, ⟨4, 4⟩, ⟨8, 4⟩, ⟨12, 4⟩, ⟨16, 4⟩, ⟨20, 4⟩, ⟨24, 4⟩,
    ⟨28, length.toNat - 28 - ctx.checksumLen⟩, ⟨0, hashedLength length ctx⟩,
    ⟨28 + (length.toNat - 28 - ctx.checksumLen), ctx.checksumLen⟩]

variable (P : Platform)

/-- The length field of a PDU. -/
def pduSize (buffer : Bytes) : ℕ := (leShortToHost P buffer 0).toNat

/-- The length field of the packet in a PDU. -/
def innerField (buffer : Bytes) (crc : CrcOptions) : UInt16 :=
  leShortToHost P (readBytes P buffer 8 (innerLength (pduSize P buffer) crc)) 0

/-- One round of the loop of `receive_packet`: the bytes it believes to be left, and the memory
from the PDU on. -/
structure Round where
  lenRemaining : ℕ
  buffer : Bytes

/-- The rounds the loop makes, as far as `rounds` of them. -/
def receiveRounds : ℕ → ℕ → Bytes → List Round
  | 0, _, _ => []
  | rounds + 1, lenRemaining, buffer =>
    if lenRemaining = 0 then []
    else
      { lenRemaining := lenRemaining, buffer := buffer } ::
        receiveRounds rounds ((lenRemaining + 2 ^ 64 - pduSize P buffer) % 2 ^ 64)
          (buffer.drop (pduSize P buffer))

/-- The round reads inside the bytes that are left and inside the copy it makes of the inner
packet, no length wraps below zero, and the sender id it compares was assigned by the decoder,
which leaves a runt unassigned. -/
structure Round.Safe (ctx : RastaHashingContext) (crc : CrcOptions) (round : Round) : Prop where
  outer : ∀ access ∈ outerReads (pduSize P round.buffer) crc, access.Inside round.lenRemaining
  innerLength_noWrap : 8 + crc.crcLen ≤ pduSize P round.buffer
  assigned : 28 + ctx.checksumLen ≤ innerLength (pduSize P round.buffer) crc
  inner : ∀ access ∈ innerReads (innerField P round.buffer crc) ctx,
    access.Inside (innerLength (pduSize P round.buffer) crc)
  hashedLength_noWrap : ctx.checksumLen ≤ (innerField P round.buffer crc).toNat
  lenRemaining_noWrap : pduSize P round.buffer ≤ round.lenRemaining

/-- `receive_packet` terminates on the buffer, all its rounds are safe, and together they consume
exactly the bytes received. -/
def ReceivesSafely (endpoint : Endpoint) (channelId : ℕ) (buffer : Bytes) : Prop :=
  ∃ rounds, (receivePacket P rounds endpoint channelId buffer).isSome = true ∧
    (∀ round ∈ receiveRounds P rounds buffer.length buffer,
      round.Safe P endpoint.con.srHashingContext endpoint.con.config.crcType) ∧
    ((receiveRounds P rounds buffer.length buffer).map fun round =>
      pduSize P round.buffer).sum = buffer.length

/-- The lengths of a PDU fit each other. -/
structure SoundLengths (ctx : RastaHashingContext) (crc : CrcOptions) (pdu : Bytes) : Prop where
  size : pduSize P pdu = pdu.length
  long : 8 + 28 + ctx.checksumLen + crc.crcLen ≤ pdu.length
  checksumFits : ctx.checksumLen ≤ (leShortToHost P pdu 8).toNat
  innerFits : 8 + (leShortToHost P pdu 8).toNat + crc.crcLen ≤ pdu.length

end Accesses

section Rounds

variable (P : Platform) {ctx : RastaHashingContext} {crc : CrcOptions}

/-- A runt leaves the sender id as it was. -/
theorem bytesToRastaPacket_runt {data : Bytes} (h : data.length < 28 + ctx.checksumLen)
    (lasterror : RastaErrorType) (result : RastaPacket) :
    (bytesToRastaPacket P lasterror data ctx result).1.senderId = result.senderId := by
  rw [bytesToRastaPacket, if_pos h]

theorem byteAt_take {buffer : Bytes} {n i : ℕ} (hi : i < n) (hn : n ≤ buffer.length) :
    byteAt P (buffer.take n) i = byteAt P buffer i := by
  have hlt : i < buffer.length := by omega
  have htake : i < (buffer.take n).length := by
    rw [List.length_take]
    omega
  simp [byteAt, List.getD_eq_getElem?_getD, List.getElem?_eq_getElem hlt,
    List.getElem?_eq_getElem htake]

theorem leShortToHost_take {buffer : Bytes} {n i : ℕ} (hi : i + 2 ≤ n) (hn : n ≤ buffer.length) :
    leShortToHost P (buffer.take n) i = leShortToHost P buffer i := by
  rw [leShortToHost, leShortToHost, byteAt_take P (by omega) hn, byteAt_take P (by omega) hn]

theorem leShortToHost_readBytes (buffer : Bytes) {n : ℕ} (hn : 2 ≤ n) (offset : ℕ) :
    leShortToHost P (readBytes P buffer offset n) 0 = leShortToHost P buffer offset := by
  obtain ⟨m, rfl⟩ : ∃ m, n = m + 2 := ⟨n - 2, by omega⟩
  simp [leShortToHost, byteAt, readBytes]

/-- A round is safe exactly when the PDU it stands at lies in the buffer and its lengths fit. -/
theorem safe_iff_soundLengths (hcrc : crc.crcLen ≤ 4) {buffer : Bytes}
    (hlen : buffer.length < 2 ^ 16) :
    Round.Safe P ctx crc { lenRemaining := buffer.length, buffer := buffer } ↔
      pduSize P buffer ≤ buffer.length ∧
        SoundLengths P ctx crc (buffer.take (pduSize P buffer)) := by
  constructor
  · rintro ⟨houter, hwrap, hassigned, hinner, hhashed, hremaining⟩
    simp only at houter hwrap hassigned hinner hhashed hremaining
    generalize hsize : pduSize P buffer = size at *
    have hcount : innerLength size crc = size - 8 - crc.crcLen := by
      unfold innerLength
      omega
    have hfield : innerField P buffer crc = leShortToHost P buffer 8 := by
      rw [innerField, hsize, leShortToHost_readBytes P buffer (by omega)]
    rw [hfield] at hinner hhashed
    rw [hcount] at hassigned hinner
    have htake : (buffer.take size).length = size := by
      rw [List.length_take]
      omega
    have hshort : leShortToHost P (buffer.take size) 8 = leShortToHost P buffer 8 :=
      leShortToHost_take P (by omega) hremaining
    have hhash := hinner ⟨0, hashedLength (leShortToHost P buffer 8) ctx⟩ (by simp [innerReads])
    have hcode := hinner ⟨28 + ((leShortToHost P buffer 8).toNat - 28 - ctx.checksumLen),
      ctx.checksumLen⟩ (by simp [innerReads])
    have hhashedLength : hashedLength (leShortToHost P buffer 8) ctx =
        (leShortToHost P buffer 8).toNat - ctx.checksumLen := by
      have hlt : (leShortToHost P buffer 8).toNat < 2 ^ 16 := (leShortToHost P buffer 8).toNat_lt
      unfold hashedLength
      omega
    rw [hhashedLength] at hhash
    simp only [Access.Inside] at hhash hcode
    refine ⟨hremaining, ?_, ?_, ?_, ?_⟩
    · rw [htake, pduSize, leShortToHost_take P (by omega) hremaining]
      exact hsize
    · rw [htake]
      omega
    · rw [hshort]
      exact hhashed
    · rw [hshort, htake]
      omega
  · rintro ⟨hremaining, hfield, hlong, hchecksum, hfits⟩
    generalize hsize : pduSize P buffer = size at *
    have htake : (buffer.take size).length = size := by
      rw [List.length_take]
      omega
    rw [htake] at hlong hfits
    have hshort : leShortToHost P (buffer.take size) 8 = leShortToHost P buffer 8 :=
      leShortToHost_take P (by omega) hremaining
    rw [hshort] at hchecksum hfits
    have hcount : innerLength size crc = size - 8 - crc.crcLen := by
      unfold innerLength
      omega
    have hwithout : lengthWithoutChecksum size crc = size - crc.crcLen := by
      unfold lengthWithoutChecksum
      omega
    have hinnerField : innerField P buffer crc = leShortToHost P buffer 8 := by
      rw [innerField, hsize, leShortToHost_readBytes P buffer (by omega)]
    have hhashedLength : hashedLength (leShortToHost P buffer 8) ctx =
        (leShortToHost P buffer 8).toNat - ctx.checksumLen := by
      have hlt : (leShortToHost P buffer 8).toNat < 2 ^ 16 := (leShortToHost P buffer 8).toNat_lt
      unfold hashedLength
      omega
    refine ⟨?_, ?_, ?_, ?_, ?_, ?_⟩
    · simp only [hsize, outerReads, hcount, hwithout, List.forall_mem_append,
        List.forall_mem_cons, Access.Inside]
      refine ⟨⟨?_, ?_, ?_, ?_, ?_, by simp⟩, ?_⟩
      · omega
      · omega
      · omega
      · omega
      · omega
      · split
        · simp
        · simp only [List.forall_mem_singleton]
          omega
    · simp only [hsize]
      omega
    · simp only [hsize, hcount]
      omega
    · simp only [hsize, hcount, hinnerField, innerReads, hhashedLength, List.forall_mem_cons,
        Access.Inside]
      refine ⟨?_, ?_, ?_, ?_, ?_, ?_, ?_, ?_, ?_, ?_, ?_, by simp⟩
      all_goals omega
    · simp only [hinnerField]
      exact hchecksum
    · simp only [hsize]
      exact hremaining

theorem SoundLengths.framed {pdu : Bytes} (h : SoundLengths P ctx crc pdu) : Framed P pdu := by
  have hlong := h.long
  exact ⟨by omega, h.size⟩

/-- What the loop has left after a PDU that lies in the buffer. -/
theorem remaining_of_le {buffer : Bytes} (hlen : buffer.length < 2 ^ 16)
    (hsize : pduSize P buffer ≤ buffer.length) :
    (buffer.length + 2 ^ 64 - pduSize P buffer) % 2 ^ 64 =
      (buffer.drop (pduSize P buffer)).length := by
  rw [List.length_drop]
  omega

/-- A buffer whose rounds are all safe falls into PDUs with fitting lengths. -/
theorem soundLengths_of_safe (hcrc : crc.crcLen ≤ 4) (channelId rounds : ℕ) (buffer : Bytes)
    (hlen : buffer.length < 2 ^ 16) (endpoint : Endpoint) (result : Bool)
    (hends : (receiveLoop P channelId rounds buffer.length buffer endpoint result).isSome = true)
    (hsafe : ∀ round ∈ receiveRounds P rounds buffer.length buffer, round.Safe P ctx crc) :
    ∃ pdus : List Bytes, buffer = pdus.flatten ∧ ∀ pdu ∈ pdus, SoundLengths P ctx crc pdu := by
  have hempty : ∀ {buffer : Bytes}, buffer.length = 0 →
      ∃ pdus : List Bytes, buffer = pdus.flatten ∧ ∀ pdu ∈ pdus, SoundLengths P ctx crc pdu := by
    intro buffer hzero
    exact ⟨[], by simpa using hzero, by simp⟩
  induction rounds generalizing buffer endpoint result with
  | zero =>
    unfold receiveLoop at hends
    split at hends
    · rename_i hzero
      exact hempty hzero
    · cases hends
  | succ rounds ih =>
    by_cases hzero : buffer.length = 0
    · exact hempty hzero
    unfold receiveLoop at hends
    unfold receiveRounds at hsafe
    rw [if_neg hzero] at hends hsafe
    obtain ⟨hfirst, hrest⟩ := List.forall_mem_cons.mp hsafe
    obtain ⟨hsize, hsound⟩ := (safe_iff_soundLengths P hcrc hlen).mp hfirst
    have hremaining := remaining_of_le P hlen hsize
    have hdrop : (buffer.drop (pduSize P buffer)).length < 2 ^ 16 := by
      rw [List.length_drop]
      omega
    rw [hremaining] at hrest
    simp only at hends
    rw [← pduSize, hremaining] at hends
    obtain ⟨pdus, hpdus, hall⟩ := ih _ hdrop _ _ hends hrest
    refine ⟨buffer.take (pduSize P buffer) :: pdus, ?_, ?_⟩
    · rw [List.flatten_cons, ← hpdus, List.take_append_drop]
    · exact List.forall_mem_cons.mpr ⟨hsound, hall⟩

/-- The rounds the loop makes over PDUs with fitting lengths. -/
theorem receiveRounds_flatten (hcrc : crc.crcLen ≤ 4) (pdus : List Bytes)
    (hlen : pdus.flatten.length < 2 ^ 16) (hsound : ∀ pdu ∈ pdus, SoundLengths P ctx crc pdu) :
    (∀ round ∈ receiveRounds P pdus.length pdus.flatten.length pdus.flatten,
        round.Safe P ctx crc) ∧
      ((receiveRounds P pdus.length pdus.flatten.length pdus.flatten).map fun round =>
        pduSize P round.buffer).sum = pdus.flatten.length := by
  induction pdus with
  | nil => simp [receiveRounds]
  | cons pdu rest ih =>
    obtain ⟨hfirst, hrest⟩ := List.forall_mem_cons.mp hsound
    have hsize : pduSize P (pdu :: rest).flatten = pdu.length := by
      rw [List.flatten_cons, pduSize, leShortToHost_append_left P hfirst.framed.1]
      exact hfirst.size
    have hlength : (pdu :: rest).flatten.length = pdu.length + rest.flatten.length := by simp
    have hlong := hfirst.long
    have hnonzero : ¬ (pdu :: rest).flatten.length = 0 := by omega
    have htake : (pdu :: rest).flatten.take pdu.length = pdu := by simp
    have hdrop : (pdu :: rest).flatten.drop pdu.length = rest.flatten := by simp
    have hremaining := remaining_of_le P hlen (by rw [hsize, hlength]; omega)
    rw [hsize, hdrop] at hremaining
    obtain ⟨hsafe, hsum⟩ := ih (by omega) hrest
    have hround : Round.Safe P ctx crc
        { lenRemaining := (pdu :: rest).flatten.length, buffer := (pdu :: rest).flatten } := by
      refine (safe_iff_soundLengths P hcrc hlen).mpr ?_
      rw [hsize, htake, hlength]
      exact ⟨by omega, hfirst⟩
    rw [List.length_cons, receiveRounds, if_neg hnonzero, hsize, hdrop, hremaining]
    refine ⟨List.forall_mem_cons.mpr ⟨hround, hsafe⟩, ?_⟩
    rw [List.map_cons, List.sum_cons, hsum, hsize, hlength]

/-- `receive_packet` is safe on a buffer exactly when it is a sequence of PDUs whose lengths fit:
the outer length field is the number of bytes, there is room for both headers and both checksums,
and the inner length field is neither below the length of the safety code nor beyond the bytes in
front of the CRC. -/
theorem receivesSafely_iff (endpoint : Endpoint) (channelId : ℕ)
    (hcrc : endpoint.con.config.crcType ∈ crcOptionSets) (buffer : Bytes)
    (hlen : buffer.length ≤ 1000) :
    ReceivesSafely P endpoint channelId buffer ↔
      ∃ pdus : List Bytes, buffer = pdus.flatten ∧ ∀ pdu ∈ pdus,
        SoundLengths P endpoint.con.srHashingContext endpoint.con.config.crcType pdu := by
  have hcrcLen := crcLen_le_of_mem hcrc
  constructor
  · rintro ⟨rounds, hends, hsafe, -⟩
    exact soundLengths_of_safe P hcrcLen channelId rounds buffer (by omega) endpoint false hends
      hsafe
  · rintro ⟨pdus, rfl, hsound⟩
    have hloop := receiveLoop_framed P channelId pdus (fun pdu hpdu => (hsound pdu hpdu).framed)
      (by omega) pdus.length (le_refl _) endpoint false
    obtain ⟨hsafe, hsum⟩ := receiveRounds_flatten P hcrcLen pdus (by omega) hsound
    refine ⟨pdus.length, ?_, hsafe, hsum⟩
    rw [receivePacket, hloop]
    rfl

end Rounds

theorem receivesSafely_iff_heartbeat :
    ReceivesSafely referencePlatform exampleFresh 0 (examplePdu 0) := by
  have hsound : SoundLengths referencePlatform exampleFresh.con.srHashingContext
      exampleFresh.con.config.crcType (examplePdu 0) :=
    ⟨by decide +kernel, by decide +kernel, by decide +kernel, by decide +kernel⟩
  refine (receivesSafely_iff referencePlatform exampleFresh 0 List.mem_cons_self (examplePdu 0)
    (by decide +kernel)).mpr ⟨[examplePdu 0], by simp, ?_⟩
  intro pdu hpdu
  rw [List.mem_singleton.mp hpdu]
  exact hsound

/-- A read of a single byte: the length field of its first PDU lies beyond it. -/
theorem single_byte_not_received_safely :
    ¬ ReceivesSafely referencePlatform exampleFresh 0 [0] := by
  rintro ⟨rounds, hends, hsafe, -⟩
  cases rounds with
  | zero => simp [receivePacket, receiveLoop] at hends
  | succ rounds =>
    have hround : Round.mk 1 [0] ∈ receiveRounds referencePlatform (rounds + 1) 1 [0] := by
      simp [receiveRounds]
    have hfield := (hsafe _ hround).outer ⟨0, 2⟩ (by simp [outerReads])
    simp [Access.Inside] at hfield

end LibRasta.Redundancy
