/-
Module: LibRasta/Retransmission/Removal.lean
source: src/c/retransmission/safety_retransmission.c, src/c/transport/events.c
digest: Exactly when the removal of confirmed packets leaves the unconfirmed ones: the confirmed number is that of a queued packet, or every queued packet is confirmed.
-/

import LibRasta.Lib.Cutting
import LibRasta.Retransmission.Conveyance

set_option autoImplicit false
set_option relaxedAutoImplicit false

namespace LibRasta.Retransmission

open LibRasta.Lib
open LibRasta.Util
open LibRasta.Factory

section Queue

variable (P : Platform)

/-- The sequence number the removal loop reads from a queued packet. -/
def queuedNumber (con : Connection) (bytes : Bytes) : UInt32 :=
  (decodePdu P con.hashingContext bytes).sequenceNumber

/-- The bytes are the encoding of the packet, under the key of the channel or that of the
multiplexer. -/
structure Encodes (con : Connection) (bytes : Bytes) (packet : RastaPacket) : Prop where
  type : packet.type = .data ∨ packet.type = .retrData
  encoded : ∃ ctx : RastaHashingContext, ctx.checksumLen = con.hashingContext.checksumLen ∧
    28 + ctx.checksumLen ≤ packet.length.toNat ∧ bytes = encodePdu P ctx packet

/-- The retransmission queue holds the encodings of these packets, in the order of their
numbers. -/
structure QueueHolds (con : Connection) (packets : List RastaPacket) : Prop where
  items : List.Forall₂ (Encodes P con) con.fifoRetransmission.items packets
  increasing : packets.Pairwise fun a b => a.sequenceNumber < b.sequenceNumber
  below : ∀ packet ∈ packets, packet.sequenceNumber < con.snT

/-- The queued packets that `cs_r` does not confirm. -/
def unconfirmed (con : Connection) : List Bytes :=
  con.fifoRetransmission.items.filter fun bytes => con.csR < queuedNumber P con bytes

/-- The bytes are those of a Data packet with the number `sn_t`, as `data_send_event` encodes
it. -/
def NewData (con : Connection) (bytes : Bytes) : Prop :=
  ∃ lasterror data, data.type = .data ∧ data.sequenceNumber = con.snT ∧
    bytes = (rastaModuleToBytes P lasterror data con.srHashingContext).1

/-- The unconfirmed packets stay, in their order, and only new Data packets follow them. -/
def RemovesConfirmed (con : Connection) : Prop :=
  ∃ appended, (srRemoveConfirmedMessages P con).fifoRetransmission.items =
      unconfirmed P con ++ appended ∧ ∀ bytes ∈ appended, NewData P con bytes

variable {P} {con : Connection} {packets : List RastaPacket} {bytes : Bytes}
  {packet : RastaPacket}

theorem Encodes.whole (h : Encodes P con bytes packet) :
    28 + con.hashingContext.checksumLen ≤ bytes.length := by
  obtain ⟨ctx, hctx, hlength, rfl⟩ := h.encoded
  rw [length_encodePdu P hlength, ← hctx]
  exact hlength

theorem Encodes.decoded (h : Encodes P con bytes packet) :
    ∃ code, decodePdu P con.hashingContext bytes = recoded P packet con.hashingContext code := by
  obtain ⟨ctx, hctx, hlength, rfl⟩ := h.encoded
  have hblocks : encodePdu P ctx packet =
      bytesToHash P packet con.hashingContext ++
        (P.calculateHash ctx (bytesToHash P packet ctx)).take ctx.checksumLen := by
    rw [encodePdu, rastaModuleToBytes_of_fits P hlength, bytesToHash_congr P hctx]
  have hcode : ((P.calculateHash ctx (bytesToHash P packet ctx)).take ctx.checksumLen).length =
      con.hashingContext.checksumLen := by
    rw [length_safetyCode, hctx]
  refine ⟨(P.calculateHash ctx (bytesToHash P packet ctx)).take ctx.checksumLen, ?_⟩
  rw [decodePdu, hblocks, bytesToRastaPacket_blocks P (hctx ▸ hlength) hcode]

theorem Encodes.number (h : Encodes P con bytes packet) :
    queuedNumber P con bytes = packet.sequenceNumber := by
  obtain ⟨code, hdecoded⟩ := h.decoded
  rw [queuedNumber, hdecoded]
  rfl

/-- The loop pops up to and including the packet with the confirmed number. -/
theorem drop_confirmedCount {items : List Bytes}
    (hwhole : ∀ bytes ∈ items, 28 + con.hashingContext.checksumLen ≤ bytes.length)
    (csR : UInt32) (lasterror : RastaErrorType) :
    items.drop (confirmedCount P con.hashingContext csR items lasterror).1 =
      cutThrough (fun bytes => (queuedNumber P con bytes).toNat) csR.toNat items := by
  induction items generalizing lasterror with
  | nil => rfl
  | cons element rest ih =>
    have hfirst := bytesToRastaPacket_of_whole P (hwhole element List.mem_cons_self) lasterror
    have hrest := ih (fun bytes hbytes => hwhole bytes (List.mem_cons_of_mem element hbytes))
    simp only [confirmedCount, hfirst, cutThrough, UInt32.toNat_inj, queuedNumber]
    split
    · rfl
    · exact hrest lasterror

theorem QueueHolds.whole (h : QueueHolds P con packets) :
    ∀ bytes ∈ con.fifoRetransmission.items, 28 + con.hashingContext.checksumLen ≤ bytes.length := by
  have hboth := h.items.imp fun _ _ hencodes => And.intro hencodes.whole hencodes
  exact ((List.forall₂_and_left _ _).mp hboth).1

theorem QueueHolds.numbers (h : QueueHolds P con packets) :
    con.fifoRetransmission.items.map (queuedNumber P con) =
      packets.map RastaPacket.sequenceNumber := by
  have hnumbers := h.items.imp fun _ _ hencodes => hencodes.number
  rw [← List.forall₂_eq_eq_eq, List.forall₂_map_left_iff, List.forall₂_map_right_iff]
  exact hnumbers

theorem QueueHolds.sorted (h : QueueHolds P con packets) :
    con.fifoRetransmission.items.Pairwise fun a b =>
      (queuedNumber P con a).toNat < (queuedNumber P con b).toNat := by
  have hpackets : (packets.map RastaPacket.sequenceNumber).Pairwise fun a b => a.toNat < b.toNat :=
    List.pairwise_map.mpr (h.increasing.imp fun hlt => UInt32.lt_iff_toNat_lt.mp hlt)
  rw [← h.numbers, List.pairwise_map] at hpackets
  exact hpackets

/-- A condition on the numbers of the packets is one on the numbers the loop reads. -/
theorem QueueHolds.forall_number (h : QueueHolds P con packets) (p : UInt32 → Prop) :
    (∀ bytes ∈ con.fifoRetransmission.items, p (queuedNumber P con bytes)) ↔
      ∀ packet ∈ packets, p packet.sequenceNumber := by
  have hmapped := congrArg (fun numbers => ∀ number ∈ numbers, p number) h.numbers
  simpa only [List.mem_map, forall_exists_index, and_imp, forall_apply_eq_imp_iff₂, eq_iff_iff]
    using hmapped

end Queue

section Removal

variable {P : Platform} {con : Connection} {packets : List RastaPacket}

theorem QueueHolds.popConfirmed_items (h : QueueHolds P con packets) :
    (popConfirmed P con).fifoRetransmission.items =
      cutThrough (fun bytes => (queuedNumber P con bytes).toNat) con.csR.toNat
        con.fifoRetransmission.items :=
  drop_confirmedCount h.whole con.csR con.lasterror

/-- The number of a queued packet is confirmed, or all of them are. -/
def CutsExactly (csR : UInt32) (packets : List RastaPacket) : Prop :=
  (∃ packet ∈ packets, packet.sequenceNumber = csR) ∨
    ∀ packet ∈ packets, packet.sequenceNumber ≤ csR

instance (csR : UInt32) (packets : List RastaPacket) : Decidable (CutsExactly csR packets) :=
  inferInstanceAs (Decidable (_ ∨ _))

/-- The loop leaves the unconfirmed packets exactly under the condition. -/
theorem QueueHolds.popConfirmed_iff (h : QueueHolds P con packets) :
    (popConfirmed P con).fifoRetransmission.items = unconfirmed P con ↔
      CutsExactly con.csR packets := by
  have hfilter : unconfirmed P con = con.fifoRetransmission.items.filter fun bytes =>
      con.csR.toNat < (queuedNumber P con bytes).toNat := by
    simp only [unconfirmed, UInt32.lt_iff_toNat_lt]
  have hpresent := not_congr (h.forall_number fun number => number ≠ con.csR)
  have hall := h.forall_number fun number => number ≤ con.csR
  push Not at hpresent
  rw [h.popConfirmed_items, hfilter, cutThrough_eq_filter_iff h.sorted, CutsExactly, ← hpresent,
    ← hall]
  simp only [UInt32.toNat_inj, UInt32.le_iff_toNat_le]

theorem QueueHolds.popConfirmed_nil (h : QueueHolds P con packets)
    (hcut : ¬ CutsExactly con.csR packets) :
    (popConfirmed P con).fifoRetransmission.items = [] ∧ unconfirmed P con ≠ [] := by
  have hpopped : (popConfirmed P con).fifoRetransmission.items = [] := by
    rw [h.popConfirmed_items]
    refine cutThrough_of_absent fun bytes hbytes hnumber => ?_
    have habsent : ∀ packet ∈ packets, packet.sequenceNumber ≠ con.csR :=
      fun packet hpacket hsame => hcut (.inl ⟨packet, hpacket, hsame⟩)
    exact (h.forall_number fun number => number ≠ con.csR).mpr habsent bytes hbytes
      (UInt32.toNat_inj.mp hnumber)
  refine ⟨hpopped, fun hnone => hcut (h.popConfirmed_iff.mp ?_)⟩
  rw [hpopped, hnone]

/-- `data_send_event` keeps what is queued for retransmission and appends at most one Data
packet. -/
theorem dataSendEvent_appends (con : Connection) :
    ∃ appended, (dataSendEvent P con).fifoRetransmission.items =
        con.fifoRetransmission.items ++ appended ∧
      appended.length ≤ 1 ∧ ∀ bytes ∈ appended, NewData P con bytes := by
  have hstop : (dataSendEvent P con).fifoRetransmission = (sendQueued P con).fifoRetransmission := by
    unfold dataSendEvent stopIdleSending
    split <;> rfl
  rw [hstop]
  unfold sendQueued
  split
  swap
  · exact ⟨[], (List.append_nil _).symm, Nat.zero_le _, nofun⟩
  generalize (if con.config.maxPacket.toNat ≤ sendBacklogSize con then con.config.maxPacket.toNat
    else sendBacklogSize con) = n
  let data := createDataMessage P (nextHeader con) (con.fifoSend.items.take n) con.srHashingContext
  have hpush : (sendBatch P con n).fifoRetransmission = (fifoPush con.fifoRetransmission
      (rastaModuleToBytes P con.lasterror data con.srHashingContext).1).2 := rfl
  rw [hpush]
  rcases fifoPush_items_cases con.fifoRetransmission
    (rastaModuleToBytes P con.lasterror data con.srHashingContext).1 with hfull | hroom
  · exact ⟨[], by rw [hfull, List.append_nil], Nat.zero_le _, nofun⟩
  · refine ⟨_, hroom, Nat.le_refl _, ?_⟩
    intro bytes hbytes
    rw [List.mem_singleton.mp hbytes]
    exact ⟨con.lasterror, data, rfl, rfl, rfl⟩

theorem srRemoveConfirmedMessages_appends (con : Connection) :
    ∃ appended, (srRemoveConfirmedMessages P con).fifoRetransmission.items =
        (popConfirmed P con).fifoRetransmission.items ++ appended ∧
      appended.length ≤ 1 ∧ ∀ bytes ∈ appended, NewData P con bytes := by
  unfold srRemoveConfirmedMessages
  split
  · exact dataSendEvent_appends (popConfirmed P con)
  · exact ⟨[], (List.append_nil _).symm, Nat.zero_le _, nofun⟩

theorem leLongToHost_zeros {n offset : ℕ} (h : offset + 4 ≤ n) :
    leLongToHost P (allocateRastaByteArray n) offset = 0 := by
  have hzero : ∀ i, i < n → byteAt P (allocateRastaByteArray n) i = 0 := by
    intro i hi
    simp [byteAt, allocateRastaByteArray, hi]
  rw [leLongToHost, hzero offset (by omega), hzero (offset + 1) (by omega),
    hzero (offset + 2) (by omega), hzero (offset + 3) (by omega)]
  rfl

/-- Whatever the error variable held, a new Data packet shows the number `sn_t` or 0 where the
loop reads the number. -/
theorem NewData.number {bytes : Bytes} (h : NewData P con bytes) (hlen : 28 ≤ bytes.length) :
    leLongToHost P bytes 12 = con.snT ∨ leLongToHost P bytes 12 = 0 := by
  obtain ⟨lasterror, data, -, hnumber, rfl⟩ := h
  rw [length_rastaModuleToBytes] at hlen
  by_cases herror : allocateBytesError lasterror data con.srHashingContext = .none
  · left
    have hblocks : (rastaModuleToBytes P lasterror data con.srHashingContext).1 =
        packFields data ++ (readBytes P data.data 0 (getDataLength data con.srHashingContext) ++
          (P.calculateHash con.srHashingContext (bytesToHash P data con.srHashingContext)).take
            con.srHashingContext.checksumLen) := by
      simp only [rastaModuleToBytes, herror, ne_eq, not_true_eq_false, if_false, bytesToHash,
        List.append_assoc]
    rw [hblocks, packFields_sequenceNumber, hnumber]
  · right
    have hzeros : (rastaModuleToBytes P lasterror data con.srHashingContext).1 =
        allocateRastaByteArray data.length.toNat := by
      simp only [rastaModuleToBytes, herror, ne_eq, not_false_eq_true, if_true]
    rw [hzeros]
    exact leLongToHost_zeros (by omega)

/-- No unconfirmed packet is a new one: its number lies strictly between 0 and `sn_t`. -/
theorem QueueHolds.not_newData (h : QueueHolds P con packets) {bytes : Bytes}
    (hbytes : bytes ∈ unconfirmed P con) : ¬ NewData P con bytes := by
  intro hnew
  obtain ⟨hqueued, habove⟩ := List.mem_filter.mp hbytes
  have hwhole := h.whole bytes hqueued
  have hread : queuedNumber P con bytes = leLongToHost P bytes 12 := by
    have hrunt : ¬ bytes.length < 28 + con.hashingContext.checksumLen := by omega
    simp only [queuedNumber, decodePdu, bytesToRastaPacket, if_neg hrunt]
  have hbelow := (h.forall_number fun number => number < con.snT).mpr h.below bytes hqueued
  have hpositive : con.csR < queuedNumber P con bytes := of_decide_eq_true habove
  rw [hread, UInt32.lt_iff_toNat_lt] at hbelow hpositive
  rcases hnew.number (by omega) with hnumber | hnumber
  · rw [hnumber] at hbelow
    omega
  · rw [hnumber] at hpositive
    exact Nat.not_lt_zero _ hpositive

/-- For every retransmission queue of encoded packets with increasing numbers below `sn_t` and
every `cs_r`: exactly the confirmed packets are removed if and only if `cs_r` is the number of
a queued packet or none of them lies above it. -/
theorem removesConfirmed_iff (h : QueueHolds P con packets) :
    RemovesConfirmed P con ↔ CutsExactly con.csR packets := by
  obtain ⟨appended, hitems, hshort, hnew⟩ := @srRemoveConfirmedMessages_appends P con
  constructor
  · rintro ⟨appended', hitems', -⟩
    by_contra hcut
    obtain ⟨hpopped, hkept⟩ := h.popConfirmed_nil hcut
    rw [hitems, hpopped, List.nil_append] at hitems'
    -- the one packet that is left would have to be both old and new
    obtain ⟨bytes, rest, hunconfirmed⟩ := List.exists_cons_of_ne_nil hkept
    have hmem : bytes ∈ unconfirmed P con := hunconfirmed ▸ List.mem_cons_self
    refine h.not_newData hmem (hnew bytes ?_)
    rw [hitems', hunconfirmed]
    exact List.mem_append_left _ List.mem_cons_self
  · intro hcut
    exact ⟨appended, by rw [hitems, h.popConfirmed_iff.mpr hcut], hnew⟩

end Removal

section Example

/-- A Data packet of `exampleRunning` with one message. -/
def exampleQueued (number : UInt32) : RastaPacket :=
  createDataMessage referencePlatform ⟨0x62, 0x61, number, 0, 0, 0⟩ [[0x68, 0x69]]
    exampleRunning.hashingContext

/-- A connection that sent the Data packets 5 and 7 with a heartbeat between them, once the peer
confirmed the number `csR`. -/
def exampleConfirmed (csR : UInt32) : Connection :=
  { exampleRunning with
    snT := 8
    csR := csR
    fifoRetransmission :=
      (fifoPush (fifoPush exampleRunning.fifoRetransmission
        (encodePdu referencePlatform exampleRunning.hashingContext (exampleQueued 5))).2
        (encodePdu referencePlatform exampleRunning.hashingContext (exampleQueued 7))).2 }

theorem exampleQueued_fits (number : UInt32) :
    28 + exampleRunning.hashingContext.checksumLen ≤ (exampleQueued number).length.toNat := by
  show 28 + exampleRunning.hashingContext.checksumLen ≤ (exampleQueued 0).length.toNat
  decide +kernel

theorem exampleConfirmed_holds (csR : UInt32) :
    QueueHolds referencePlatform (exampleConfirmed csR) [exampleQueued 5, exampleQueued 7] where
  items := .cons ⟨.inl rfl, _, rfl, exampleQueued_fits 5, rfl⟩
    (.cons ⟨.inl rfl, _, rfl, exampleQueued_fits 7, rfl⟩ .nil)
  increasing := by decide +kernel
  below := by
    show ∀ packet ∈ [exampleQueued 5, exampleQueued 7], packet.sequenceNumber < 8
    decide +kernel

theorem removesConfirmed_iff_queued_number :
    QueueHolds referencePlatform (exampleConfirmed 5) [exampleQueued 5, exampleQueued 7] ∧
      (RemovesConfirmed referencePlatform (exampleConfirmed 5) ↔
        CutsExactly 5 [exampleQueued 5, exampleQueued 7]) :=
  ⟨exampleConfirmed_holds 5, removesConfirmed_iff (exampleConfirmed_holds 5)⟩

/-- The peer confirms the heartbeat: a confirmation that passes `sr_cs_valid` and that removes
the Data packet sent after the heartbeat as well. -/
theorem confirmed_heartbeat_removes_unconfirmed :
    QueueHolds referencePlatform (exampleConfirmed 6) [exampleQueued 5, exampleQueued 7] ∧
      srCsValid (exampleConfirmed 4) { exampleHeartbeat with confirmedSequenceNumber := 6 } = true ∧
      (exampleConfirmed 6).fifoRetransmission.items.map
        (queuedNumber referencePlatform (exampleConfirmed 6)) = [5, 7] ∧
      (srRemoveConfirmedMessages referencePlatform (exampleConfirmed 6)).fifoRetransmission.items =
        [] ∧
      ¬ RemovesConfirmed referencePlatform (exampleConfirmed 6) := by
  have hempty : (srRemoveConfirmedMessages referencePlatform
      (exampleConfirmed 6)).fifoRetransmission.items = [] := by
    decide +kernel
  have hkept : unconfirmed referencePlatform (exampleConfirmed 6) ≠ [] := by
    decide +kernel
  refine ⟨exampleConfirmed_holds 6, by decide +kernel, by decide +kernel, hempty, ?_⟩
  rintro ⟨appended, hitems, -⟩
  rw [hempty] at hitems
  exact hkept (List.append_eq_nil_iff.mp hitems.symm).1

end Example

end LibRasta.Retransmission
