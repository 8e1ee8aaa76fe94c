/-
Module: LibRasta/Redundancy/QueueInvariant.lean
source: src/c/redundancy/rastaredundancy.c, src/c/redundancy/rasta_red_multiplexer.c, src/c/util/rastadeferqueue.c
digest: What a read does to the numbers in the defer queue, and exactly when the queue keeps distinct numbers ahead of seq_rx: no second copy of the expected PDU finds a free place in the read of the first.
-/

import LibRasta.Redundancy.Progress
import Mathlib.Data.Finset.Card

set_option autoImplicit false
set_option relaxedAutoImplicit false

namespace LibRasta.Redundancy

open LibRasta.Util
open LibRasta.Retransmission

/-- The sequence numbers in a defer queue. -/
def liveNumbers (queue : DeferQueue) : List UInt64 := queue.live.map seqNrOf

/-- The queue holds no more than it has places for, no number twice, and only numbers that are
still to be delivered. -/
structure QueueSound (channel : RedundancyChannel) : Prop where
  count_le : channel.deferQ.count ≤ channel.deferQ.maxCount
  nodup : (liveNumbers channel.deferQ).Nodup
  ahead : ∀ number ∈ liveNumbers channel.deferQ, channel.seqRx < number

section Condition

/-- The PDU passes every test of the receiving functions but those for room and for a copy. -/
def Admissible (endpoint : Endpoint) (packet : RastaRedundancyPacket) : Prop :=
  endpoint.channel.associatedId = packet.data.senderId.toUInt64 ∧
    packet.checksumCorrect = true ∧ ¬ FirstPduRule endpoint packet ∧
    (packet.sequenceNumber.toUInt64 = endpoint.channel.seqRx ∨
      endpoint.channel.seqRx < packet.sequenceNumber.toUInt64 ∧
        packet.sequenceNumber.toUInt64 ≤ windowEnd endpoint)

instance (endpoint : Endpoint) (packet : RastaRedundancyPacket) :
    Decidable (Admissible endpoint packet) :=
  inferInstanceAs (Decidable (_ ∧ _))

/-- The numbers of the admissible PDUs among these. -/
def admissibleNumbers (endpoint : Endpoint) (packets : List RastaRedundancyPacket) :
    List UInt64 :=
  (packets.filter fun packet => Admissible endpoint packet).map fun packet =>
    packet.sequenceNumber.toUInt64

/-- The numbers queued before the read and those the PDUs bring. -/
def occupied (endpoint : Endpoint) (packets : List RastaRedundancyPacket) : Finset UInt64 :=
  (liveNumbers endpoint.channel.deferQ ++ admissibleNumbers endpoint packets).toFinset

/-- The PDU has the expected number, as has one of those in front of it, and there is a place
left for it. -/
def Repeats (endpoint : Endpoint) (front : List RastaRedundancyPacket)
    (packet : RastaRedundancyPacket) : Prop :=
  Admissible endpoint packet ∧ packet.sequenceNumber.toUInt64 = endpoint.channel.seqRx ∧
    endpoint.channel.seqRx ∈ admissibleNumbers endpoint front ∧
    (occupied endpoint front).card < endpoint.channel.deferQ.maxCount

/-- The read brings the expected PDU a second time while there is a place left. -/
def RepeatsExpected (endpoint : Endpoint) (front packets : List RastaRedundancyPacket) : Prop :=
  ∃ before packet after, packets = before ++ packet :: after ∧
    Repeats endpoint (front ++ before) packet

theorem repeatsExpected_nil (endpoint : Endpoint) (front : List RastaRedundancyPacket) :
    ¬ RepeatsExpected endpoint front [] := by
  rintro ⟨before, packet, after, hsplit, -⟩
  simp at hsplit

theorem repeatsExpected_cons {endpoint : Endpoint} {front rest : List RastaRedundancyPacket}
    {packet : RastaRedundancyPacket} :
    RepeatsExpected endpoint front (packet :: rest) ↔
      Repeats endpoint front packet ∨ RepeatsExpected endpoint (front ++ [packet]) rest := by
  constructor
  · rintro ⟨before, again, after, hsplit, hrepeats⟩
    cases before with
    | nil =>
      obtain ⟨rfl, -⟩ := List.cons.inj hsplit
      exact .inl (by simpa using hrepeats)
    | cons first before =>
      obtain ⟨rfl, hrest⟩ := List.cons.inj hsplit
      exact .inr ⟨before, again, after, hrest, by simpa using hrepeats⟩
  · rintro (hrepeats | ⟨before, again, after, rfl, hrepeats⟩)
    · exact ⟨[], packet, rest, rfl, by simpa using hrepeats⟩
    · exact ⟨packet :: before, again, after, rfl, by simpa using hrepeats⟩

end Condition

section OnePdu

variable (P : Platform)

/-- Decoding does not depend on the error variable or the clock. -/
theorem reception_packet_congr {before after : Endpoint} (h : ReadFrame before after)
    (buffer : Bytes) :
    Reception.packet P { con := after.con, buffer := buffer } =
      Reception.packet P { con := before.con, buffer := buffer } := by
  obtain ⟨reads, lasterror, hcon⟩ := h.con
  have hinner : ∀ (first second : RastaErrorType) (data : Bytes) (ctx : RastaHashingContext)
      (result : RastaPacket), (bytesToRastaPacket P first data ctx result).1 =
        (bytesToRastaPacket P second data ctx result).1 := by
    intro first second data ctx result
    unfold bytesToRastaPacket
    split
    · rfl
    · rfl
  simp only [Reception.packet, Reception.size, handleReceivedData, bytesToRastaRedundancyPacket,
    hcon]
  rw [hinner lasterror before.con.lasterror]

theorem admissible_congr {before after : Endpoint} (h : ReadFrame before after)
    (packet : RastaRedundancyPacket) : Admissible after packet ↔ Admissible before packet := by
  obtain ⟨reads, lasterror, hcon⟩ := h.con
  simp only [Admissible, FirstPduRule, windowEnd, hcon, h.associatedId, h.seqRx]

theorem enters_iff {endpoint : Endpoint} {packet : RastaRedundancyPacket} :
    Enters endpoint packet ↔ deferqueueIsfull endpoint.channel.deferQ = false ∧
      Admissible endpoint packet ∧
      (packet.sequenceNumber.toUInt64 = endpoint.channel.seqRx ∨
        packet.sequenceNumber.toUInt64 ∉ liveNumbers endpoint.channel.deferQ) := by
  have hcontains : packet.sequenceNumber.toUInt64 ∉ liveNumbers endpoint.channel.deferQ ↔
      deferqueueContains endpoint.channel.deferQ packet.sequenceNumber.toUInt64 = false := by
    rw [← Bool.not_eq_true, deferqueueContains_iff, liveNumbers, List.mem_map]
  rw [hcontains]
  constructor
  · rintro ⟨hsender, hroom, hchecksum, hfirst, hnext | ⟨hahead, hwindow, habsent⟩⟩
    · exact ⟨hroom, ⟨hsender, hchecksum, hfirst, .inl hnext⟩, .inl hnext⟩
    · exact ⟨hroom, ⟨hsender, hchecksum, hfirst, .inr ⟨hahead, hwindow⟩⟩, .inr habsent⟩
  · rintro ⟨hroom, ⟨hsender, hchecksum, hfirst, hnext | ⟨hahead, hwindow⟩⟩, hcopy⟩
    · exact ⟨hsender, hroom, hchecksum, hfirst, .inl hnext⟩
    · refine ⟨hsender, hroom, hchecksum, hfirst, ?_⟩
      rcases hcopy with hnext | habsent
      · exact .inl hnext
      · exact .inr ⟨hahead, hwindow, habsent⟩

theorem liveNumbers_add {queue : DeferQueue} (h : deferqueueIsfull queue = false)
    (packet : RastaRedundancyPacket) (recvTs : UInt64) :
    (liveNumbers (deferqueueAdd P queue packet recvTs).2).Perm
      (packet.sequenceNumber.toUInt64 :: liveNumbers queue) := by
  have hroom : queue.count ≠ queue.maxCount := by simpa [deferqueueIsfull] using h
  exact (deferqueueAdd_live P hroom packet recvTs).map seqNrOf

end OnePdu

section Reading

variable (P : Platform)

/-- The queue while a read is processed, as long as the expected PDU came once at most: it holds
numbers that are accounted for, and all of them unless it is full. -/
structure Accounted (endpoint : Endpoint) (front : List RastaRedundancyPacket) (middle : Endpoint) :
    Prop where
  frame : ReadFrame endpoint middle
  maxCount : middle.channel.deferQ.maxCount = endpoint.channel.deferQ.maxCount
  nodup : (liveNumbers middle.channel.deferQ).Nodup
  within : ∀ number ∈ liveNumbers middle.channel.deferQ, number ∈ occupied endpoint front
  filled : deferqueueIsfull middle.channel.deferQ = true ∨
    ∀ number ∈ occupied endpoint front, number ∈ liveNumbers middle.channel.deferQ

/-- The expected number is queued twice. -/
def Doubled (endpoint : Endpoint) : Prop :=
  2 ≤ (liveNumbers endpoint.channel.deferQ).count endpoint.channel.seqRx

variable {P} {endpoint middle : Endpoint} {front : List RastaRedundancyPacket}

/-- There is room exactly if fewer numbers are accounted for than there are places. -/
theorem Accounted.room_iff (h : Accounted endpoint front middle) :
    deferqueueIsfull middle.channel.deferQ = false ↔
      (occupied endpoint front).card < endpoint.channel.deferQ.maxCount := by
  have hcard : (liveNumbers middle.channel.deferQ).toFinset.card =
      middle.channel.deferQ.count := by
    rw [List.toFinset_card_of_nodup h.nodup, liveNumbers, List.length_map,
      DeferQueue.length_live]
  have hsubset : (liveNumbers middle.channel.deferQ).toFinset ⊆ occupied endpoint front := by
    intro number hnumber
    exact h.within number (List.mem_toFinset.mp hnumber)
  have hcount := middle.channel.deferQ.count_le
  have hmax := h.maxCount
  have hfull : deferqueueIsfull middle.channel.deferQ = false ↔
      middle.channel.deferQ.count ≠ middle.channel.deferQ.maxCount := by
    simp [deferqueueIsfull]
  rw [hfull]
  constructor
  · intro hroom
    rcases h.filled with hisfull | hall
    · exact absurd (hfull.mpr hroom) (by rw [hisfull]; simp)
    · have hcards := Finset.card_le_card fun number hnumber =>
        List.mem_toFinset.mpr (hall number hnumber)
      omega
  · intro hlt
    have hcards := Finset.card_le_card hsubset
    omega

theorem mem_occupied_append {packet : RastaRedundancyPacket} {number : UInt64} :
    number ∈ occupied endpoint (front ++ [packet]) ↔
      number ∈ occupied endpoint front ∨
        Admissible endpoint packet ∧ packet.sequenceNumber.toUInt64 = number := by
  by_cases hadmissible : Admissible endpoint packet
  · have hnew : admissibleNumbers endpoint (front ++ [packet]) =
        admissibleNumbers endpoint front ++ [packet.sequenceNumber.toUInt64] := by
      simp [admissibleNumbers, hadmissible]
    simp only [occupied, hnew, List.mem_toFinset, List.mem_append, List.mem_singleton,
      hadmissible, true_and, or_assoc, eq_comm]
  · simp [occupied, admissibleNumbers, List.filter_append, hadmissible]

/-- One PDU of a read: either the queue stays as described, or this PDU is a second copy of the
expected one. -/
theorem Accounted.receivePdu (h : Accounted endpoint front middle)
    (hsound : QueueSound endpoint.channel) (channelId : ℕ) (buffer : Bytes) :
    let packet := Reception.packet P { con := endpoint.con, buffer := buffer }
    let next := (Redundancy.receivePdu P middle channelId buffer).1
    (Accounted endpoint (front ++ [packet]) next ∧ ¬ Repeats endpoint front packet) ∨
      (Doubled next ∧ Repeats endpoint front packet) := by
  intro packet next
  obtain ⟨lasterror, hdispatched⟩ := receivePdu_dispatched P middle channelId buffer
  have hframe : ReadFrame endpoint next := h.frame.trans (receivePdu_frame P middle channelId buffer)
  have hset : ReadFrame endpoint (setLasterror middle lasterror) :=
    h.frame.trans ⟨⟨_, lasterror, rfl⟩, rfl, rfl, rfl⟩
  rw [reception_packet_congr P h.frame buffer] at hdispatched
  have henters := @enters_iff (setLasterror middle lasterror) packet
  rw [admissible_congr hset packet, hset.seqRx] at henters
  have hexpected : endpoint.channel.seqRx ∉ liveNumbers endpoint.channel.deferQ := by
    intro hmem
    exact absurd (hsound.ahead _ hmem) (UInt64.lt_irrefl _)
  have hqueue : (setLasterror middle lasterror).channel = middle.channel := rfl
  rw [hqueue] at henters
  generalize hreceived : Redundancy.receivePdu P middle channelId buffer = received at hdispatched
  have hnext : next = received.1 := congrArg Prod.fst hreceived
  cases hdispatched with
  | @discarded after _ queue why =>
    have hsame : next.channel.deferQ = middle.channel.deferQ := by
      rw [hnext]
      exact queue
    left
    refine ⟨⟨hframe, by rw [hsame, h.maxCount], by rw [hsame]; exact h.nodup, ?_, ?_⟩, ?_⟩
    · rw [hsame]
      intro number hnumber
      exact mem_occupied_append.mpr (.inl (h.within number hnumber))
    · rw [hsame]
      rcases h.filled with hfull | hall
      · exact .inl hfull
      · cases hroom : deferqueueIsfull middle.channel.deferQ with
        | true => exact .inl rfl
        | false =>
          right
          intro number hnumber
          rcases mem_occupied_append.mp hnumber with hold | ⟨hadmissible, rfl⟩
          · exact hall number hold
          · by_contra habsent
            exact why (henters.mpr ⟨hroom, hadmissible, .inr habsent⟩)
    · rintro ⟨hadmissible, hnumber, -, hcard⟩
      exact why (henters.mpr ⟨h.room_iff.mpr hcard, hadmissible, .inl hnumber⟩)
  | @queued after _ recvTs queue why =>
    obtain ⟨hroom, hadmissible, hcopy⟩ := henters.mp why
    have hnumbers : (liveNumbers next.channel.deferQ).Perm
        (packet.sequenceNumber.toUInt64 :: liveNumbers middle.channel.deferQ) := by
      rw [hnext]
      show (liveNumbers after.channel.deferQ).Perm _
      rw [queue]
      exact liveNumbers_add P hroom packet recvTs
    have hall : ∀ number ∈ occupied endpoint front, number ∈ liveNumbers middle.channel.deferQ := by
      rcases h.filled with hfull | hall
      · rw [hfull] at hroom
        cases hroom
      · exact hall
    by_cases hcontained : packet.sequenceNumber.toUInt64 ∈ liveNumbers middle.channel.deferQ
    · -- only the path of the expected number queues without looking for a copy
      have hnumber : packet.sequenceNumber.toUInt64 = endpoint.channel.seqRx := by
        rcases hcopy with hnumber | habsent
        · exact hnumber
        · exact absurd hcontained habsent
      right
      constructor
      · have hcount := List.one_le_count_iff.mpr hcontained
        rw [Doubled, hframe.seqRx, hnumbers.count_eq, ← hnumber, List.count_cons_self]
        omega
      · refine ⟨hadmissible, hnumber, ?_, h.room_iff.mp hroom⟩
        have hmem := h.within _ hcontained
        rw [hnumber, occupied, List.mem_toFinset, List.mem_append] at hmem
        exact hmem.resolve_left hexpected
    · left
      refine ⟨⟨hframe, ?_, ?_, ?_, ?_⟩, ?_⟩
      · rw [hnext]
        show after.channel.deferQ.maxCount = _
        rw [queue, deferqueueAdd_maxCount]
        exact h.maxCount
      · rw [hnumbers.nodup_iff, List.nodup_cons]
        exact ⟨hcontained, h.nodup⟩
      · intro number hnumber
        rw [hnumbers.mem_iff, List.mem_cons] at hnumber
        rcases hnumber with rfl | hold
        · exact mem_occupied_append.mpr (.inr ⟨hadmissible, rfl⟩)
        · exact mem_occupied_append.mpr (.inl (h.within number hold))
      · right
        intro number hnumber
        rw [hnumbers.mem_iff, List.mem_cons]
        rcases mem_occupied_append.mp hnumber with hold | ⟨-, rfl⟩
        · exact .inr (hall number hold)
        · exact .inl rfl
      · rintro ⟨-, hnumber, hmem, -⟩
        apply hcontained
        rw [hnumber]
        refine hall _ ?_
        rw [occupied, List.mem_toFinset, List.mem_append]
        exact .inr hmem

/-- The decoded PDUs of a read, as the connection before the read decodes them. -/
def arrivingPackets (P : Platform) (con : Connection) : List Bytes → List RastaRedundancyPacket
  | [] => []
  | pdu :: rest =>
    Reception.packet P { con := con, buffer := pdu ++ rest.flatten } ::
      arrivingPackets P con rest

theorem receivePdu_numbers (channelId : ℕ) (buffer : Bytes) :
    ∃ more, (liveNumbers (receivePdu P middle channelId buffer).1.channel.deferQ).Perm
      (more ++ liveNumbers middle.channel.deferQ) := by
  obtain ⟨lasterror, hdispatched⟩ := receivePdu_dispatched P middle channelId buffer
  generalize receivePdu P middle channelId buffer = received at hdispatched
  cases hdispatched with
  | discarded _ queue _ => exact ⟨[], by rw [queue]; exact List.Perm.refl _⟩
  | queued _ recvTs queue why =>
    refine ⟨[(Reception.packet P { con := middle.con, buffer := buffer }).sequenceNumber.toUInt64],
      ?_⟩
    rw [queue]
    exact liveNumbers_add P why.room _ recvTs

theorem Doubled.mem (h : Doubled middle) :
    middle.channel.seqRx ∈ liveNumbers middle.channel.deferQ := by
  rw [← List.one_le_count_iff]
  exact Nat.le_of_succ_le h

/-- Nothing that is queued during a read leaves the queue. -/
theorem Doubled.receivePdus (h : Doubled middle) (channelId : ℕ) (pdus : List Bytes)
    (result : Bool) :
    Doubled (Redundancy.receivePdus P channelId [] pdus middle result).1 := by
  refine @receivePdus_rule P (fun after _ => Doubled after) channelId [] ?_ pdus middle result h
  intro before _ buffer hdoubled
  obtain ⟨more, hnumbers⟩ := @receivePdu_numbers P before channelId buffer
  rw [Doubled, (receivePdu_frame P before channelId buffer).seqRx, hnumbers.count_eq,
    List.count_append]
  exact Nat.le_add_left_of_le hdoubled

/-- A whole read. -/
theorem Accounted.receivePdus (h : Accounted endpoint front middle)
    (hsound : QueueSound endpoint.channel) (channelId : ℕ) (pdus : List Bytes) (result : Bool) :
    let packets := arrivingPackets P endpoint.con pdus
    let after := (Redundancy.receivePdus P channelId [] pdus middle result).1
    (Accounted endpoint (front ++ packets) after ∧ ¬ RepeatsExpected endpoint front packets) ∨
      (Doubled after ∧ RepeatsExpected endpoint front packets) := by
  induction pdus generalizing front middle result with
  | nil =>
    left
    refine ⟨?_, repeatsExpected_nil endpoint front⟩
    rw [arrivingPackets, List.append_nil]
    exact h
  | cons pdu rest ih =>
    have hstep := @Accounted.receivePdu P endpoint middle front h hsound channelId
      (pdu ++ (rest.flatten ++ []))
    rw [List.append_nil] at hstep
    simp only [arrivingPackets, Redundancy.receivePdus, List.append_nil, repeatsExpected_cons]
    rcases hstep with ⟨hfilled, hfresh⟩ | ⟨hdoubled, hrepeats⟩
    · rcases ih hfilled (result || (Redundancy.receivePdu P middle channelId
          (pdu ++ rest.flatten)).2) with ⟨hfilled', hfresh'⟩ | ⟨hdoubled', hrepeats'⟩
      · left
        rw [List.append_assoc] at hfilled'
        exact ⟨hfilled', by rintro (hnow | hlater); exacts [hfresh hnow, hfresh' hlater]⟩
      · exact .inr ⟨hdoubled', .inr hrepeats'⟩
    · exact .inr ⟨hdoubled.receivePdus channelId rest _, .inl hrepeats⟩

end Reading

section Delivering

variable (P : Platform)

/-- What the delivery loop needs to leave the queue sound. -/
structure Deliverable (endpoint : Endpoint) : Prop where
  nodup : (liveNumbers endpoint.channel.deferQ).Nodup
  notBehind : ∀ number ∈ liveNumbers endpoint.channel.deferQ, endpoint.channel.seqRx ≤ number

/-- A number that will never be delivered is queued. -/
def Stale (endpoint : Endpoint) : Prop :=
  ∃ number ∈ liveNumbers endpoint.channel.deferQ, number < endpoint.channel.seqRx

variable {P} {endpoint : Endpoint}

theorem liveNumbers_remove {queue : DeferQueue} {seqNr : UInt64} (h : seqNr ∈ liveNumbers queue) :
    (liveNumbers queue).Perm (seqNr :: liveNumbers (deferqueueRemove P queue seqNr)) := by
  have hcontains : deferqueueContains queue seqNr = true := by
    rw [deferqueueContains_iff]
    exact List.mem_map.mp h
  obtain ⟨element, hseq, hperm⟩ := deferqueueRemove_live P hcontains
  have hmapped := hperm.map seqNrOf
  rw [List.map_cons, hseq] at hmapped
  exact hmapped

/-- One round of the delivery loop. -/
theorem advance_handOver_channel (queuePacket : RastaRedundancyPacket) :
    (advance P (handOver P endpoint queuePacket).1).channel.deferQ =
        deferqueueRemove P endpoint.channel.deferQ endpoint.channel.seqRx ∧
      (advance P (handOver P endpoint queuePacket).1).channel.seqRx =
        endpoint.channel.seqRx + 1 := by
  obtain ⟨handover, -, hchannel⟩ := handOver_channel P endpoint queuePacket
  simp only [advance, hchannel, and_self]

theorem mem_liveNumbers {queue : DeferQueue} {element : RastaRedundancyPacketWrapper}
    {number : UInt64} (h : element ∈ queue.live) (hnumber : seqNrOf element = number) :
    number ∈ liveNumbers queue :=
  List.mem_map.mpr ⟨element, h, hnumber⟩

theorem Deliverable.advance (h : Deliverable endpoint)
    (hmem : endpoint.channel.seqRx ∈ liveNumbers endpoint.channel.deferQ)
    (queuePacket : RastaRedundancyPacket) :
    Deliverable (Redundancy.advance P (handOver P endpoint queuePacket).1) := by
  obtain ⟨hqueue, hseq⟩ := @advance_handOver_channel P endpoint queuePacket
  have hperm := @liveNumbers_remove P _ _ hmem
  have hnodup := h.nodup
  rw [hperm.nodup_iff, List.nodup_cons] at hnodup
  refine ⟨by rw [hqueue]; exact hnodup.2, ?_⟩
  rw [hqueue, hseq]
  intro number hnumber
  have hle := h.notBehind number (hperm.mem_iff.mpr (List.mem_cons_of_mem _ hnumber))
  have hne : endpoint.channel.seqRx.toNat ≠ number.toNat := by
    intro hsame
    exact hnodup.1 (UInt64.toNat_inj.mp hsame ▸ hnumber)
  have hlt := number.toNat_lt
  have hone : (1 : UInt64).toNat = 1 := rfl
  rw [UInt64.le_iff_toNat_le] at hle ⊢
  rw [UInt64.toNat_add]
  omega

/-- A number that was left behind stays behind. -/
theorem Stale.advance (h : Stale endpoint)
    (hmem : endpoint.channel.seqRx ∈ liveNumbers endpoint.channel.deferQ)
    (hgrows : endpoint.channel.seqRx < endpoint.channel.seqRx + 1)
    (queuePacket : RastaRedundancyPacket) :
    Stale (Redundancy.advance P (handOver P endpoint queuePacket).1) := by
  obtain ⟨hqueue, hseq⟩ := @advance_handOver_channel P endpoint queuePacket
  obtain ⟨number, hnumber, hlt⟩ := h
  rw [(@liveNumbers_remove P _ _ hmem).mem_iff, List.mem_cons] at hnumber
  rcases hnumber with rfl | hkept
  · exact absurd hlt (UInt64.lt_irrefl _)
  · refine ⟨number, by rw [hqueue]; exact hkept, ?_⟩
    rw [hseq]
    exact UInt64.lt_trans hlt hgrows

/-- Delivering one of two copies leaves the other behind. -/
theorem Doubled.advance (h : Doubled endpoint)
    (hgrows : endpoint.channel.seqRx < endpoint.channel.seqRx + 1)
    (queuePacket : RastaRedundancyPacket) :
    Stale (Redundancy.advance P (handOver P endpoint queuePacket).1) := by
  obtain ⟨hqueue, hseq⟩ := @advance_handOver_channel P endpoint queuePacket
  have hcount := (@liveNumbers_remove P _ _ h.mem).count_eq endpoint.channel.seqRx
  rw [List.count_cons_self] at hcount
  refine ⟨endpoint.channel.seqRx, ?_, by rw [hseq]; exact hgrows⟩
  rw [hqueue, ← List.one_le_count_iff]
  rw [Doubled] at h
  omega

theorem deliverLoop_deliverable (h : Deliverable endpoint) (rounds : ℕ) (result : Bool) :
    (deliverLoop P rounds endpoint result).1.con.aborted = true ∨
      Deliverable (deliverLoop P rounds endpoint result).1 := by
  refine @deliverLoop_rule P Deliverable (fun after => after.con.aborted = true ∨ Deliverable after)
    (fun _ hdeliverable => .inr hdeliverable) ?_ rounds endpoint result h
  intro middle element hmiddle hlive hseq
  exact ⟨.inl, fun _ => hmiddle.advance (mem_liveNumbers hlive hseq) element.packet⟩

theorem deliverLoop_stale (h : Stale endpoint) (rounds : ℕ) (result : Bool) :
    (deliverLoop P rounds endpoint result).1.con.aborted = true ∨
      Stale (deliverLoop P rounds endpoint result).1 := by
  refine @deliverLoop_rule P Stale (fun after => after.con.aborted = true ∨ Stale after)
    (fun _ hstale => .inr hstale) ?_ rounds endpoint result h
  intro middle element hmiddle hlive hseq
  exact ⟨.inl, fun _ => hmiddle.advance (mem_liveNumbers hlive hseq) (lt_seqRx_add_one hseq)
    element.packet⟩

theorem redFDeliverDeferQueue_doubled (h : Doubled endpoint) :
    (redFDeliverDeferQueue P endpoint).1.con.aborted = true ∨
      Stale (redFDeliverDeferQueue P endpoint).1 := by
  have hcontains : deferqueueContains endpoint.channel.deferQ endpoint.channel.seqRx = true :=
    (deferqueueContains_iff _ _).mpr (List.mem_map.mp h.mem)
  obtain ⟨rounds, hrounds⟩ : ∃ rounds, endpoint.channel.deferQ.count = rounds + 1 :=
    ⟨_, (deferqueueRemove_count P hcontains).symm⟩
  obtain ⟨element, -, hseq, hget⟩ := deferqueueGet_spec hcontains
  unfold redFDeliverDeferQueue
  rw [hrounds]
  unfold deliverLoop
  rw [if_pos hcontains]
  simp only [hget, Option.getD_some]
  split
  · exact .inl ‹_›
  · exact deliverLoop_stale (h.advance (lt_seqRx_add_one hseq) element.packet) rounds _

theorem Deliverable.sound (h : Deliverable endpoint)
    (hdrained : deferqueueContains endpoint.channel.deferQ endpoint.channel.seqRx = false) :
    QueueSound endpoint.channel := by
  refine ⟨endpoint.channel.deferQ.count_le, h.nodup, ?_⟩
  intro number hnumber
  refine UInt64.lt_of_le_of_ne (h.notBehind number hnumber) ?_
  rintro rfl
  have hcontains := (deferqueueContains_iff _ _).mpr (List.mem_map.mp hnumber)
  rw [hdrained] at hcontains
  cases hcontains

theorem Stale.not_sound (h : Stale endpoint) : ¬ QueueSound endpoint.channel := by
  intro hsound
  obtain ⟨number, hnumber, hlt⟩ := h
  exact absurd (UInt64.lt_trans hlt (hsound.ahead number hnumber)) (UInt64.lt_irrefl _)

theorem deliverAfter_sound {received : Endpoint × Bool} (h : Deliverable received.1)
    (hflag : Flagged received.1 received.2) :
    (deliverAfter P received).con.aborted = true ∨
      QueueSound (deliverAfter P received).channel := by
  rcases deliverAfter_drained P hflag with haborted | hdrained
  · exact .inl haborted
  · unfold deliverAfter at hdrained ⊢
    split at hdrained
    · rw [if_pos ‹_›]
      exact (deliverLoop_deliverable h _ _).imp_right fun hdone => hdone.sound hdrained
    · rw [if_neg ‹_›]
      exact .inr (h.sound hdrained)

theorem deliverAfter_doubled {received : Endpoint × Bool} (h : Doubled received.1)
    (hflag : Flagged received.1 received.2) :
    (deliverAfter P received).con.aborted = true ∨
      ¬ QueueSound (deliverAfter P received).channel := by
  have hresult : received.2 = true :=
    hflag.mpr ((deferqueueContains_iff _ _).mpr (List.mem_map.mp h.mem))
  rw [deliverAfter, if_pos hresult]
  exact (redFDeliverDeferQueue_doubled h).imp_right Stale.not_sound

end Delivering

section Runs

variable (P : Platform)

/-- A read that consists of whole PDUs. -/
structure WholeRead where
  channelId : ℕ
  pdus : List Bytes
  framed : ∀ pdu ∈ pdus, Framed P pdu
  length_lt : pdus.flatten.length < 2 ^ 64

variable {P}

def WholeRead.read (whole : WholeRead P) : Read where
  channelId := whole.channelId
  buffer := whole.pdus.flatten
  length_lt := whole.length_lt

variable (P) (rounds : ℕ)

/-- The queue is sound in every state of the run. -/
def SoundThroughout (endpoint : Endpoint) (reads : List (WholeRead P)) : Prop :=
  ∀ front back reached, reads = front ++ back →
    receiveEvents P rounds endpoint (front.map WholeRead.read) = some reached →
    QueueSound reached.channel

/-- No read of the run brings the expected PDU a second time while there is a place left. -/
def NeverRepeated (endpoint : Endpoint) (reads : List (WholeRead P)) : Prop :=
  ∀ front whole back reached, reads = front ++ whole :: back →
    receiveEvents P rounds endpoint (front.map WholeRead.read) = some reached →
    ¬ RepeatsExpected reached [] (arrivingPackets P reached.con whole.pdus)

variable {P rounds} {endpoint : Endpoint}

theorem channelReceiveEvent_whole (whole : WholeRead P) (hrounds : whole.pdus.length ≤ rounds)
    (hrunning : endpoint.con.aborted = false) :
    channelReceiveEvent P rounds endpoint whole.read = some (deliverAfter P
      (receivePdus P whole.channelId [] whole.pdus
        (runChannelDiagnostics endpoint whole.channelId) false)) :=
  @channelReceiveEvent_framed P whole.read whole.pdus rounds endpoint rfl whole.framed hrounds
    hrunning

/-- One complete receive event. -/
theorem channelReceiveEvent_sound_iff (hsound : QueueSound endpoint.channel) (whole : WholeRead P)
    (hrounds : whole.pdus.length ≤ rounds) (hrunning : endpoint.con.aborted = false) :
    ∃ after, channelReceiveEvent P rounds endpoint whole.read = some after ∧
      (after.con.aborted = false → (QueueSound after.channel ↔
        ¬ RepeatsExpected endpoint [] (arrivingPackets P endpoint.con whole.pdus))) := by
  refine ⟨_, channelReceiveEvent_whole whole hrounds hrunning, ?_⟩
  obtain ⟨hdiagnostics, hqueue⟩ := runChannelDiagnostics_frame endpoint whole.channelId
  have habsent : deferqueueContains endpoint.channel.deferQ endpoint.channel.seqRx = false := by
    rw [← Bool.not_eq_true, deferqueueContains_iff]
    intro hcontains
    exact absurd (hsound.ahead _ (List.mem_map.mpr hcontains)) (UInt64.lt_irrefl _)
  have hstart : Accounted endpoint [] (runChannelDiagnostics endpoint whole.channelId) := by
    have hframe : ReadFrame endpoint (runChannelDiagnostics endpoint whole.channelId) :=
      @ReceiveFrame.readFrame endpoint _ endpoint.con.lasterror hdiagnostics
    refine ⟨hframe, by rw [hqueue], by rw [hqueue]; exact hsound.nodup, ?_, .inr ?_⟩
    · intro number hnumber
      rw [hqueue] at hnumber
      simpa [occupied, admissibleNumbers] using hnumber
    · intro number hnumber
      rw [hqueue]
      simpa [occupied, admissibleNumbers] using hnumber
  have hflag := receivePdus_flagged P whole.channelId [] whole.pdus
    (runChannelDiagnostics_absent whole.channelId habsent)
  have hread := @Accounted.receivePdus P endpoint _ [] hstart hsound whole.channelId whole.pdus false
  simp only [List.nil_append] at hread
  intro hcomplete
  rcases hread with ⟨hfilled, hfresh⟩ | ⟨hdoubled, hrepeats⟩
  · have hdeliverable : Deliverable (receivePdus P whole.channelId [] whole.pdus
        (runChannelDiagnostics endpoint whole.channelId) false).1 := by
      refine ⟨hfilled.nodup, fun number hnumber => ?_⟩
      rw [hfilled.frame.seqRx]
      have hmem := hfilled.within number hnumber
      rw [occupied, List.mem_toFinset, List.mem_append] at hmem
      rcases hmem with hold | hnew
      · exact UInt64.le_of_lt (hsound.ahead number hold)
      · obtain ⟨packet, hpacket, rfl⟩ := List.mem_map.mp hnew
        obtain ⟨-, -, -, hnext | ⟨hahead, -⟩⟩ := of_decide_eq_true (List.mem_filter.mp hpacket).2
        · rw [hnext]
          exact UInt64.le_refl _
        · exact UInt64.le_of_lt hahead
    refine iff_of_true ?_ hfresh
    rcases deliverAfter_sound hdeliverable hflag with haborted | hafter
    · rw [hcomplete] at haborted
      cases haborted
    · exact hafter
  · refine iff_of_false ?_ (not_not_intro hrepeats)
    rcases deliverAfter_doubled hdoubled hflag with haborted | hafter
    · rw [hcomplete] at haborted
      cases haborted
    · exact hafter

theorem receiveEvents_cons_iff (read : Read) (rest : List Read) {after : Endpoint} :
    receiveEvents P rounds endpoint (read :: rest) = some after ↔
      ∃ middle, channelReceiveEvent P rounds endpoint read = some middle ∧
        receiveEvents P rounds middle rest = some after := by
  simp only [receiveEvents, List.foldlM_cons, Option.bind_eq_bind, Option.bind_eq_some_iff]

theorem receiveEvents_of_first {read : Read} {rest : List Read} {middle after : Endpoint}
    (hmiddle : channelReceiveEvent P rounds endpoint read = some middle) :
    receiveEvents P rounds endpoint (read :: rest) = some after ↔
      receiveEvents P rounds middle rest = some after := by
  rw [receiveEvents_cons_iff, hmiddle]
  simp

/-- An aborted process stays so. -/
theorem receiveEvents_aborted {reads : List Read} {after : Endpoint}
    (h : endpoint.con.aborted = true)
    (hrun : receiveEvents P rounds endpoint reads = some after) : after.con.aborted = true := by
  induction reads generalizing endpoint with
  | nil =>
    obtain rfl := Option.some.inj hrun
    exact h
  | cons read rest ih =>
    obtain ⟨middle, hmiddle, hrest⟩ := (receiveEvents_cons_iff read rest).mp hrun
    rw [channelReceiveEvent, if_pos h] at hmiddle
    obtain rfl := Option.some.inj hmiddle
    exact ih h hrest

theorem running_of_receiveEvents {reads : List Read} {after : Endpoint}
    (hrun : receiveEvents P rounds endpoint reads = some after)
    (hrunning : after.con.aborted = false) : endpoint.con.aborted = false := by
  rw [← Bool.not_eq_true]
  intro haborted
  rw [receiveEvents_aborted haborted hrun] at hrunning
  cases hrunning

theorem soundThroughout_cons {whole : WholeRead P} {rest : List (WholeRead P)} {middle : Endpoint}
    (hmiddle : channelReceiveEvent P rounds endpoint whole.read = some middle)
    (hsound : QueueSound endpoint.channel) :
    SoundThroughout P rounds endpoint (whole :: rest) ↔ SoundThroughout P rounds middle rest := by
  constructor
  · intro h front back reached hsplit hreached
    refine h (whole :: front) back reached (by rw [hsplit]; rfl) ?_
    exact (receiveEvents_of_first hmiddle).mpr hreached
  · intro h front back reached hsplit hreached
    cases front with
    | nil =>
      obtain rfl := Option.some.inj hreached
      exact hsound
    | cons first front =>
      obtain ⟨rfl, hrest⟩ := List.cons.inj hsplit
      exact h front back reached hrest ((receiveEvents_of_first hmiddle).mp hreached)

theorem neverRepeated_cons {whole : WholeRead P} {rest : List (WholeRead P)} {middle : Endpoint}
    (hmiddle : channelReceiveEvent P rounds endpoint whole.read = some middle) :
    NeverRepeated P rounds endpoint (whole :: rest) ↔
      ¬ RepeatsExpected endpoint [] (arrivingPackets P endpoint.con whole.pdus) ∧
        NeverRepeated P rounds middle rest := by
  constructor
  · intro h
    refine ⟨h [] whole rest endpoint rfl rfl, fun front next back reached hsplit hreached => ?_⟩
    refine h (whole :: front) next back reached (by rw [hsplit]; rfl) ?_
    exact (receiveEvents_of_first hmiddle).mpr hreached
  · rintro ⟨hfirst, h⟩ front next back reached hsplit hreached
    cases front with
    | nil =>
      obtain rfl := Option.some.inj hreached
      obtain ⟨rfl, -⟩ := List.cons.inj hsplit
      exact hfirst
    | cons first front =>
      obtain ⟨rfl, hrest⟩ := List.cons.inj hsplit
      exact h front next back reached hrest ((receiveEvents_of_first hmiddle).mp hreached)

theorem soundThroughout_iff (reads : List (WholeRead P))
    (hrounds : ∀ whole ∈ reads, whole.pdus.length ≤ rounds)
    (hsound : QueueSound endpoint.channel) {after : Endpoint}
    (hrun : receiveEvents P rounds endpoint (reads.map WholeRead.read) = some after)
    (hrunning : after.con.aborted = false) :
    SoundThroughout P rounds endpoint reads ↔ NeverRepeated P rounds endpoint reads := by
  induction reads generalizing endpoint with
  | nil =>
    refine iff_of_true ?_ ?_
    · intro front back reached hsplit hreached
      obtain ⟨rfl, -⟩ := List.append_eq_nil_iff.mp hsplit.symm
      obtain rfl := Option.some.inj hreached
      exact hsound
    · intro front whole back reached hsplit
      simp at hsplit
  | cons whole rest ih =>
    obtain ⟨middle, hmiddle, hrest⟩ := (receiveEvents_cons_iff _ _).mp hrun
    have hcomplete : middle.con.aborted = false := running_of_receiveEvents hrest hrunning
    have hevent := channelReceiveEvent_sound_iff hsound whole (hrounds whole List.mem_cons_self)
      (running_of_receiveEvents hrun hrunning)
    obtain ⟨middle', hmiddle', hiff⟩ := hevent
    rw [hmiddle] at hmiddle'
    obtain rfl := Option.some.inj hmiddle'
    rw [soundThroughout_cons hmiddle hsound, neverRepeated_cons hmiddle, ← hiff hcomplete]
    constructor
    · intro hthroughout
      have hnow : QueueSound middle.channel := hthroughout [] rest middle rfl rfl
      exact ⟨hnow, (ih (fun next hnext => hrounds next (List.mem_cons_of_mem whole hnext)) hnow
        hrest).mp hthroughout⟩
    · rintro ⟨hnow, hnever⟩
      exact (ih (fun next hnext => hrounds next (List.mem_cons_of_mem whole hnext)) hnow
        hrest).mpr hnever

theorem redundancyChannelInit_sound (start : Endpoint) :
    QueueSound (redundancyChannelInit start).channel := by
  have hempty : liveNumbers (redundancyChannelInit start).channel.deferQ = [] := by
    simp [liveNumbers, redundancyChannelInit, deferqueueClear, DeferQueue.live]
  refine ⟨DeferQueue.count_le _, by rw [hempty]; exact List.nodup_nil, ?_⟩
  rw [hempty]
  simp

/-- For every run of complete receive events on reads of whole PDUs after
`redundancy_channel_init`: the defer queue is sound in every state of the run if and only if no
read brings the expected PDU a second time while there is a place left. -/
theorem defer_queue_sound_iff (P : Platform) (start : Endpoint) (reads : List (WholeRead P))
    (rounds : ℕ) (hrounds : ∀ whole ∈ reads, whole.pdus.length ≤ rounds) (after : Endpoint)
    (hrun : receiveEvents P rounds (redundancyChannelInit start) (reads.map WholeRead.read) =
      some after)
    (hrunning : after.con.aborted = false) :
    SoundThroughout P rounds (redundancyChannelInit start) reads ↔
      NeverRepeated P rounds (redundancyChannelInit start) reads :=
  soundThroughout_iff reads hrounds (redundancyChannelInit_sound start) hrun hrunning

end Runs

section Example

/-- The first PDU of the peer. -/
def exampleOnce : WholeRead referencePlatform where
  channelId := 0
  pdus := [examplePdu 0]
  framed := by decide +kernel
  length_lt := by decide +kernel

/-- The first PDU of the peer, twice in one read. -/
def exampleTwice : WholeRead referencePlatform where
  channelId := 0
  pdus := [examplePdu 0, examplePdu 0]
  framed := by decide +kernel
  length_lt := by decide +kernel

theorem defer_queue_sound_iff_once :
    ∃ after, receiveEvents referencePlatform 1 (redundancyChannelInit exampleFresh)
        [exampleOnce.read] = some after ∧ after.con.aborted = false ∧
      (SoundThroughout referencePlatform 1 (redundancyChannelInit exampleFresh) [exampleOnce] ↔
        NeverRepeated referencePlatform 1 (redundancyChannelInit exampleFresh) [exampleOnce]) := by
  have hend : (receiveEvents referencePlatform 1 (redundancyChannelInit exampleFresh)
      [exampleOnce.read]).map (fun after => after.con.aborted) = some false := by decide +kernel
  obtain ⟨after, hrun, hrunning⟩ := Option.map_eq_some_iff.mp hend
  exact ⟨after, hrun, hrunning, defer_queue_sound_iff referencePlatform exampleFresh [exampleOnce] 1
    (by decide) after hrun hrunning⟩

/-- Of two copies of PDU 0 in one read, one is delivered, and the other stays in the queue with a
number below `seq_rx`. -/
theorem repeated_pdu_left_behind :
    (receiveEvents referencePlatform 2 (redundancyChannelInit exampleFresh)
        [exampleTwice.read]).map (fun after =>
          (after.con.aborted, liveNumbers after.channel.deferQ, after.channel.seqRx)) =
      some (false, [0], 1) ∧
    ¬ SoundThroughout referencePlatform 2 (redundancyChannelInit exampleFresh) [exampleTwice] := by
  have hend : (receiveEvents referencePlatform 2 (redundancyChannelInit exampleFresh)
      [exampleTwice.read]).map (fun after =>
        (after.con.aborted, liveNumbers after.channel.deferQ, after.channel.seqRx)) =
      some (false, [0], 1) := by decide +kernel
  refine ⟨hend, fun hthroughout => ?_⟩
  obtain ⟨after, hrun, hafter⟩ := Option.map_eq_some_iff.mp hend
  have hsound := hthroughout [exampleTwice] [] after rfl hrun
  obtain ⟨-, hnumbers, hseq⟩ : _ ∧ liveNumbers after.channel.deferQ = [0] ∧
      after.channel.seqRx = 1 := by simpa using hafter
  have hahead := hsound.ahead 0 (by rw [hnumbers]; exact List.mem_singleton_self 0)
  rw [hseq] at hahead
  exact absurd hahead (by decide)

end Example

end LibRasta.Redundancy
