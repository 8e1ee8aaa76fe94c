/-
Module: LibRasta/Redundancy/Segmentation.lean
source: src/c/redundancy/rasta_red_multiplexer.c, src/c/redundancy/rastaredundancy.c, src/c/transport/events.c
digest: The bytes of a peer's PDUs cut into reads: how many PDUs of a read get into the defer queue, why a read that ends inside a PDU is never processed to its end, and exactly which cuts hand over the same packets as one PDU a read.
-/

import LibRasta.Redundancy.ExactlyOnce

set_option autoImplicit false
set_option relaxedAutoImplicit false

namespace LibRasta.Redundancy

open LibRasta.Util
open LibRasta.Retransmission

/-- How far ahead of the expected number `red_f_receiveData` defers; the product is one of
`unsigned int`. -/
def windowSize (config : RastaConfigInfo) : ℕ := (config.nDeferqueueSize * 10).toNat

/-- How many consecutive PDUs, from the expected one on, a read can bring into an empty queue:
before the first PDU of a session was delivered, and with nothing sent yet, no other number is
taken. -/
def readLimit (capacity window : ℕ) (fresh : Bool) : ℕ :=
  if fresh then min capacity 1 else min capacity (window + 1)

/-- The rule on the first PDU of a session is in force. -/
def isFresh (endpoint : Endpoint) : Bool :=
  decide (endpoint.channel.seqRx = 0 ∧ endpoint.con.seqTx = 0)

section Filling

variable (P : Platform) {config : RastaConfigInfo} (T : Transmission config)

/-- The channel expects PDU `first`, and exactly the `count` PDUs from there on are queued. -/
structure Filled (first count capacity : ℕ) (endpoint : Endpoint) : Prop where
  resequenced : Resequenced P T True (List.range (first + count)) endpoint
  seqRx : endpoint.channel.seqRx.toNat = first
  count : endpoint.channel.deferQ.count = count
  capacity : endpoint.channel.deferQ.maxCount = capacity

variable {P T} {first count capacity : ℕ} {endpoint : Endpoint}

theorem windowEnd_toNat (hconfig : endpoint.con.config = config)
    (hsmall : endpoint.channel.seqRx.toNat < 2 ^ 32) :
    (windowEnd endpoint).toNat = endpoint.channel.seqRx.toNat + windowSize config := by
  have hlt := (config.nDeferqueueSize * 10).toNat_lt
  unfold windowEnd windowSize
  rw [hconfig, UInt64.toNat_add, UInt32.toNat_toUInt64]
  omega

theorem isFresh_frame {after : Endpoint} (hframe : ReceiveFrame endpoint after) :
    isFresh after = isFresh endpoint := by
  obtain ⟨⟨reads, hcon⟩, -, hseq, -⟩ := hframe
  have htx : after.con.seqTx = endpoint.con.seqTx := by rw [hcon]
  unfold isFresh
  rw [hseq, htx]

/-- PDU `first + j` enters the queue exactly if the read has not reached its limit. -/
theorem Filled.enters_iff {j : ℕ} (h : Filled P T first (min j (readLimit capacity
      (windowSize config) (isFresh endpoint))) capacity endpoint)
    {packet : RastaRedundancyPacket} (hcopy : T.Copy P (first + j) packet) :
    (Enters endpoint packet ↔
        j < readLimit capacity (windowSize config) (isFresh endpoint)) ∧
      (j < readLimit capacity (windowSize config) (isFresh endpoint) →
        ¬ Discards endpoint packet) := by
  have hnumber := hcopy.sequenceNumber
  have hfew := T.few
  have hlt := hcopy.lt
  have hseq := h.seqRx
  have hcapacity := h.capacity
  have hcount := h.count
  have hend := windowEnd_toNat h.resequenced.idle.config (by omega)
  have hfull : deferqueueIsfull endpoint.channel.deferQ = true ↔
      min j (readLimit capacity (windowSize config) (isFresh endpoint)) = capacity := by
    rw [deferqueueIsfull, beq_iff_eq, hcount, hcapacity]
  have hzero : packet.sequenceNumber = 0 ↔ first + j = 0 := by
    rw [← hnumber, UInt32.toNat_toUInt64, ← UInt32.toNat_inj]
    rfl
  have hrule : FirstPduRule endpoint packet ↔ isFresh endpoint = true ∧ first + j ≠ 0 := by
    unfold FirstPduRule isFresh
    rw [decide_eq_true_eq, ne_eq, hzero, and_assoc]
  have hfresh : isFresh endpoint = true → first = 0 := by
    intro hf
    have hnone := (decide_eq_true_eq.mp hf).1
    rw [← hseq, hnone]
    rfl
  have hwindow : packet.sequenceNumber.toUInt64 ≤ windowEnd endpoint ↔
      j ≤ windowSize config := by
    rw [UInt64.le_iff_toNat_le, hend, hnumber, hseq]
    omega
  have hexpected : packet.sequenceNumber.toUInt64 = endpoint.channel.seqRx ↔ j = 0 := by
    rw [← UInt64.toNat_inj, hnumber, hseq]
    omega
  -- whether the limit is reached, for both states of the rule on the first PDU
  have hlimit : (isFresh endpoint = true ∧
        readLimit capacity (windowSize config) (isFresh endpoint) = min capacity 1) ∨
      (isFresh endpoint = false ∧
        readLimit capacity (windowSize config) (isFresh endpoint) =
          min capacity (windowSize config + 1)) := by
    cases hf : isFresh endpoint
    · exact .inr ⟨rfl, rfl⟩
    · exact .inl ⟨rfl, rfl⟩
  generalize readLimit capacity (windowSize config) (isFresh endpoint) = limit at *
  have hnotDiscarded : j < limit → ¬ Discards endpoint packet := by
    intro hj
    rintro (hfull' | hrule' | hbeyond)
    · have hcap := hfull.mp hfull'
      omega
    · obtain ⟨hf, hnonzero⟩ := hrule.mp hrule'
      have hfirst := hfresh hf
      rcases hlimit with ⟨-, heq⟩ | ⟨hstale, -⟩
      · omega
      · rw [hf] at hstale
        cases hstale
    · have hle : ¬ j ≤ windowSize config := fun h =>
        absurd (hwindow.mpr h) (UInt64.not_le.mpr hbeyond)
      omega
  refine ⟨⟨?_, ?_⟩, hnotDiscarded⟩
  · intro henters
    by_contra hj
    have hroom : ¬ min j limit = capacity := by
      intro hcap
      have hfull' := hfull.mpr hcap
      rw [henters.room] at hfull'
      cases hfull'
    rcases hlimit with ⟨hf, heq⟩ | ⟨hf, heq⟩
    · exact henters.notFirst (hrule.mpr ⟨hf, by omega⟩)
    · rcases henters.wanted with hnext | ⟨-, hle, -⟩
      · have hj0 := hexpected.mp hnext
        omega
      · have hle' := hwindow.mp hle
        omega
  · intro hj
    have hkept := hnotDiscarded hj
    have hroom : deferqueueIsfull endpoint.channel.deferQ = false := by
      by_contra hfull'
      exact hkept (.inl (by simpa using hfull'))
    refine ⟨h.resequenced.associatedId.trans hcopy.sender, hroom, hcopy.checksumCorrect,
      fun hr => hkept (.inr (.inl hr)), ?_⟩
    by_cases hj0 : j = 0
    · exact .inl (hexpected.mpr hj0)
    · refine .inr ⟨?_, ?_, ?_⟩
      · rw [UInt64.lt_iff_toNat_lt, hnumber, hseq]
        omega
      · by_contra hbeyond
        exact hkept (.inr (.inr (UInt64.not_le.mp hbeyond)))
      · -- the queue holds smaller numbers only
        by_contra hcontains
        have hcontains' : deferqueueContains endpoint.channel.deferQ
            packet.sequenceNumber.toUInt64 = true := by simpa using hcontains
        obtain ⟨element, hmem, hsame⟩ := (deferqueueContains_iff _ _).mp hcontains'
        obtain ⟨i, hi, hcopyI⟩ := h.resequenced.queued element hmem
        have hnumberI := hcopyI.sequenceNumber
        have hi' := List.mem_range.mp hi
        rw [seqNrOf] at hsame
        rw [hsame, hnumber] at hnumberI
        omega

/-- The next PDU of a read of consecutive ones. -/
theorem Filled.receivePdu {j : ℕ} (h : Filled P T first (min j (readLimit capacity
      (windowSize config) (isFresh endpoint))) capacity endpoint)
    (i : Fin (T.pdus P).length) (hi : i.val = first + j) (rest : Bytes) (channelId : ℕ) :
    Filled P T first (min (j + 1) (readLimit capacity (windowSize config) (isFresh endpoint)))
        capacity (receivePdu P endpoint channelId ((T.pdus P).get i ++ rest)).1 ∧
      isFresh (receivePdu P endpoint channelId ((T.pdus P).get i ++ rest)).1 =
        isFresh endpoint := by
  have hcrc : endpoint.con.config.crcType = config.crcType := by
    rw [h.resequenced.idle.config]
  obtain ⟨packet, hcopy, hpacket, hdispatched⟩ :=
    T.receivePdu_copy i rest hcrc h.resequenced.idle.srChecksumLen channelId
  rw [hi] at hcopy
  obtain ⟨henters, hkept⟩ := h.enters_iff hcopy
  refine ⟨?_, isFresh_frame (hdispatched.frame P)⟩
  by_cases hj : j < readLimit capacity (windowSize config) (isFresh endpoint)
  · have harrived := h.resequenced.receivePdu i rest channelId
      (fun _ => by rw [← hpacket]; exact hkept hj)
    have hbefore : min j (readLimit capacity (windowSize config) (isFresh endpoint)) = j := by
      omega
    have hafter : min (j + 1) (readLimit capacity (windowSize config) (isFresh endpoint)) =
        j + 1 := by omega
    have hrange : List.range (first + j) ++ [i.val] = List.range (first + (j + 1)) := by
      rw [hi, ← Nat.add_assoc, List.range_succ]
    rw [hbefore] at harrived
    rw [hafter]
    rw [hrange] at harrived
    generalize LibRasta.Redundancy.receivePdu P endpoint channelId
      ((T.pdus P).get i ++ rest) = received at hdispatched harrived
    cases hdispatched with
    | discarded _ _ why => exact absurd (henters.mpr hj) why
    | queued frame recvTs queue why =>
      have hroom : endpoint.channel.deferQ.count ≠ endpoint.channel.deferQ.maxCount := by
        simpa [deferqueueIsfull] using why.room
      refine ⟨harrived, ?_, ?_, ?_⟩
      · rw [frame.seqRx]
        exact h.seqRx
      · rw [queue, deferqueueAdd_count P hroom, h.count, hbefore]
      · rw [queue, deferqueueAdd_maxCount, h.capacity]
  · have hsame : min (j + 1) (readLimit capacity (windowSize config) (isFresh endpoint)) =
        min j (readLimit capacity (windowSize config) (isFresh endpoint)) := by omega
    rw [hsame]
    generalize LibRasta.Redundancy.receivePdu P endpoint channelId
      ((T.pdus P).get i ++ rest) = received at hdispatched
    cases hdispatched with
    | discarded frame queue _ =>
      refine ⟨h.resequenced.frame frame queue, ?_, ?_, ?_⟩
      · rw [frame.seqRx]
        exact h.seqRx
      · rw [queue]
        exact h.count
      · rw [queue]
        exact h.capacity
    | queued _ _ _ why => exact absurd (henters.mp why) hj

/-- All PDUs of a read. -/
theorem Filled.receivePdus (numbers : List (Fin (T.pdus P).length)) {j : ℕ} (channelId : ℕ)
    (result : Bool) (h : Filled P T first (min j (readLimit capacity (windowSize config)
      (isFresh endpoint))) capacity endpoint)
    (hnumbers : numbers.map Fin.val = List.range' (first + j) numbers.length) :
    Filled P T first (min (j + numbers.length) (readLimit capacity (windowSize config)
      (isFresh endpoint))) capacity
      (receivePdus P channelId [] (numbers.map (T.pdus P).get) endpoint result).1 := by
  induction numbers generalizing j endpoint result with
  | nil => simpa [LibRasta.Redundancy.receivePdus] using h
  | cons i rest ih =>
    rw [List.length_cons, List.range'_succ, List.map_cons] at hnumbers
    obtain ⟨hi, hrest⟩ := List.cons.inj hnumbers
    obtain ⟨hfirst, hfresh⟩ := h.receivePdu i hi (rest.map (T.pdus P).get).flatten channelId
    rw [← hfresh] at hfirst
    have hlater := ih (result || (LibRasta.Redundancy.receivePdu P endpoint channelId
      ((T.pdus P).get i ++ (rest.map (T.pdus P).get).flatten)).2) hfirst
      (by rw [← Nat.add_assoc]; exact hrest)
    rw [hfresh, Nat.add_assoc, Nat.add_comm 1] at hlater
    simp only [List.map_cons, LibRasta.Redundancy.receivePdus, List.append_nil, List.length_cons]
    exact hlater

/-- Each round of the delivery loop removes one element and counts `seq_rx` up. -/
theorem advance_handOver_counts {arrived : List ℕ} (h : Resequenced P T True arrived endpoint)
    {element : RastaRedundancyPacketWrapper} (hmem : element ∈ endpoint.channel.deferQ.live)
    (hseq : seqNrOf element = endpoint.channel.seqRx) :
    (advance P (handOver P endpoint element.packet).1).channel.deferQ.count +
          (advance P (handOver P endpoint element.packet).1).channel.seqRx.toNat =
        endpoint.channel.deferQ.count + endpoint.channel.seqRx.toNat ∧
      (advance P (handOver P endpoint element.packet).1).channel.deferQ.maxCount =
        endpoint.channel.deferQ.maxCount := by
  have hfew := T.few
  have hreached := h.reached
  have hcontains : deferqueueContains endpoint.channel.deferQ endpoint.channel.seqRx = true :=
    (deferqueueContains_iff _ _).mpr ⟨element, hmem, hseq⟩
  have hcount := deferqueueRemove_count P hcontains
  have hnext : (endpoint.channel.seqRx + 1).toNat = endpoint.channel.seqRx.toNat + 1 := by
    have hone : (1 : UInt64).toNat = 1 := rfl
    rw [UInt64.toNat_add, hone]
    omega
  obtain ⟨handover, -, hchannel⟩ := handOver_channel P endpoint element.packet
  generalize handOver P endpoint element.packet = handed at hchannel
  have hqueue : (advance P handed.1).channel.deferQ =
      deferqueueRemove P endpoint.channel.deferQ endpoint.channel.seqRx := by
    change deferqueueRemove P handed.1.channel.deferQ handed.1.channel.seqRx = _
    rw [hchannel]
  have hseqRx : (advance P handed.1).channel.seqRx = endpoint.channel.seqRx + 1 := by
    rw [advance_seqRx, hchannel]
  rw [hqueue, hseqRx, hnext, deferqueueRemove_maxCount]
  exact ⟨by omega, rfl⟩

/-- The delivery after a read empties the queue, unless the process is aborted. -/
theorem Filled.deliverAfter {received : Endpoint × Bool}
    (h : Filled P T first count capacity received.1) (hflag : Flagged received.1 received.2) :
    (deliverAfter P received).con.aborted = true ∨
      Filled P T (first + count) 0 capacity (deliverAfter P received) := by
  have hdrained := deliverAfter_drained P hflag
  -- every round moves one PDU from the queue to the upper layer
  have hkept : (LibRasta.Redundancy.deliverAfter P received).con.aborted = true ∨
      Resequenced P T True (List.range (first + count))
          (LibRasta.Redundancy.deliverAfter P received) ∧
        (LibRasta.Redundancy.deliverAfter P received).channel.deferQ.count +
            (LibRasta.Redundancy.deliverAfter P received).channel.seqRx.toNat = first + count ∧
        (LibRasta.Redundancy.deliverAfter P received).channel.deferQ.maxCount = capacity := by
    have hstart : received.1.channel.deferQ.count + received.1.channel.seqRx.toNat =
        first + count := by
      rw [h.count, h.seqRx, Nat.add_comm]
    unfold LibRasta.Redundancy.deliverAfter
    split
    · refine @deliverLoop_rule P
        (fun e => Resequenced P T True (List.range (first + count)) e ∧
          e.channel.deferQ.count + e.channel.seqRx.toNat = first + count ∧
          e.channel.deferQ.maxCount = capacity)
        (fun e => e.con.aborted = true ∨
          Resequenced P T True (List.range (first + count)) e ∧
            e.channel.deferQ.count + e.channel.seqRx.toNat = first + count ∧
            e.channel.deferQ.maxCount = capacity)
        (fun _ he => .inr he) ?_ _ _ _ ⟨h.resequenced, hstart, h.capacity⟩
      rintro e element ⟨hreseq, hsum, hcapacity⟩ hmem hseq
      refine ⟨fun haborted => .inl haborted, fun hrunning => ?_⟩
      obtain ⟨hcounts, hmax⟩ := advance_handOver_counts hreseq hmem hseq
      exact ⟨hreseq.advance hmem hseq hrunning, hcounts.trans hsum, hmax.trans hcapacity⟩
    · exact .inr ⟨h.resequenced, hstart, h.capacity⟩
  rcases hkept with haborted | ⟨hreseq, hsum, hcapacity⟩
  · exact .inl haborted
  rcases hdrained with haborted | habsent
  · exact .inl haborted
  right
  have hreached : (LibRasta.Redundancy.deliverAfter P received).channel.seqRx.toNat =
      first + count := by
    by_contra hne
    have hmem : (LibRasta.Redundancy.deliverAfter P received).channel.seqRx.toNat ∈
        List.range (first + count) := by
      rw [List.mem_range]
      omega
    rcases hreseq.complete trivial _ hmem with hlt | ⟨element, helement, hnumber⟩
    · exact absurd hlt (Nat.lt_irrefl _)
    · have hcontains : deferqueueContains
          (LibRasta.Redundancy.deliverAfter P received).channel.deferQ
          (LibRasta.Redundancy.deliverAfter P received).channel.seqRx = true :=
        (deferqueueContains_iff _ _).mpr ⟨element, helement, UInt64.toNat_inj.mp hnumber⟩
      rw [hcontains] at habsent
      cases habsent
  exact ⟨hreseq, hreached, by omega, hcapacity⟩

/-- One read of consecutive PDUs from the expected one on. -/
theorem Filled.receive (h : Filled P T first 0 capacity endpoint)
    (arrival : Arrival (T.pdus P)) {rounds : ℕ} (hrounds : arrival.numbers.length ≤ rounds)
    (hnumbers : arrival.numbers.map Fin.val = List.range' first arrival.numbers.length) :
    ∃ after, channelReceiveEvent P rounds endpoint arrival.read = some after ∧
      (after.con.aborted = true ∨
        Filled P T (first + min arrival.numbers.length (readLimit capacity (windowSize config)
          (isFresh endpoint))) 0 capacity after) := by
  obtain ⟨hdiagnostics, hqueue⟩ := runChannelDiagnostics_frame endpoint arrival.channelId
  have hfresh := isFresh_frame hdiagnostics
  have hbefore : Filled P T first (min 0 (readLimit capacity (windowSize config)
      (isFresh (runChannelDiagnostics endpoint arrival.channelId)))) capacity
      (runChannelDiagnostics endpoint arrival.channelId) := by
    rw [Nat.zero_min]
    refine ⟨h.resequenced.frame hdiagnostics hqueue, ?_, ?_, ?_⟩
    · rw [hdiagnostics.seqRx]
      exact h.seqRx
    · rw [hqueue]
      exact h.count
    · rw [hqueue]
      exact h.capacity
  have hempty : endpoint.channel.deferQ.live = [] := by
    rw [← List.length_eq_zero_iff, DeferQueue.length_live]
    exact h.count
  have habsent : deferqueueContains endpoint.channel.deferQ endpoint.channel.seqRx = false := by
    have hnot : ¬ deferqueueContains endpoint.channel.deferQ endpoint.channel.seqRx = true := by
      rw [deferqueueContains_iff, hempty]
      simp
    simpa using hnot
  have hread := hbefore.receivePdus arrival.numbers arrival.channelId false hnumbers
  have hflag := receivePdus_flagged P arrival.channelId [] arrival.copies
    (runChannelDiagnostics_absent arrival.channelId habsent)
  rw [hfresh, Nat.zero_add] at hread
  exact ⟨_, channelReceiveEvent_arrival arrival hrounds h.resequenced.running,
    hread.deliverAfter hflag⟩

end Filling

section Grouping

variable {P : Platform} {config : RastaConfigInfo} {T : Transmission config}
  {first capacity : ℕ} {endpoint : Endpoint} {rounds : ℕ}

/-- No read brings more PDUs than its limit; the rule on the first PDU only limits the first
read. -/
def FitsFrom (capacity window : ℕ) {pdus : List Bytes} : Bool → List (Arrival pdus) → Prop
  | _, [] => True
  | fresh, arrival :: rest =>
    arrival.numbers.length ≤ readLimit capacity window fresh ∧ FitsFrom capacity window false rest

/-- After an abort the reads are not processed any more. -/
theorem receiveEvents_of_aborted (haborted : endpoint.con.aborted = true) (reads : List Read) :
    receiveEvents P rounds endpoint reads = some endpoint := by
  induction reads with
  | nil => rfl
  | cons read rest ih =>
    have hone : channelReceiveEvent P rounds endpoint read = some endpoint := by
      unfold channelReceiveEvent
      rw [if_pos haborted]
    unfold receiveEvents at ih ⊢
    rw [List.foldlM_cons, hone]
    exact ih

theorem receiveEvents_cons {middle : Endpoint} {read : Read}
    (hread : channelReceiveEvent P rounds endpoint read = some middle) (rest : List Read) :
    receiveEvents P rounds endpoint (read :: rest) = receiveEvents P rounds middle rest := by
  unfold receiveEvents
  rw [List.foldlM_cons, hread]
  rfl

theorem receiveEvents_append {middle : Endpoint} {reads : List Read}
    (hreads : receiveEvents P rounds endpoint reads = some middle) (rest : List Read) :
    receiveEvents P rounds endpoint (reads ++ rest) = receiveEvents P rounds middle rest := by
  unfold receiveEvents at hreads ⊢
  rw [List.foldlM_append, hreads]
  rfl

theorem Resequenced.forget {arrived : List ℕ} (h : Resequenced P T True arrived endpoint) :
    Resequenced P T False arrived endpoint :=
  ⟨h.idle, h.running, h.associatedId, h.queued, h.reached, h.below, h.delivered,
    fun hfalse => hfalse.elim⟩

/-- PDU `gap` never arrives, so the channel does not get past it. -/
theorem Resequenced.stuck_at {gap : ℕ} {arrived : List ℕ}
    (h : Resequenced P T True arrived endpoint)
    (arrivals : List (Arrival (T.pdus P)))
    (hrounds : ∀ arrival ∈ arrivals, arrival.numbers.length ≤ rounds)
    (hgap : gap ∉ arrived ++ arrivedNumbers arrivals) :
    ∃ after, receiveEvents P rounds endpoint (arrivals.map Arrival.read) = some after ∧
      (after.con.aborted = true ∨ ∃ reached ≤ gap,
        after.channel.delivered.map Handover.packet = handedPackets P T reached) := by
  have hstart : Settled P T False arrived endpoint := .inl h.forget
  obtain ⟨after, hrun, hsettled⟩ := hstart.receiveEvents arrivals hrounds
    (fun hfalse => hfalse.elim)
  refine ⟨after, hrun, ?_⟩
  rcases hsettled with hend | ⟨haborted, -⟩
  · refine .inr ⟨_, ?_, hend.delivered⟩
    by_contra hbeyond
    exact hgap (hend.below gap (Nat.lt_of_not_le hbeyond))
  · exact .inl haborted

/-- A run over consecutive PDUs hands over all of them exactly if every read fits. -/
theorem Filled.receiveEvents (arrivals : List (Arrival (T.pdus P)))
    (hrounds : ∀ arrival ∈ arrivals, arrival.numbers.length ≤ rounds)
    (hnonempty : ∀ arrival ∈ arrivals, arrival.numbers ≠ []) {total : ℕ}
    (hnumbers : arrivedNumbers arrivals = List.range' first total)
    (h : Filled P T first 0 capacity endpoint) :
    ∃ after, receiveEvents P rounds endpoint (arrivals.map Arrival.read) = some after ∧
      (after.con.aborted = true ∨ ∃ reached,
        after.channel.delivered.map Handover.packet = handedPackets P T reached ∧
        reached ≤ first + total ∧ (capacity = 0 → reached ≤ first) ∧
        (reached = first + total ↔
          FitsFrom capacity (windowSize config) (isFresh endpoint) arrivals)) := by
  induction arrivals generalizing first total endpoint with
  | nil =>
    have hnone : total = 0 := by
      have hlength := congrArg List.length hnumbers
      simpa [arrivedNumbers] using hlength.symm
    refine ⟨endpoint, rfl, .inr ⟨first, ?_, by omega, fun _ => le_rfl, ?_⟩⟩
    · rw [← h.seqRx]
      exact h.resequenced.delivered
    · simp [FitsFrom, hnone]
  | cons arrival rest ih =>
    -- the numbers of the first read, and those of the others
    have hsplit : arrival.numbers.map Fin.val ++ arrivedNumbers rest = List.range' first total := by
      simpa [arrivedNumbers] using hnumbers
    have hle : arrival.numbers.length ≤ total := by
      have hlength := congrArg List.length hsplit
      simp only [List.length_append, List.length_map, List.length_range'] at hlength
      omega
    obtain ⟨left, rfl⟩ := Nat.exists_eq_add_of_le hle
    have hranges : List.range' first (arrival.numbers.length + left) =
        List.range' first arrival.numbers.length ++
          List.range' (first + arrival.numbers.length) left := by
      rw [List.range'_append_1]
    rw [hranges] at hsplit
    obtain ⟨hfirst, hrest⟩ := List.append_inj hsplit (by simp)
    have hpositive : 0 < arrival.numbers.length :=
      List.length_pos_iff.mpr (hnonempty arrival List.mem_cons_self)
    have hroundsRest : ∀ a ∈ rest, a.numbers.length ≤ rounds := fun a ha =>
      hrounds a (List.mem_cons_of_mem arrival ha)
    obtain ⟨middle, hmiddle, houtcome⟩ := h.receive arrival
      (hrounds arrival List.mem_cons_self) hfirst
    rw [List.map_cons, receiveEvents_cons hmiddle]
    rcases houtcome with haborted | hfilled
    · exact ⟨middle, receiveEvents_of_aborted haborted _, .inl haborted⟩
    by_cases hfits : arrival.numbers.length ≤
        readLimit capacity (windowSize config) (isFresh endpoint)
    · rw [Nat.min_eq_left hfits] at hfilled
      obtain ⟨after, hrun, hresult⟩ := ih hroundsRest
        (fun a ha => hnonempty a (List.mem_cons_of_mem arrival ha)) hrest hfilled
      have hstale : isFresh middle = false := by
        have hseq := hfilled.seqRx
        unfold isFresh
        rw [decide_eq_false_iff_not]
        rintro ⟨hzero, -⟩
        rw [hzero] at hseq
        have hnone : (0 : UInt64).toNat = 0 := rfl
        omega
      rw [hstale] at hresult
      refine ⟨after, hrun, hresult.imp_right ?_⟩
      rintro ⟨reached, hdelivered, hreached, hnone, hall⟩
      refine ⟨reached, hdelivered, by omega, ?_, ?_⟩
      · intro hzero
        unfold readLimit at hfits
        split at hfits <;> omega
      · rw [← Nat.add_assoc, hall]
        exact ⟨fun hlater => ⟨hfits, hlater⟩, And.right⟩
    · -- the first PDU of the read that was discarded never comes again
      rw [Nat.min_eq_right (by omega)] at hfilled
      generalize hlimit : readLimit capacity (windowSize config) (isFresh endpoint) = limit at *
      have hgap : first + limit ∉ List.range (first + limit + 0) ++ arrivedNumbers rest := by
        rw [hrest, List.mem_append, List.mem_range, List.mem_range'_1]
        omega
      obtain ⟨after, hrun, hresult⟩ :=
        hfilled.resequenced.stuck_at rest hroundsRest hgap
      refine ⟨after, hrun, hresult.imp_right ?_⟩
      rintro ⟨reached, hreached, hdelivered⟩
      refine ⟨reached, hdelivered, by omega, ?_, ?_⟩
      · intro hzero
        have hnone : limit = 0 := by
          unfold readLimit at hlimit
          split at hlimit <;> omega
        omega
      · refine ⟨fun hall => by omega, ?_⟩
        rintro ⟨hfit, -⟩
        omega

end Grouping

section Cutting

/-- A first piece of concatenated chunks consists of whole chunks, or it ends inside one. -/
theorem append_eq_flatten_cases {α : Type} (chunks : List (List α)) {piece others : List α}
    (h : piece ++ others = chunks.flatten) :
    ∃ whole rest, chunks = whole ++ rest ∧
      (piece = whole.flatten ∧ others = rest.flatten ∨
        ∃ chunk later k, rest = chunk :: later ∧ 0 < k ∧ k < chunk.length ∧
          piece = whole.flatten ++ chunk.take k) := by
  induction chunks generalizing piece with
  | nil =>
    obtain ⟨rfl, rfl⟩ := List.append_eq_nil_iff.mp h
    exact ⟨[], [], rfl, .inl ⟨rfl, rfl⟩⟩
  | cons chunk rest ih =>
    rw [List.flatten_cons] at h
    rcases List.append_eq_append_iff.mp h with ⟨missing, hchunk, hothers⟩ | ⟨more, hpiece, hrest⟩
    · -- the piece ends in the first chunk
      rcases Nat.eq_zero_or_pos piece.length with hempty | hpositive
      · obtain rfl := List.length_eq_zero_iff.mp hempty
        exact ⟨[], chunk :: rest, rfl, .inl ⟨rfl, h⟩⟩
      rcases Nat.eq_zero_or_pos missing.length with hnone | hsome
      · obtain rfl := List.length_eq_zero_iff.mp hnone
        refine ⟨[chunk], rest, rfl, .inl ⟨?_, hothers⟩⟩
        simpa using hchunk.symm
      · refine ⟨[], chunk :: rest, rfl, .inr ⟨chunk, rest, piece.length, rfl, hpositive, ?_, ?_⟩⟩
        · rw [hchunk, List.length_append]
          omega
        · rw [hchunk]
          simp
    · obtain ⟨whole, behind, hsplit, hends⟩ := ih hrest.symm
      refine ⟨chunk :: whole, behind, by rw [hsplit]; rfl, ?_⟩
      rw [hpiece]
      rcases hends with ⟨hmore, hbehind⟩ | ⟨inner, later, k, hlater, hpositive, hlt, hmore⟩
      · exact .inl ⟨by rw [hmore]; rfl, hbehind⟩
      · refine .inr ⟨inner, later, k, hlater, hpositive, hlt, ?_⟩
        rw [hmore]
        simp

/-- A read that ends inside PDU `i` of a peer, after `k` bytes of it. -/
structure EndsInside (pdus : List Bytes) (read : Read) (i : Fin pdus.length) (k : ℕ) : Prop where
  positive : 0 < k
  lt : k < (pdus.get i).length
  buffer : ∃ front : List (Fin pdus.length),
    read.buffer = (front.map pdus.get).flatten ++ (pdus.get i).take k

/-- Cuts of a byte stream either respect the boundaries of its PDUs, or there is a first read
that ends inside a PDU. -/
theorem reads_cases {pdus : List Bytes} (hlong : ∀ i, 0 < (pdus.get i).length)
    (reads : List Read) (numbers : List (Fin pdus.length))
    (h : (reads.map Read.buffer).flatten = (numbers.map pdus.get).flatten) :
    (∃ arrivals : List (Arrival pdus), arrivals.map Arrival.read = reads ∧
        arrivedNumbers arrivals = numbers.map Fin.val) ∨
      ∃ (arrivals : List (Arrival pdus)) (read : Read) (later : List Read)
        (i : Fin pdus.length) (k : ℕ),
        reads = arrivals.map Arrival.read ++ read :: later ∧ EndsInside pdus read i k := by
  induction reads generalizing numbers with
  | nil =>
    cases numbers with
    | nil => exact .inl ⟨[], rfl, rfl⟩
    | cons i others =>
      have hlength := congrArg List.length h
      simp only [List.map_nil, List.flatten_nil, List.length_nil, List.map_cons,
        List.flatten_cons, List.length_append] at hlength
      have hpositive := hlong i
      omega
  | cons read rest ih =>
    rw [List.map_cons, List.flatten_cons] at h
    obtain ⟨whole, behind, hsplit, hends⟩ := append_eq_flatten_cases _ h
    obtain ⟨front, back, rfl, rfl, rfl⟩ := List.map_eq_append_iff.mp hsplit
    rcases hends with ⟨hbuffer, hrest⟩ | ⟨pdu, later, k, hback, hpositive, hlt, hbuffer⟩
    · let arrival : Arrival pdus :=
        { channelId := read.channelId
          numbers := front
          length_lt := by rw [← hbuffer]; exact read.length_lt }
      have hread : arrival.read = read := by
        cases read
        simp only [Arrival.read, Arrival.copies, arrival, Read.mk.injEq, true_and]
        exact hbuffer.symm
      rcases ih back hrest with ⟨arrivals, hreads, hnumbers⟩ |
        ⟨arrivals, inside, later, i, k, hreads, hinside⟩
      · refine .inl ⟨arrival :: arrivals, ?_, ?_⟩
        · rw [List.map_cons, hread, hreads]
        · have hcons : arrivedNumbers (arrival :: arrivals) =
              front.map Fin.val ++ arrivedNumbers arrivals := by
            simp [arrivedNumbers, arrival]
          rw [hcons, List.map_append, hnumbers]
      · refine .inr ⟨arrival :: arrivals, inside, later, i, k, ?_, hinside⟩
        rw [hreads, List.map_cons, hread]
        rfl
    · obtain ⟨i, others, rfl, rfl, -⟩ := List.map_eq_cons_iff.mp hback
      exact .inr ⟨[], read, rest, i, k, rfl, hpositive, hlt, front, hbuffer⟩

/-- `channel_receive_event` clears its buffer before every read, so behind the bytes received a
length field reads as zero. -/
structure ZeroedBuffer (P : Platform) : Prop where
  behind : ∀ i < 2, P.beyond [] i = 0
  afterFirst : ∀ byte, P.beyond [byte] 1 = 0

variable {P : Platform} {rounds : ℕ}

/-- A length field 0 keeps the loop where it is. -/
theorem receiveLoop_of_size_zero {buffer : Bytes} (hsize : (leShortToHost P buffer 0).toNat = 0)
    (channelId rounds : ℕ) {lenRemaining : ℕ} (hpositive : 0 < lenRemaining)
    (hlt : lenRemaining < 2 ^ 64) (endpoint : Endpoint) (result : Bool) :
    receiveLoop P channelId rounds lenRemaining buffer endpoint result = none := by
  induction rounds generalizing endpoint result with
  | zero =>
    unfold receiveLoop
    rw [if_neg (by omega)]
  | succ rounds ih =>
    unfold receiveLoop
    rw [if_neg (by omega)]
    simp only [hsize, List.drop_zero]
    have hsame : (lenRemaining + 2 ^ 64 - 0) % 2 ^ 64 = lenRemaining := by omega
    rw [hsame]
    exact ih _ _

/-- The length field of the beginning of a PDU. -/
theorem size_take (hzeroed : ZeroedBuffer P) {pdu : Bytes} (hframed : Framed P pdu) {k : ℕ}
    (hpositive : 0 < k) (hlt : k < pdu.length) :
    (leShortToHost P (pdu.take k) 0).toNat =
      if k = 1 then pdu.length % 256 else pdu.length := by
  obtain ⟨hlong, hsize⟩ := hframed
  split
  · next hone =>
    obtain ⟨low, high, rest, rfl⟩ : ∃ low high rest, pdu = low :: high :: rest := by
      match pdu, hlong with
      | low :: high :: rest, _ => exact ⟨low, high, rest, rfl⟩
    have hlow : (leShortToHost P ([low] : Bytes) 0).toNat = low.toNat := by
      simp only [leShortToHost, byteAt, List.getD_cons_zero, List.getD_cons_succ, List.getD_nil,
        Nat.zero_add, hzeroed.afterFirst, LibRasta.Lib.ofLe16, UInt16.toNat_ofNat']
      have hbyte := low.toNat_lt
      have hzero : (0 : UInt8).toNat = 0 := rfl
      omega
    have hboth : (leShortToHost P (low :: high :: rest) 0).toNat =
        low.toNat + 256 * high.toNat := by
      simp only [leShortToHost, byteAt, List.getD_cons_zero, List.getD_cons_succ, Nat.zero_add,
        LibRasta.Lib.ofLe16, UInt16.toNat_ofNat']
      have hbyte := low.toNat_lt
      have hbyte' := high.toNat_lt
      omega
    rw [hone, List.take_succ_cons, List.take_zero, hlow, ← hsize, hboth]
    have hbyte := low.toNat_lt
    omega
  · next hmore =>
    have hsplit := @leShortToHost_append_left P (pdu.take k)
      (by rw [List.length_take]; omega) (pdu.drop k)
    rw [List.take_append_drop] at hsplit
    rw [← hsplit, hsize]

/-- The loop does not return from a PDU that lies in the buffer only in part: the number of
bytes left wraps around and the cleared rest of the buffer holds length fields 0. -/
theorem receiveLoop_of_partial (hzeroed : ZeroedBuffer P) {pdu : Bytes} (hframed : Framed P pdu)
    {k : ℕ} (hpositive : 0 < k) (hlt : k < pdu.length)
    (hbyte : k = 1 → pdu.length % 256 ≠ 1) (channelId rounds : ℕ) (endpoint : Endpoint)
    (result : Bool) :
    receiveLoop P channelId rounds (pdu.take k).length (pdu.take k) endpoint result = none := by
  have hsize := size_take hzeroed hframed hpositive hlt
  have hlength : (pdu.take k).length = k := by
    rw [List.length_take]
    omega
  have hfield := (leShortToHost P (pdu.take k) 0).toNat_lt
  have hfull := (leShortToHost P pdu 0).toNat_lt
  rw [hframed.2] at hfull
  rw [hlength]
  cases rounds with
  | zero =>
    unfold receiveLoop
    rw [if_neg (by omega)]
  | succ rounds =>
    by_cases hzero : (leShortToHost P (pdu.take k) 0).toNat = 0
    · exact receiveLoop_of_size_zero hzero channelId _ hpositive (by omega) endpoint result
    · have hbeyond : k < (leShortToHost P (pdu.take k) 0).toNat := by
        split at hsize
        · next hone =>
          have hnotOne := hbyte hone
          omega
        · omega
      unfold receiveLoop
      rw [if_neg (by omega)]
      have hdrop : (pdu.take k).drop (leShortToHost P (pdu.take k) 0).toNat = [] := by
        rw [List.drop_eq_nil_iff, hlength]
        omega
      simp only [hdrop]
      refine receiveLoop_of_size_zero ?_ channelId rounds (by omega) (by omega) _ _
      simp [leShortToHost, byteAt, hzeroed.behind, LibRasta.Lib.ofLe16]

/-- Whole PDUs in front of it do not change that. -/
theorem receiveLoop_none_of_front {behind : Bytes} (channelId : ℕ)
    (hbehind : ∀ rounds endpoint result,
      receiveLoop P channelId rounds behind.length behind endpoint result = none)
    (pdus : List Bytes) (hframed : ∀ pdu ∈ pdus, Framed P pdu)
    (hlen : (pdus.flatten ++ behind).length < 2 ^ 64) (rounds : ℕ) (endpoint : Endpoint)
    (result : Bool) :
    receiveLoop P channelId rounds (pdus.flatten ++ behind).length (pdus.flatten ++ behind)
      endpoint result = none := by
  induction pdus generalizing rounds endpoint result with
  | nil => exact hbehind rounds endpoint result
  | cons pdu rest ih =>
    obtain ⟨hshort, hsize⟩ := hframed pdu List.mem_cons_self
    rw [List.flatten_cons, List.append_assoc, List.length_append] at hlen ⊢
    unfold receiveLoop
    rw [if_neg (by omega)]
    cases rounds with
    | zero => rfl
    | succ rounds =>
      have hremaining : (pdu.length + (rest.flatten ++ behind).length + 2 ^ 64 - pdu.length) %
          2 ^ 64 = (rest.flatten ++ behind).length := by omega
      simp only [leShortToHost_append_left P hshort, hsize, hremaining, List.drop_left]
      exact ih (fun p hp => hframed p (List.mem_cons_of_mem pdu hp)) (by omega) _ _ _

/-- A running endpoint never gets past a read that ends inside a PDU. -/
theorem EndsInside.channelReceiveEvent {pdus : List Bytes} {read : Read} {i : Fin pdus.length}
    {k : ℕ} (h : EndsInside pdus read i k) (hzeroed : ZeroedBuffer P)
    (hframed : ∀ j, Framed P (pdus.get j)) (hbyte : k = 1 → (pdus.get i).length % 256 ≠ 1)
    {endpoint : Endpoint} (hrunning : endpoint.con.aborted = false) :
    channelReceiveEvent P rounds endpoint read = none := by
  obtain ⟨front, hbuffer⟩ := h.buffer
  have hlength := read.length_lt
  have hnot : ¬ endpoint.con.aborted = true := by simp [hrunning]
  unfold LibRasta.Redundancy.channelReceiveEvent receivePacket
  rw [if_neg hnot, hbuffer, receiveLoop_none_of_front read.channelId
    (fun rounds endpoint result => receiveLoop_of_partial hzeroed (hframed i) h.positive h.lt
      hbyte read.channelId rounds endpoint result) _ ?_ (by rw [← hbuffer]; exact hlength)]
  · rfl
  · intro pdu hpdu
    obtain ⟨j, -, rfl⟩ := List.mem_map.mp hpdu
    exact hframed j

end Cutting

section Independence

/-- An endpoint whose channel has received nothing of the session yet; whether something was sent
is open, since a client sends before it receives. -/
structure Awaiting (config : RastaConfigInfo) (endpoint : Endpoint) : Prop where
  idle : Idle config endpoint.con
  running : endpoint.con.aborted = false
  associatedId : endpoint.channel.associatedId = config.rastaIdRemote
  seqRx : endpoint.channel.seqRx = 0
  deferQ : endpoint.channel.deferQ.count = 0
  delivered : endpoint.channel.delivered = []

variable (P : Platform) {config : RastaConfigInfo} (T : Transmission config)

/-- The bytes of a peer's PDUs, cut into the reads of one transport channel. -/
structure Cut (channelId : ℕ) (reads : List Read) : Prop where
  bytes : (reads.map Read.buffer).flatten = (T.pdus P).flatten
  channel : ∀ read ∈ reads, read.channelId = channelId
  nonempty : ∀ read ∈ reads, read.buffer ≠ []
  short : ∀ read ∈ reads, read.buffer.length ≤ 1000

variable {P T} in
theorem Arrival.length_numbers_le (arrival : Arrival (T.pdus P)) :
    arrival.numbers.length ≤ arrival.copies.flatten.length := by
  obtain ⟨channelId, numbers, hlength⟩ := arrival
  simp only [Arrival.copies]
  clear hlength
  induction numbers with
  | nil => simp
  | cons i rest ih =>
    have hlong := (T.framed_get i).1
    rw [List.map_cons, List.flatten_cons, List.length_append, List.length_cons]
    omega

theorem length_get_lt (i : Fin (T.pdus P).length) :
    (([i] : List (Fin (T.pdus P).length)).map (T.pdus P).get).flatten.length < 2 ^ 64 := by
  have hsize := (T.framed_get i).2
  have hlt := (leShortToHost P ((T.pdus P).get i) 0).toNat_lt
  rw [hsize] at hlt
  simp only [List.map_cons, List.map_nil, List.flatten_cons, List.flatten_nil, List.append_nil]
  omega

/-- One PDU at a time. -/
def oneByOne (channelId : ℕ) : List (Arrival (T.pdus P)) :=
  (List.finRange (T.pdus P).length).map fun i =>
    { channelId := channelId, numbers := [i], length_lt := length_get_lt P T i }

/-- The reads consist of whole PDUs, as many as there are places for them in the defer queue and
numbers in its window, and if nothing was sent so far PDU 0 comes alone; a queue without places
takes none in any case. -/
def CutsFit (start : Endpoint) (reads : List Read) : Prop :=
  ∃ arrivals : List (Arrival (T.pdus P)), arrivals.map Arrival.read = reads ∧
    arrivedNumbers arrivals = List.range (T.pdus P).length ∧
    (start.channel.deferQ.maxCount = 0 ∨
      (∀ arrival ∈ arrivals, arrival.numbers.length ≤
        min start.channel.deferQ.maxCount (windowSize config + 1)) ∧
      (start.con.seqTx = 0 → ∀ arrival ∈ arrivals.head?, arrival.numbers.length ≤ 1))

/-- Both ways of reading come to an end and hand over the same packets. -/
def SameHandover (rounds : ℕ) (start : Endpoint) (reads others : List Read) : Prop :=
  ∃ after after', receiveEvents P rounds start reads = some after ∧
    receiveEvents P rounds start others = some after' ∧
    after.channel.delivered.map Handover.packet = after'.channel.delivered.map Handover.packet

variable {P T} {start : Endpoint} {rounds : ℕ}

theorem Awaiting.filled (h : Awaiting config start) :
    Filled P T 0 0 start.channel.deferQ.maxCount start := by
  have hzero : start.channel.seqRx.toNat = 0 := by
    rw [h.seqRx]
    rfl
  have hempty : start.channel.deferQ.live = [] := by
    rw [← List.length_eq_zero_iff, DeferQueue.length_live]
    exact h.deferQ
  refine ⟨⟨h.idle, h.running, h.associatedId, ?_, by omega, ?_, ?_, ?_⟩, hzero, h.deferQ, rfl⟩
  · rw [hempty]
    intro element hmem
    cases hmem
  · intro i hi
    omega
  · rw [h.delivered, hzero]
    rfl
  · intro _ i hi
    cases hi

theorem fitsFrom_false_iff (capacity window : ℕ) {pdus : List Bytes}
    (arrivals : List (Arrival pdus)) :
    FitsFrom capacity window false arrivals ↔
      ∀ arrival ∈ arrivals, arrival.numbers.length ≤ min capacity (window + 1) := by
  induction arrivals with
  | nil => simp [FitsFrom]
  | cons arrival rest ih => simp [FitsFrom, ih, readLimit]

theorem fitsFrom_iff {capacity : ℕ} (hcapacity : capacity ≠ 0) (window : ℕ) (fresh : Bool)
    {pdus : List Bytes} (arrivals : List (Arrival pdus)) :
    FitsFrom capacity window fresh arrivals ↔
      (∀ arrival ∈ arrivals, arrival.numbers.length ≤ min capacity (window + 1)) ∧
        (fresh = true → ∀ arrival ∈ arrivals.head?, arrival.numbers.length ≤ 1) := by
  cases arrivals with
  | nil => simp [FitsFrom]
  | cons arrival rest =>
    cases fresh with
    | false => simp [fitsFrom_false_iff]
    | true =>
      simp only [FitsFrom, fitsFrom_false_iff, readLimit, if_true, List.mem_cons,
        forall_eq_or_imp, List.head?_cons, Option.mem_some_iff, forall_eq', forall_const]
      constructor
      · rintro ⟨hfirst, hrest⟩
        exact ⟨⟨by omega, hrest⟩, by omega⟩
      · rintro ⟨⟨-, hrest⟩, hfirst⟩
        exact ⟨by omega, hrest⟩

theorem Awaiting.isFresh_iff (h : Awaiting config start) :
    isFresh start = true ↔ start.con.seqTx = 0 := by
  unfold isFresh
  rw [decide_eq_true_eq, and_iff_right h.seqRx]

theorem arrivedNumbers_oneByOne (channelId : ℕ) :
    arrivedNumbers (oneByOne P T channelId) = List.range (T.pdus P).length := by
  unfold arrivedNumbers oneByOne
  rw [List.flatMap_map]
  simp only [List.map_cons, List.map_nil]
  rw [← List.map_eq_flatMap, List.map_coe_finRange_eq_range]

theorem oneByOne_fits {capacity : ℕ} (hcapacity : capacity ≠ 0) (window channelId : ℕ)
    (fresh : Bool) : FitsFrom capacity window fresh (oneByOne P T channelId) := by
  have hsingle : ∀ arrival ∈ oneByOne P T channelId, arrival.numbers.length = 1 := by
    intro arrival hmem
    obtain ⟨i, -, rfl⟩ := List.mem_map.mp hmem
    rfl
  rw [fitsFrom_iff hcapacity]
  refine ⟨?_, fun _ arrival hmem => ?_⟩
  · intro arrival hmem
    have hone := hsingle arrival hmem
    omega
  · exact (hsingle arrival (List.mem_of_mem_head? hmem)).le

theorem length_handedPackets {reached : ℕ} (h : reached ≤ T.packets.length) :
    (handedPackets P T reached).length = reached := by
  simp [handedPackets, h]

/-- Whole PDUs, in any grouping. -/
theorem sameHandover_oneByOne_iff (hstart : Awaiting config start) (channelId : ℕ)
    (arrivals : List (Arrival (T.pdus P)))
    (hnonempty : ∀ arrival ∈ arrivals, arrival.numbers ≠ [])
    (hnumbers : arrivedNumbers arrivals = List.range (T.pdus P).length)
    (hrounds : ∀ arrival ∈ arrivals, arrival.numbers.length ≤ rounds) (hpositive : 1 ≤ rounds)
    (hrunning : ∀ after, receiveEvents P rounds start (arrivals.map Arrival.read) = some after →
      after.con.aborted = false)
    (hsingle : ∀ after, receiveEvents P rounds start
      ((oneByOne P T channelId).map Arrival.read) = some after → after.con.aborted = false) :
    SameHandover P rounds start (arrivals.map Arrival.read)
        ((oneByOne P T channelId).map Arrival.read) ↔
      start.channel.deferQ.maxCount = 0 ∨
        FitsFrom start.channel.deferQ.maxCount (windowSize config) (isFresh start) arrivals := by
  have hall : ∀ arrival ∈ oneByOne P T channelId,
      arrival.numbers ≠ [] ∧ arrival.numbers.length ≤ rounds := by
    intro arrival hmem
    obtain ⟨i, -, rfl⟩ := List.mem_map.mp hmem
    exact ⟨List.cons_ne_nil _ _, hpositive⟩
  have hlength := T.length_pdus P
  obtain ⟨after, hrun, hresult⟩ := (hstart.filled (T := T)).receiveEvents arrivals hrounds
    hnonempty (hnumbers.trans List.range_eq_range')
  obtain ⟨after', hrun', hresult'⟩ := (hstart.filled (T := T)).receiveEvents
    (oneByOne P T channelId) (fun a ha => (hall a ha).2) (fun a ha => (hall a ha).1)
    ((arrivedNumbers_oneByOne channelId).trans List.range_eq_range')
  obtain ⟨reached, hdelivered, hle, hnone, hfits⟩ :=
    hresult.resolve_left (by simp [hrunning after hrun])
  obtain ⟨reached', hdelivered', hle', hnone', hfits'⟩ :=
    hresult'.resolve_left (by simp [hsingle after' hrun'])
  -- the packets handed over are the same if their number is
  have hsame : SameHandover P rounds start (arrivals.map Arrival.read)
      ((oneByOne P T channelId).map Arrival.read) ↔ reached = reached' := by
    constructor
    · rintro ⟨end₁, end₂, hend₁, hend₂, heq⟩
      obtain rfl := Option.some.inj (hrun.symm.trans hend₁)
      obtain rfl := Option.some.inj (hrun'.symm.trans hend₂)
      rw [hdelivered, hdelivered'] at heq
      have hlengths := congrArg List.length heq
      rwa [length_handedPackets (by omega), length_handedPackets (by omega)] at hlengths
    · rintro rfl
      exact ⟨after, after', hrun, hrun', hdelivered.trans hdelivered'.symm⟩
  rw [hsame]
  by_cases hcapacity : start.channel.deferQ.maxCount = 0
  · have hfirst := hnone hcapacity
    have hfirst' := hnone' hcapacity
    exact iff_of_true (by omega) (.inl hcapacity)
  · have hcomplete := hfits'.mpr (oneByOne_fits hcapacity _ channelId _)
    rw [or_iff_right hcapacity, ← hfits, hcomplete]

/-- For every cut of the bytes of the peer's PDUs into reads: if the reads are whole PDUs and
fit the queue they hand over what one PDU a read hands over, and nothing else does, where a read
that ends with the first byte of a PDU of 1 modulo 256 bytes is left aside. -/
theorem sameHandover_iff_cutsFit (P : Platform) (hzeroed : ZeroedBuffer P)
    (config : RastaConfigInfo) (T : Transmission config) (start : Endpoint)
    (hstart : Awaiting config start) (channelId : ℕ) (reads : List Read)
    (hcut : Cut P T channelId reads) (rounds : ℕ) (hrounds : 1000 ≤ rounds)
    (hrunning : ∀ after, receiveEvents P rounds start reads = some after →
      after.con.aborted = false)
    (hsingle : ∀ after, receiveEvents P rounds start
      ((oneByOne P T channelId).map Arrival.read) = some after → after.con.aborted = false) :
    (CutsFit P T start reads →
        SameHandover P rounds start reads ((oneByOne P T channelId).map Arrival.read)) ∧
      ((∀ read ∈ reads, ∀ i, EndsInside (T.pdus P) read i 1 →
          ((T.pdus P).get i).length % 256 ≠ 1) →
        SameHandover P rounds start reads ((oneByOne P T channelId).map Arrival.read) →
        CutsFit P T start reads) := by
  have hpositive : 1 ≤ rounds := by omega
  -- a read of at most 1000 bytes holds fewer PDUs
  have hbounds : ∀ arrival : Arrival (T.pdus P), arrival.read ∈ reads →
      arrival.numbers ≠ [] ∧ arrival.numbers.length ≤ rounds := by
    intro arrival hread
    have hshort : arrival.copies.flatten.length ≤ 1000 := hcut.short _ hread
    have hcopies := arrival.length_numbers_le
    refine ⟨?_, by omega⟩
    intro hnone
    refine hcut.nonempty _ hread ?_
    simp [Arrival.read, Arrival.copies, hnone]
  have hwhole : ∀ arrivals : List (Arrival (T.pdus P)), arrivals.map Arrival.read = reads →
      arrivedNumbers arrivals = List.range (T.pdus P).length →
      (SameHandover P rounds start reads ((oneByOne P T channelId).map Arrival.read) ↔
        start.channel.deferQ.maxCount = 0 ∨
          (∀ arrival ∈ arrivals, arrival.numbers.length ≤
            min start.channel.deferQ.maxCount (windowSize config + 1)) ∧
          (start.con.seqTx = 0 → ∀ arrival ∈ arrivals.head?, arrival.numbers.length ≤ 1)) := by
    rintro arrivals rfl hnumbers
    have hbound : ∀ arrival ∈ arrivals,
        arrival.numbers ≠ [] ∧ arrival.numbers.length ≤ rounds :=
      fun arrival hmem => hbounds arrival (List.mem_map_of_mem hmem)
    rw [sameHandover_oneByOne_iff hstart channelId arrivals (fun a ha => (hbound a ha).1) hnumbers
      (fun a ha => (hbound a ha).2) hpositive hrunning hsingle]
    by_cases hcapacity : start.channel.deferQ.maxCount = 0
    · exact iff_of_true (.inl hcapacity) (.inl hcapacity)
    · rw [or_iff_right hcapacity, or_iff_right hcapacity, fitsFrom_iff hcapacity,
        hstart.isFresh_iff]
  constructor
  · rintro ⟨arrivals, hreads, hnumbers, hfit⟩
    exact (hwhole arrivals hreads hnumbers).mpr hfit
  · intro hbyte hsame
    have hbytes : (reads.map Read.buffer).flatten =
        ((List.finRange (T.pdus P).length).map (T.pdus P).get).flatten := by
      rw [hcut.bytes, List.map_get_finRange]
    rcases reads_cases (fun i => by have hlong := (T.framed_get i).1; omega) reads _ hbytes with
      ⟨arrivals, hreads, hnumbers⟩ | ⟨arrivals, read, later, i, k, hreads, hinside⟩
    · rw [List.map_coe_finRange_eq_range] at hnumbers
      exact ⟨arrivals, hreads, hnumbers, (hwhole arrivals hreads hnumbers).mp hsame⟩
    · -- the run does not return
      exfalso
      have hrest : ∀ arrival ∈ arrivals, arrival.numbers.length ≤ rounds := by
        intro arrival hmem
        refine (hbounds arrival ?_).2
        rw [hreads]
        exact List.mem_append_left _ (List.mem_map_of_mem hmem)
      have hsettled : Settled P T False [] start := .inl hstart.filled.resequenced.forget
      obtain ⟨middle, hmiddle, -⟩ := hsettled.receiveEvents arrivals hrest (fun hfalse => hfalse.elim)
      obtain ⟨after, -, hafter, -⟩ := hsame
      rw [hreads, receiveEvents_append hmiddle] at hafter
      cases haborted : middle.con.aborted with
      | true =>
        have hstopped : receiveEvents P rounds start reads = some middle := by
          rw [hreads, receiveEvents_append hmiddle, receiveEvents_of_aborted haborted]
        rw [hrunning middle hstopped] at haborted
        cases haborted
      | false =>
        have hmem : read ∈ reads := by
          rw [hreads]
          exact List.mem_append_right _ List.mem_cons_self
        have hnever : channelReceiveEvent P rounds middle read = none :=
          hinside.channelReceiveEvent hzeroed (fun j => T.framed_get j)
            (fun hone => hbyte read hmem i (hone ▸ hinside)) haborted
        unfold receiveEvents at hafter
        rw [List.foldlM_cons, hnever] at hafter
        cases hafter

end Independence

section Example

theorem exampleFirst_lt : 0 < 3 := by decide

theorem exampleSecond_lt : 1 < 3 := by decide

theorem exampleThird_lt : 2 < 3 := by decide

/-- PDU 0 alone, then PDUs 1 and 2 in one read. -/
def exampleGrouped : List (Arrival (exampleTransmission.pdus referencePlatform)) :=
  [{ channelId := 0
     numbers := [exampleNumber 0 exampleFirst_lt]
     length_lt := by decide +kernel },
    { channelId := 0
      numbers := [exampleNumber 1 exampleSecond_lt, exampleNumber 2 exampleThird_lt]
      length_lt := by decide +kernel }]

/-- All three PDUs in one read. -/
def exampleCoalesced : Arrival (exampleTransmission.pdus referencePlatform) where
  channelId := 0
  numbers := [exampleNumber 0 exampleFirst_lt, exampleNumber 1 exampleSecond_lt,
    exampleNumber 2 exampleThird_lt]
  length_lt := by decide +kernel

theorem exampleFresh_awaiting : Awaiting exampleConfig exampleFresh :=
  ⟨⟨rfl, rfl, rfl, rfl, rfl, rfl⟩, rfl, rfl, rfl, rfl, rfl⟩

theorem sameHandover_iff_cutsFit_grouped :
    SameHandover referencePlatform 1000 exampleFresh (exampleGrouped.map Arrival.read)
      ((oneByOne referencePlatform exampleTransmission 0).map Arrival.read) := by
  have hends : ((receiveEvents referencePlatform 1000 exampleFresh
        (exampleGrouped.map Arrival.read)).map (fun e => e.con.aborted) = some false) ∧
      ((receiveEvents referencePlatform 1000 exampleFresh
        ((oneByOne referencePlatform exampleTransmission 0).map Arrival.read)).map
          (fun e => e.con.aborted) = some false) := by
    decide +kernel
  refine (sameHandover_iff_cutsFit referencePlatform ⟨by decide, fun _ => rfl⟩ exampleConfig
    exampleTransmission exampleFresh exampleFresh_awaiting 0 (exampleGrouped.map Arrival.read)
    ⟨by decide +kernel, by decide +kernel, by decide +kernel, by decide +kernel⟩ 1000 le_rfl
    ?_ ?_).1 ⟨exampleGrouped, rfl, by decide +kernel, .inr ⟨by decide +kernel, ?_⟩⟩
  · intro after hafter
    rw [hafter] at hends
    exact Option.some.inj hends.1
  · intro after hafter
    rw [hafter] at hends
    exact Option.some.inj hends.2
  · intro _ arrival hmem
    obtain rfl := Option.some.inj hmem
    decide

/-- A server that has sent nothing yet takes only PDU 0 of a read that brings all three. -/
theorem coalesced_pdus_lost :
    Cut referencePlatform exampleTransmission 0 [exampleCoalesced.read] ∧
      (∀ pdu ∈ exampleTransmission.pdus referencePlatform, pdu.length ≤ 1000) ∧
      (receiveEvents referencePlatform 1000 exampleFresh [exampleCoalesced.read]).map
        (fun e => e.channel.delivered.length) = some 1 ∧
      (receiveEvents referencePlatform 1000 exampleFresh
        ((oneByOne referencePlatform exampleTransmission 0).map Arrival.read)).map
        (fun e => e.channel.delivered.length) = some 3 ∧
      ¬ SameHandover referencePlatform 1000 exampleFresh [exampleCoalesced.read]
        ((oneByOne referencePlatform exampleTransmission 0).map Arrival.read) := by
  have hruns : (receiveEvents referencePlatform 1000 exampleFresh [exampleCoalesced.read]).map
        (fun e => e.channel.delivered.length) = some 1 ∧
      (receiveEvents referencePlatform 1000 exampleFresh
        ((oneByOne referencePlatform exampleTransmission 0).map Arrival.read)).map
        (fun e => e.channel.delivered.length) = some 3 := by
    decide +kernel
  refine ⟨⟨by decide +kernel, by decide +kernel, by decide +kernel, by decide +kernel⟩,
    by decide +kernel, hruns.1, hruns.2, ?_⟩
  rintro ⟨after, after', hrun, hrun', hsame⟩
  rw [hrun, hrun'] at hruns
  have hone : after.channel.delivered.length = 1 := Option.some.inj hruns.1
  have hthree : after'.channel.delivered.length = 3 := Option.some.inj hruns.2
  have hlengths := congrArg List.length hsame
  rw [List.length_map, List.length_map] at hlengths
  omega

end Example

end LibRasta.Redundancy
