/-
Module: LibRasta/Redundancy/DeferTimeout.lean
source: src/c/redundancy/rastaredundancy.c, src/c/util/rastadeferqueue.c
digest: The defer timeout searches all slots of the array behind the queue. It resumes at the oldest waiting PDU exactly when no stale slot holds a smaller number than every waiting one, and none of these lies below seq_rx.
-/

import LibRasta.Lib.Minimum
import LibRasta.Redundancy.ExactlyOnce

set_option autoImplicit false
set_option relaxedAutoImplicit false

namespace LibRasta.Redundancy

open LibRasta.Lib
open LibRasta.Util
open LibRasta.Retransmission

section Translation

/-- `deferqueue_smallest_seqnr`: the index of the smallest number in the array, whose slots are
searched up to `max_count`. -/
def deferqueueSmallestSeqnr (queue : DeferQueue) : ℕ :=
  ((scanMin (fun element => some (seqNrOf element).toNat) 0 queue.elements
    (0xFFFFFFFF, none)).2).getD 0

/-- `red_f_deferTmo` up to the call of `red_f_deliverDeferQueue`; an array without slots holds
nothing to read. -/
def setSeqRxToSmallest (endpoint : Endpoint) : Endpoint :=
  match endpoint.channel.deferQ.elements[deferqueueSmallestSeqnr endpoint.channel.deferQ]? with
  | some element =>
    { endpoint with
      channel := { endpoint.channel with seqRx := element.packet.sequenceNumber.toUInt64 } }
  | none => endpoint

variable (P : Platform)

/-- `red_f_deferTmo`. -/
def redFDeferTmo (endpoint : Endpoint) : Endpoint :=
  (redFDeliverDeferQueue P (setSeqRxToSmallest endpoint)).1

end Translation

section Delivery

variable (P : Platform)

/-- The numbers of the PDUs waiting in the queue. -/
def waitingNumbers (queue : DeferQueue) : Set ℕ :=
  {number | ∃ element ∈ queue.live, (seqNrOf element).toNat = number}

/-- Between the two states, waiting PDUs with consecutive numbers from `seq_rx` on were handed
over. -/
structure HandsRun (before after : Endpoint) (handed : List Handover) : Prop where
  delivered : after.channel.delivered = before.channel.delivered ++ handed
  consecutive : handed.map (fun handover => handover.queuePacket.sequenceNumber.toNat) =
    List.range' before.channel.seqRx.toNat handed.length
  waiting : ∀ handover ∈ handed, ∃ element ∈ before.channel.deferQ.live,
    handover.queuePacket = element.packet

/-- Unless the process was aborted, the number behind those handed over is the next one, and no
PDU with it is waiting. -/
structure DeliversRun (before after : Endpoint) (handed : List Handover) : Prop extends
    HandsRun before after handed where
  forward : before.channel.seqRx ≤ after.channel.seqRx
  maximal : after.con.aborted = false →
    after.channel.seqRx.toNat = before.channel.seqRx.toNat + handed.length ∧
      after.channel.seqRx.toNat ∉ waitingNumbers before.channel.deferQ

/-- The invariant of the delivery loop: nothing that is still to come was taken out. -/
structure Advanced (start : Endpoint) (handed : List Handover) (endpoint : Endpoint) : Prop extends
    HandsRun start endpoint handed where
  seqRx : endpoint.channel.seqRx.toNat = start.channel.seqRx.toNat + handed.length
  remaining : ∀ element, endpoint.channel.seqRx ≤ seqNrOf element →
    (element ∈ endpoint.channel.deferQ.live ↔ element ∈ start.channel.deferQ.live)

variable {P} {start endpoint : Endpoint} {handed : List Handover}

theorem advanced_start (start : Endpoint) : Advanced start [] start :=
  ⟨⟨by simp, rfl, by simp⟩, rfl, fun _ _ => Iff.rfl⟩

theorem Advanced.forward (h : Advanced start handed endpoint) :
    start.channel.seqRx ≤ endpoint.channel.seqRx := by
  rw [UInt64.le_iff_toNat_le, h.seqRx]
  exact Nat.le_add_right _ _

/-- The element that is handed over is the next one. -/
theorem Advanced.handedOver (h : Advanced start handed endpoint)
    {element : RastaRedundancyPacketWrapper} (hmem : element ∈ endpoint.channel.deferQ.live)
    (hseq : seqNrOf element = endpoint.channel.seqRx) :
    ∃ handover,
      (handOver P endpoint element.packet).1.channel =
        { endpoint.channel with delivered := endpoint.channel.delivered ++ [handover] } ∧
      HandsRun start (handOver P endpoint element.packet).1 (handed ++ [handover]) := by
  obtain ⟨handover, hpacket, hchannel⟩ := handOver_channel P endpoint element.packet
  have hstart : element ∈ start.channel.deferQ.live :=
    (h.remaining element (UInt64.le_of_eq hseq.symm)).mp hmem
  refine ⟨handover, hchannel, ?_, ?_, fun other hother => ?_⟩
  · rw [hchannel, h.delivered, List.append_assoc]
  · have hnumber : handover.queuePacket.sequenceNumber.toNat =
        start.channel.seqRx.toNat + handed.length := by
      rw [hpacket, ← h.seqRx, ← hseq, seqNrOf, UInt32.toNat_toUInt64]
    rw [List.map_append, h.consecutive, List.length_append, List.length_singleton,
      List.range'_1_concat]
    simp [hnumber]
  · rcases List.mem_append.mp hother with hother | hother
    · exact h.waiting other hother
    · rw [List.mem_singleton.mp hother]
      exact ⟨element, hstart, hpacket⟩

/-- One round of the loop. -/
theorem Advanced.round (h : Advanced start handed endpoint)
    {element : RastaRedundancyPacketWrapper} (hmem : element ∈ endpoint.channel.deferQ.live)
    (hseq : seqNrOf element = endpoint.channel.seqRx) :
    ∃ handed, Advanced start handed (advance P (handOver P endpoint element.packet).1) := by
  obtain ⟨handover, hchannel, hhands⟩ := h.handedOver (P := P) hmem hseq
  have hnext : (endpoint.channel.seqRx + 1).toNat = endpoint.channel.seqRx.toNat + 1 := by
    have hlt := element.packet.sequenceNumber.toNat_lt
    have hone : (1 : UInt64).toNat = 1 := rfl
    rw [← hseq, seqNrOf, UInt64.toNat_add, UInt32.toNat_toUInt64, hone]
    omega
  refine ⟨handed ++ [handover], ⟨hhands.delivered, hhands.consecutive, hhands.waiting⟩, ?_,
    fun other hother => ?_⟩
  · rw [advance_seqRx, hchannel, hnext, h.seqRx, List.length_append, List.length_singleton,
      Nat.add_assoc]
  · rw [advance_seqRx, hchannel, UInt64.le_iff_toNat_le, hnext] at hother
    have hcontains : deferqueueContains endpoint.channel.deferQ endpoint.channel.seqRx = true :=
      (deferqueueContains_iff _ _).mpr ⟨element, hmem, hseq⟩
    obtain ⟨removed, hremoved, hperm⟩ := deferqueueRemove_live P hcontains
    have hne : other ≠ removed := by
      rintro rfl
      rw [hremoved] at hother
      omega
    have hqueue : (advance P (handOver P endpoint element.packet).1).channel.deferQ =
        deferqueueRemove P endpoint.channel.deferQ endpoint.channel.seqRx := by
      rw [advance, hchannel]
    have hlater : endpoint.channel.seqRx ≤ seqNrOf other := by
      rw [UInt64.le_iff_toNat_le]
      omega
    rw [hqueue, ← h.remaining other hlater, hperm.mem_iff, List.mem_cons]
    simp [hne]

/-- The loop delivers the maximal run of waiting PDUs from `seq_rx` on. -/
theorem redFDeliverDeferQueue_deliversRun (P : Platform) (start : Endpoint) :
    ∃ handed, DeliversRun start (redFDeliverDeferQueue P start).1 handed := by
  -- after an abort the last PDU was handed over, but `seq_rx` has not moved on
  have hloop := @deliverLoop_rule P (fun endpoint => ∃ handed, Advanced start handed endpoint)
    (fun endpoint => ∃ handed, HandsRun start endpoint handed ∧
      start.channel.seqRx ≤ endpoint.channel.seqRx ∧
      (endpoint.con.aborted = false → Advanced start handed endpoint))
    ?_ ?_ start.channel.deferQ.count start false ⟨[], advanced_start start⟩
  · obtain ⟨handed, hhands, hforward, hadvanced⟩ := hloop
    refine ⟨handed, hhands, hforward, fun hrunning => ?_⟩
    have h := hadvanced hrunning
    refine ⟨h.seqRx, ?_⟩
    rintro ⟨element, hmem, hnumber⟩
    rcases deliverLoop_drained P start.channel.deferQ.count start false (Nat.le_refl _) with
      haborted | habsent
    · rw [redFDeliverDeferQueue, haborted] at hrunning
      cases hrunning
    · have hsame := UInt64.toNat_inj.mp hnumber
      have hstill := (h.remaining element (UInt64.le_of_eq hsame.symm)).mpr hmem
      have hfound := (deferqueueContains_iff _ _).mpr ⟨element, hstill, hsame⟩
      rw [redFDeliverDeferQueue, habsent] at hfound
      cases hfound
  · rintro endpoint ⟨handed, h⟩
    exact ⟨handed, h.toHandsRun, h.forward, fun _ => h⟩
  · rintro endpoint element ⟨handed, h⟩ hmem hseq
    refine ⟨fun haborted => ?_, fun _ => h.round hmem hseq⟩
    obtain ⟨handover, hchannel, hhands⟩ := h.handedOver (P := P) hmem hseq
    refine ⟨handed ++ [handover], hhands, ?_, fun hrunning => ?_⟩
    · rw [hchannel]
      exact h.forward
    · rw [haborted] at hrunning
      cases hrunning

end Delivery

section Resumption

/-- No slot behind the live elements holds a number below all of theirs, and none of theirs is
below `seq_rx`. -/
structure ResumeReady (channel : RedundancyChannel) : Prop where
  stale : ∀ slot ∈ channel.deferQ.elements.drop channel.deferQ.count,
    ∃ element ∈ channel.deferQ.live, seqNrOf element ≤ seqNrOf slot
  ahead : ∀ element ∈ channel.deferQ.live, channel.seqRx ≤ seqNrOf element

/-- What the defer timeout is to do: `seq_rx` is set to the oldest waiting number, the maximal run
of waiting PDUs from there on is delivered, and `seq_rx` is never moved backwards. -/
structure ResumesAtOldest (P : Platform) (endpoint : Endpoint) : Prop where
  oldest : IsLeast (waitingNumbers endpoint.channel.deferQ)
    (setSeqRxToSmallest endpoint).channel.seqRx.toNat
  delivers : ∃ handed,
    DeliversRun (setSeqRxToSmallest endpoint) (redFDeferTmo P endpoint) handed
  forward : endpoint.channel.seqRx ≤ (setSeqRxToSmallest endpoint).channel.seqRx ∧
    (setSeqRxToSmallest endpoint).channel.seqRx ≤ (redFDeferTmo P endpoint).channel.seqRx

/-- The search ends at a smallest number of the whole array. -/
theorem deferqueueSmallestSeqnr_spec {queue : DeferQueue} (h : queue.elements ≠ []) :
    ∃ slot, queue.elements[deferqueueSmallestSeqnr queue]? = some slot ∧
      ∀ other ∈ queue.elements, seqNrOf slot ≤ seqNrOf other := by
  unfold deferqueueSmallestSeqnr
  rcases scanMin_spec (fun element => some (seqNrOf element).toNat) 0 queue.elements
    (0xFFFFFFFF, none) with hkept | himproved
  · -- every number is the largest one, and the index is that of the first slot
    rw [hkept.same]
    obtain ⟨slot, rest, hslots⟩ := List.exists_cons_of_ne_nil h
    refine ⟨slot, by simp [hslots], fun other hother => ?_⟩
    have hlarge := hkept.least other hother _ rfl
    have hslot := slot.packet.sequenceNumber.toNat_lt
    have hnumber : (seqNrOf slot).toNat = slot.packet.sequenceNumber.toNat :=
      UInt32.toNat_toUInt64 _
    rw [UInt64.le_iff_toNat_le]
    simp only at hlarge
    omega
  · obtain ⟨index, slot, hindex, hget, hkey⟩ := himproved.attained
    refine ⟨slot, ?_, fun other hother => ?_⟩
    · rw [hindex]
      simpa using hget
    · have hle := himproved.least other hother _ rfl
      rw [UInt64.le_iff_toNat_le, Option.some.inj hkey]
      exact hle

theorem setSeqRxToSmallest_spec {endpoint : Endpoint}
    (h : endpoint.channel.deferQ.elements ≠ []) :
    ∃ slot ∈ endpoint.channel.deferQ.elements,
      setSeqRxToSmallest endpoint =
        { endpoint with channel := { endpoint.channel with seqRx := seqNrOf slot } } ∧
      ∀ other ∈ endpoint.channel.deferQ.elements, seqNrOf slot ≤ seqNrOf other := by
  obtain ⟨slot, hget, hleast⟩ := deferqueueSmallestSeqnr_spec h
  refine ⟨slot, List.mem_of_getElem? hget, ?_, hleast⟩
  simp only [setSeqRxToSmallest, hget, seqNrOf]

/-- For every channel state with a PDU waiting in the defer queue, whatever calls led to it: the
defer timeout resumes at the oldest waiting PDU if and only if no stale slot holds a smaller
number than all waiting PDUs and none of these is older than `seq_rx`. -/
theorem redFDeferTmo_resumes_iff (P : Platform) (endpoint : Endpoint)
    (hwaiting : endpoint.channel.deferQ.live ≠ []) :
    ResumesAtOldest P endpoint ↔ ResumeReady endpoint.channel := by
  have hsplit : endpoint.channel.deferQ.elements = endpoint.channel.deferQ.live ++
      endpoint.channel.deferQ.elements.drop endpoint.channel.deferQ.count :=
    (List.take_append_drop _ _).symm
  have hslots : endpoint.channel.deferQ.elements ≠ [] := by
    intro hnil
    rw [hnil] at hsplit
    exact hwaiting (List.append_eq_nil_iff.mp hsplit.symm).1
  obtain ⟨slot, hslot, hset, hleast⟩ := setSeqRxToSmallest_spec hslots
  have hseq : (setSeqRxToSmallest endpoint).channel.seqRx = seqNrOf slot := by rw [hset]
  have hlive : ∀ element ∈ endpoint.channel.deferQ.live,
      element ∈ endpoint.channel.deferQ.elements := fun _ hmem => List.mem_of_mem_take hmem
  constructor
  · intro h
    obtain ⟨⟨oldest, holdest, hnumber⟩, -⟩ := h.oldest
    rw [hseq] at hnumber
    have hsame : seqNrOf oldest = seqNrOf slot := UInt64.toNat_inj.mp hnumber
    refine ⟨fun stale hstale => ⟨oldest, holdest, ?_⟩, fun element hmem => ?_⟩
    · rw [hsame]
      exact hleast stale (List.mem_of_mem_drop hstale)
    · have hforward := h.forward.1
      rw [hseq] at hforward
      exact UInt64.le_trans hforward (hleast element (hlive element hmem))
  · intro h
    obtain ⟨oldest, holdest, hbelow⟩ : ∃ element ∈ endpoint.channel.deferQ.live,
        seqNrOf element ≤ seqNrOf slot := by
      rw [hsplit] at hslot
      rcases List.mem_append.mp hslot with hmem | hmem
      · exact ⟨slot, hmem, UInt64.le_refl _⟩
      · exact h.stale slot hmem
    have hsame : seqNrOf oldest = seqNrOf slot :=
      UInt64.le_antisymm hbelow (hleast oldest (hlive oldest holdest))
    obtain ⟨handed, hrun⟩ := redFDeliverDeferQueue_deliversRun P (setSeqRxToSmallest endpoint)
    refine ⟨⟨⟨oldest, holdest, by rw [hseq, hsame]⟩, ?_⟩, ⟨handed, hrun⟩, ?_, hrun.forward⟩
    · rintro number ⟨element, hmem, rfl⟩
      rw [hseq, ← UInt64.le_iff_toNat_le]
      exact hleast element (hlive element hmem)
    · rw [hseq, ← hsame]
      exact h.ahead oldest holdest

end Resumption

section Example

/-- An endpoint whose queue lies in memory that holds the largest number everywhere. -/
def exampleTimed : Endpoint :=
  freshEndpoint exampleConfig (fun _ => 0)
    (fun _ =>
      { packet := { zeroRedundancyPacket with sequenceNumber := 0xFFFFFFFF }
        receivedTimestamp := 0 }) 1

/-- After PDU 0 was delivered, PDUs 2, 3 and 5 wait for PDU 1. -/
def exampleGap : Endpoint :=
  (receiveEvents referencePlatform 1 (redundancyChannelInit exampleTimed)
    [exampleReadOn 0 0, exampleReadOn 0 2, exampleReadOn 0 3, exampleReadOn 0 5]).get
    (by decide +kernel)

theorem redFDeferTmo_resumes_iff_gap :
    ResumesAtOldest referencePlatform exampleGap ∧
      (redFDeferTmo referencePlatform exampleGap).channel.seqRx = 4 := by
  have hobserved : exampleGap.channel.deferQ.live ≠ [] ∧
      (∀ slot ∈ exampleGap.channel.deferQ.elements.drop exampleGap.channel.deferQ.count,
        ∃ element ∈ exampleGap.channel.deferQ.live, seqNrOf element ≤ seqNrOf slot) ∧
      (∀ element ∈ exampleGap.channel.deferQ.live,
        exampleGap.channel.seqRx ≤ seqNrOf element) ∧
      (redFDeferTmo referencePlatform exampleGap).channel.seqRx = 4 := by decide +kernel
  obtain ⟨hlive, hstale, hahead, hresumed⟩ := hobserved
  exact ⟨(redFDeferTmo_resumes_iff referencePlatform exampleGap hlive).mpr ⟨hstale, hahead⟩,
    hresumed⟩

/-- PDU 4 waits for PDU 3, after PDU 1 was waited for and delivered with PDU 2. -/
def exampleStale : Endpoint :=
  (receiveEvents referencePlatform 1 (redundancyChannelInit exampleTimed)
    [exampleReadOn 0 0, exampleReadOn 0 2, exampleReadOn 0 1, exampleReadOn 0 4]).get
    (by decide +kernel)

/-- The slot that PDU 1 left takes the channel back from 3 to 1, and PDU 4 is not delivered. -/
theorem redFDeferTmo_goes_back :
    Reachable referencePlatform exampleStale ∧
      exampleStale.channel.deferQ.live.map seqNrOf = [4] ∧
      exampleStale.channel.deferQ.elements.map seqNrOf = [4, 1, 0xFFFFFFFF, 0xFFFFFFFF] ∧
      exampleStale.channel.seqRx = 3 ∧
      (redFDeferTmo referencePlatform exampleStale).channel.seqRx = 1 ∧
      (redFDeferTmo referencePlatform exampleStale).channel.delivered.length =
        exampleStale.channel.delivered.length ∧
      ¬ ResumesAtOldest referencePlatform exampleStale := by
  have hobserved :
      (exampleStale.channel.deferQ.live.map seqNrOf,
        exampleStale.channel.deferQ.elements.map seqNrOf, exampleStale.channel.seqRx,
        (setSeqRxToSmallest exampleStale).channel.seqRx,
        (redFDeferTmo referencePlatform exampleStale).channel.seqRx,
        (redFDeferTmo referencePlatform exampleStale).channel.delivered.length) =
      ([4], [4, 1, 0xFFFFFFFF, 0xFFFFFFFF], 3, 1, 1,
        exampleStale.channel.delivered.length) := by decide +kernel
  simp only [Prod.mk.injEq] at hobserved
  obtain ⟨hlive, helements, hseqRx, hset, hresumed, hdelivered⟩ := hobserved
  refine ⟨⟨exampleTimed, 1, _, (Option.some_get _).symm⟩, hlive, helements, hseqRx, hresumed,
    hdelivered, fun h => ?_⟩
  have hforward := h.forward.1
  rw [hset, hseqRx] at hforward
  exact absurd hforward (by decide)

end Example

end LibRasta.Redundancy
