/-
Module: LibRasta/Util/DeferQueueBag.lean
source: src/c/util/rastadeferqueue.c
digest: The defer queue over whole runs: its live elements are a bag of bounded size, in which nothing is lost or doubled, and the lookups answer according to the bag.
-/

import LibRasta.Lib.Runs
import LibRasta.Util.DeferQueue
import Mathlib.Data.Multiset.Filter

set_option autoImplicit false
set_option relaxedAutoImplicit false

namespace LibRasta.Util

open LibRasta.Lib

/-- A call that changes a defer queue. -/
inductive DeferCall where
  | add (packet : RastaRedundancyPacket) (recvTs : UInt64)
  | remove (seqNr : UInt64)
  | clear

/-- A bag of queue elements. -/
abbrev Bag := Multiset RastaRedundancyPacketWrapper

/-- What a call does to a bag that holds at most `n` elements, and what it returns, if it returns
something. Which one of several elements with the number is removed is left open. -/
inductive BagStep (n : ℕ) (bag : Bag) : DeferCall → Option Bool → Bag → Prop where
  | full (packet : RastaRedundancyPacket) (recvTs : UInt64) :
    Multiset.card bag = n → BagStep n bag (.add packet recvTs) (some false) bag
  | inserted (packet : RastaRedundancyPacket) (recvTs : UInt64) :
    Multiset.card bag ≠ n → BagStep n bag (.add packet recvTs) (some true)
      ({ packet := packet, receivedTimestamp := recvTs } ::ₘ bag)
  | removed (element : RastaRedundancyPacketWrapper) (after : Bag) :
    bag = element ::ₘ after → BagStep n bag (.remove (seqNrOf element)) none after
  | absent (seqNr : UInt64) :
    (∀ element ∈ bag, seqNrOf element ≠ seqNr) → BagStep n bag (.remove seqNr) none bag
  | cleared : BagStep n bag .clear none 0

/-- A sequence of calls on a bag. -/
inductive BagRun (n : ℕ) : Bag → List DeferCall → List (Option Bool) → Bag → Prop where
  | nil (bag : Bag) : BagRun n bag [] [] bag
  | cons {bag middle after : Bag} {call : DeferCall} {answer : Option Bool}
    {calls : List DeferCall} {answers : List (Option Bool)} :
    BagStep n bag call answer middle → BagRun n middle calls answers after →
      BagRun n bag (call :: calls) (answer :: answers) after

section Calls

variable (P : Platform)

/-- The same call on the queue. -/
def deferStep (queue : DeferQueue) : DeferCall → DeferQueue
  | .add packet recvTs => (deferqueueAdd P queue packet recvTs).2
  | .remove seqNr => deferqueueRemove P queue seqNr
  | .clear => deferqueueClear queue

def deferAnswer (queue : DeferQueue) : DeferCall → Option Bool
  | .add packet recvTs => some (deferqueueAdd P queue packet recvTs).1
  | .remove _ | .clear => none

/-- What the calls of a run return. -/
def deferAnswers (queue : DeferQueue) (calls : List DeferCall) : List (Option Bool) :=
  (trace (deferStep P) queue calls).map fun t => deferAnswer P t.before t.event

/-- A queue of capacity `n` in memory with any contents. -/
def freshQueue (n : ℕ) (slots : ℕ → RastaRedundancyPacketWrapper) : DeferQueue :=
  deferqueueInit n ((List.range n).map slots) (by simp)

end Calls

section Refinement

/-- The bag of the live elements. -/
def bagOf (queue : DeferQueue) : Bag := queue.live

variable (P : Platform) {queue : DeferQueue}

theorem card_bagOf (queue : DeferQueue) : Multiset.card (bagOf queue) = queue.count := by
  rw [bagOf, Multiset.coe_card, DeferQueue.length_live]

theorem bagOf_clear (queue : DeferQueue) : bagOf (deferqueueClear queue) = 0 := by
  simp [bagOf, deferqueueClear, DeferQueue.live]

@[simp]
theorem deferStep_maxCount (queue : DeferQueue) (call : DeferCall) :
    (deferStep P queue call).maxCount = queue.maxCount := by
  cases call with
  | add packet recvTs => exact deferqueueAdd_maxCount P queue packet recvTs
  | remove seqNr => exact deferqueueRemove_maxCount P queue seqNr
  | clear => rfl

theorem deferqueueRemove_of_absent {seqNr : UInt64}
    (h : deferqueueContains queue seqNr = false) : deferqueueRemove P queue seqNr = queue := by
  have hnone : findIndex queue seqNr = none := by simpa [deferqueueContains] using h
  simp [deferqueueRemove, hnone]

/-- One call does to the bag what the specification allows. -/
theorem bagStep (queue : DeferQueue) (call : DeferCall) :
    BagStep queue.maxCount (bagOf queue) call (deferAnswer P queue call)
      (bagOf (deferStep P queue call)) := by
  cases call with
  | add packet recvTs =>
    by_cases hfull : queue.count = queue.maxCount
    · rw [deferAnswer, deferStep, deferqueueAdd_of_full P hfull]
      exact .full packet recvTs ((card_bagOf queue).trans hfull)
    · have hadded : (deferqueueAdd P queue packet recvTs).1 = true := by
        simp [deferqueueAdd, hfull]
      have hbag : bagOf (deferqueueAdd P queue packet recvTs).2 =
          { packet := packet, receivedTimestamp := recvTs } ::ₘ bagOf queue :=
        Multiset.coe_eq_coe.mpr (deferqueueAdd_live P hfull packet recvTs)
      rw [deferAnswer, deferStep, hadded, hbag]
      exact .inserted packet recvTs (by rwa [card_bagOf])
  | remove seqNr =>
    cases hcontains : deferqueueContains queue seqNr with
    | true =>
      obtain ⟨element, rfl, hperm⟩ := deferqueueRemove_live P hcontains
      exact .removed element _ (Multiset.coe_eq_coe.mpr hperm)
    | false =>
      rw [deferStep, deferqueueRemove_of_absent P hcontains]
      refine .absent seqNr fun element hmem hseq => ?_
      have hfound := (deferqueueContains_iff queue seqNr).mpr ⟨element, hmem, hseq⟩
      rw [hcontains] at hfound
      cases hfound
  | clear =>
    rw [deferStep, bagOf_clear]
    exact .cleared

theorem bagRun (queue : DeferQueue) (calls : List DeferCall) :
    BagRun queue.maxCount (bagOf queue) calls (deferAnswers P queue calls)
      (bagOf (run (deferStep P) queue calls)) := by
  induction calls generalizing queue with
  | nil => exact .nil _
  | cons call rest ih =>
    have hrest := ih (deferStep P queue call)
    rw [deferStep_maxCount] at hrest
    exact .cons (bagStep P queue call) hrest

end Refinement

section Lookup

variable {queue : DeferQueue}

theorem deferqueueGetTs_spec {seqNr : UInt64} (h : deferqueueContains queue seqNr = true) :
    ∃ element ∈ queue.live, seqNrOf element = seqNr ∧
      deferqueueGet queue seqNr = some element.packet ∧
      deferqueueGetTs queue seqNr = element.receivedTimestamp := by
  obtain ⟨index, hindex⟩ := Option.isSome_iff_exists.mp h
  obtain ⟨-, element, hget, hmem, hseq⟩ := findIndex_some hindex
  exact ⟨element, hmem, hseq, by simp [deferqueueGet, hindex, hget],
    by simp [deferqueueGetTs, hindex, hget]⟩

/-- How the lookups answer for the elements of a bag. -/
structure AnswersAs (queue : DeferQueue) (bag : Bag) : Prop where
  contains : ∀ seqNr, deferqueueContains queue seqNr = true ↔
    ∃ element ∈ bag, seqNrOf element = seqNr
  get : ∀ element ∈ bag, bag.countP (fun other => seqNrOf other = seqNrOf element) = 1 →
    deferqueueGet queue (seqNrOf element) = some element.packet ∧
      deferqueueGetTs queue (seqNrOf element) = element.receivedTimestamp

theorem answersAs_bagOf (queue : DeferQueue) : AnswersAs queue (bagOf queue) := by
  refine ⟨deferqueueContains_iff queue, fun element hmem honce => ?_⟩
  obtain ⟨found, hfound, hseq, hget, hts⟩ := deferqueueGetTs_spec
    ((deferqueueContains_iff queue (seqNrOf element)).mpr ⟨element, hmem, rfl⟩)
  -- the only element with the number is the one that was found
  have hsame : found = element := by
    rw [Multiset.countP_eq_card_filter] at honce
    obtain ⟨only, honly⟩ := Multiset.card_eq_one.mp honce
    have hin : ∀ other ∈ bagOf queue, seqNrOf other = seqNrOf element → other = only := by
      intro other hother heq
      have hfilter : other ∈ (bagOf queue).filter fun x => seqNrOf x = seqNrOf element :=
        Multiset.mem_filter.mpr ⟨hother, heq⟩
      rw [honly] at hfilter
      exact Multiset.mem_singleton.mp hfilter
    rw [hin found hfound hseq, hin element hmem rfl]
  rw [hsame] at hget hts
  exact ⟨hget, hts⟩

end Lookup

end LibRasta.Util
