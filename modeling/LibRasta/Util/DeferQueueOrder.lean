/-
Module: LibRasta/Util/DeferQueueOrder.lean
source: src/c/util/rastadeferqueue.c
digest: When the comparison function of the defer queue orders by arrival: two timestamps must differ, modulo 2^32, by less than 2^31. Queues of such timestamps are sorted after every call.
-/

import LibRasta.Util.DeferQueueBag

set_option autoImplicit false
set_option relaxedAutoImplicit false

namespace LibRasta.Util

open LibRasta.Lib

section Sorting

variable {α : Type}

/-- A comparison function that orders the elements of an array like a total preorder. -/
structure ConsistentOn (compare : α → α → Int) (elements : List α) : Prop where
  antisymm_sign : ∀ a ∈ elements, ∀ b ∈ elements, compare a b ≤ 0 ↔ 0 ≤ compare b a
  trans_le : ∀ a ∈ elements, ∀ b ∈ elements, ∀ c ∈ elements,
    compare a b ≤ 0 → compare b c ≤ 0 → compare a c ≤ 0

/-- What the C standard says about `qsort`: the array is sorted if the comparison function is
consistent on its elements. -/
def QsortSorts (P : Platform) : Prop :=
  ∀ compare elements, ConsistentOn compare elements →
    (P.qsort compare elements).Pairwise fun a b => compare a b ≤ 0

theorem qsortSorts_referencePlatform : QsortSorts referencePlatform := by
  intro compare elements h
  -- on the subtype of the elements the comparison is a total preorder
  have hmap := List.map_insertionSort (fun a b : {a // a ∈ elements} => compare a b ≤ 0)
    (fun a b => compare a b ≤ 0) Subtype.val elements.attach fun a _ b _ => Iff.rfl
  rw [List.attach_map_subtype_val] at hmap
  have htotal : ∀ a b : {a // a ∈ elements}, compare a b ≤ 0 ∨ compare b a ≤ 0 := by
    intro a b
    have hsign := h.antisymm_sign a a.2 b b.2
    omega
  have : Std.Total fun a b : {a // a ∈ elements} => compare a b ≤ 0 := ⟨htotal⟩
  have : IsTrans {a // a ∈ elements} fun a b => compare a b ≤ 0 :=
    ⟨fun a b c => h.trans_le a a.2 b b.2 c c.2⟩
  change (elements.insertionSort fun a b => compare a b ≤ 0).Pairwise _
  rw [← hmap, List.pairwise_map]
  exact List.pairwise_insertionSort _ _

end Sorting

section Comparison

/-- The distance of two timestamps. -/
def gap (s t : UInt64) : ℕ := (s.toNat - t.toNat) + (t.toNat - s.toNat)

/-- The distance of two different timestamps leaves, modulo 2^32, a positive `int`. -/
def Comparable (s t : UInt64) : Prop :=
  s = t ∨ 0 < gap s t % 2 ^ 32 ∧ gap s t % 2 ^ 32 < 2 ^ 31

instance (s t : UInt64) : Decidable (Comparable s t) := inferInstanceAs (Decidable (_ ∨ _))

theorem Comparable.symm {s t : UInt64} (h : Comparable s t) : Comparable t s := by
  have hgap : gap t s = gap s t := Nat.add_comm _ _
  rw [Comparable, hgap]
  exact h.imp Eq.symm id

/-- The conversions drop multiples of 2^64 and of 2^32. -/
theorem cmpfkt_eq (a b : RastaRedundancyPacketWrapper) :
    cmpfkt a b =
      toCInt ((a.receivedTimestamp.toNat : Int) - (b.receivedTimestamp.toNat : Int)) := by
  have ha := a.receivedTimestamp.toNat_lt
  have hb := b.receivedTimestamp.toNat_lt
  simp only [cmpfkt, toCInt, toCLongLong]
  split <;> split <;> omega

/-- The comparison function orders two elements by arrival, whichever is passed first. -/
def ComparesByArrival (a b : RastaRedundancyPacketWrapper) : Prop :=
  (cmpfkt a b ≤ 0 ↔ a.receivedTimestamp ≤ b.receivedTimestamp) ∧
    (cmpfkt b a ≤ 0 ↔ b.receivedTimestamp ≤ a.receivedTimestamp)

theorem comparesByArrival_iff (a b : RastaRedundancyPacketWrapper) :
    ComparesByArrival a b ↔ Comparable a.receivedTimestamp b.receivedTimestamp := by
  have ha := a.receivedTimestamp.toNat_lt
  have hb := b.receivedTimestamp.toNat_lt
  simp only [ComparesByArrival, Comparable, gap, cmpfkt_eq, toCInt, UInt64.le_iff_toNat_le,
    ← UInt64.toNat_inj]
  omega

theorem cmpfkt_antisymm {a b : RastaRedundancyPacketWrapper}
    (h : Comparable a.receivedTimestamp b.receivedTimestamp) :
    cmpfkt a b ≤ 0 ↔ 0 ≤ cmpfkt b a := by
  have ha := a.receivedTimestamp.toNat_lt
  have hb := b.receivedTimestamp.toNat_lt
  simp only [Comparable, gap, ← UInt64.toNat_inj] at h
  simp only [cmpfkt_eq, toCInt]
  omega

end Comparison

section Order

/-- The live elements are in ascending order of arrival. -/
def Ascending (queue : DeferQueue) : Prop :=
  queue.live.Pairwise fun a b => a.receivedTimestamp ≤ b.receivedTimestamp

instance (queue : DeferQueue) : Decidable (Ascending queue) :=
  inferInstanceAs (Decidable (queue.live.Pairwise _))

/-- Any two timestamps in the queue can be compared. -/
def Datable (queue : DeferQueue) : Prop :=
  ∀ a ∈ queue.live, ∀ b ∈ queue.live, Comparable a.receivedTimestamp b.receivedTimestamp

/-- An element that is added to a queue with room has a timestamp that can be compared with those
of the elements in the queue. -/
def WellTimed (queue : DeferQueue) : DeferCall → Prop
  | .add _ recvTs => queue.count = queue.maxCount ∨
    ∀ element ∈ queue.live, Comparable element.receivedTimestamp recvTs
  | .remove _ | .clear => True

instance (queue : DeferQueue) : (call : DeferCall) → Decidable (WellTimed queue call)
  | .add _ _ => inferInstanceAs (Decidable (_ ∨ _))
  | .remove _ | .clear => .isTrue trivial

variable {P : Platform} {queue : DeferQueue}

/-- The array is sorted by arrival if any two of its timestamps can be compared. -/
theorem sort_ascending (hqsort : QsortSorts P) (h : Datable (sort P queue)) :
    Ascending (sort P queue) := by
  have hmem : ∀ element, element ∈ queue.live ↔ element ∈ (sort P queue).live := fun element =>
    (sort_live_perm P queue).mem_iff.symm
  have hcompares : ∀ a ∈ queue.live, ∀ b ∈ queue.live, ComparesByArrival a b := fun a ha b hb =>
    (comparesByArrival_iff a b).mpr (h a ((hmem a).mp ha) b ((hmem b).mp hb))
  have hconsistent : ConsistentOn cmpfkt queue.live := by
    refine ⟨fun a ha b hb => ?_, fun a ha b hb c hc hab hbc => ?_⟩
    · exact cmpfkt_antisymm (h a ((hmem a).mp ha) b ((hmem b).mp hb))
    · rw [(hcompares a ha b hb).1] at hab
      rw [(hcompares b hb c hc).1] at hbc
      rw [(hcompares a ha c hc).1]
      exact UInt64.le_trans hab hbc
  have hsorted := hqsort cmpfkt queue.live hconsistent
  rw [← sort_live] at hsorted
  refine hsorted.imp_of_mem fun {a b} ha hb hle => ?_
  exact (hcompares a ((hmem a).mpr ha) b ((hmem b).mpr hb)).1.mp hle

/-- What is in the queue after a call was there before, or it was added. -/
theorem Datable.step (h : Datable queue) {call : DeferCall} (htimed : WellTimed queue call) :
    Datable (deferStep P queue call) := by
  cases call with
  | add packet recvTs =>
    by_cases hfull : queue.count = queue.maxCount
    · rw [deferStep, deferqueueAdd_of_full P hfull]
      exact h
    · have hnew := htimed.resolve_left hfull
      have hperm := deferqueueAdd_live P hfull packet recvTs
      intro a ha b hb
      rcases List.mem_cons.mp (hperm.mem_iff.mp ha) with rfl | ha
      · rcases List.mem_cons.mp (hperm.mem_iff.mp hb) with rfl | hb
        · exact .inl rfl
        · exact (hnew b hb).symm
      · rcases List.mem_cons.mp (hperm.mem_iff.mp hb) with rfl | hb
        · exact hnew a ha
        · exact h a ha b hb
  | remove seqNr =>
    cases hcontains : deferqueueContains queue seqNr with
    | true =>
      obtain ⟨element, -, hperm⟩ := deferqueueRemove_live P hcontains
      have hsub : ∀ a ∈ (deferqueueRemove P queue seqNr).live, a ∈ queue.live := fun a ha =>
        hperm.mem_iff.mpr (List.mem_cons_of_mem element ha)
      exact fun a ha b hb => h a (hsub a ha) b (hsub b hb)
    | false =>
      rw [deferStep, deferqueueRemove_of_absent P hcontains]
      exact h
  | clear =>
    intro a ha
    simp [deferStep, deferqueueClear, DeferQueue.live] at ha

/-- Every call that changes the array of a queue ends with a sort, or leaves it empty. -/
theorem deferStep_sorts (queue : DeferQueue) (call : DeferCall) :
    deferStep P queue call = queue ∨ (deferStep P queue call).live = [] ∨
      ∃ unsorted, deferStep P queue call = sort P unsorted := by
  cases call with
  | add packet recvTs =>
    by_cases hfull : queue.count = queue.maxCount
    · rw [deferStep, deferqueueAdd_of_full P hfull]
      exact .inl rfl
    · rw [deferStep, deferqueueAdd, dif_neg hfull]
      exact .inr (.inr ⟨_, rfl⟩)
  | remove seqNr =>
    rw [deferStep, deferqueueRemove]
    split
    · exact .inl rfl
    · exact .inr (.inr ⟨_, rfl⟩)
  | clear => exact .inr (.inl (by simp [deferStep, deferqueueClear, DeferQueue.live]))

theorem Ascending.step (hqsort : QsortSorts P) (h : Ascending queue) {call : DeferCall}
    (hdatable : Datable (deferStep P queue call)) : Ascending (deferStep P queue call) := by
  rcases deferStep_sorts queue call with hsame | hnil | ⟨unsorted, hsort⟩
  · rwa [hsame]
  · rw [Ascending, hnil]
    exact List.Pairwise.nil
  · rw [hsort] at hdatable ⊢
    exact sort_ascending hqsort hdatable

/-- In every run whose additions are well timed, the live elements are sorted by arrival after
every call. -/
theorem deferQueue_ascending (P : Platform) (hqsort : QsortSorts P) (n : ℕ)
    (slots : ℕ → RastaRedundancyPacketWrapper) (calls : List DeferCall)
    (htimed : RunOk (deferStep P) WellTimed (freshQueue n slots) calls) :
    ∀ t ∈ trace (deferStep P) (freshQueue n slots) calls, Ascending t.after := by
  have hempty : (freshQueue n slots).live = [] := by
    simp [freshQueue, deferqueueInit, DeferQueue.live]
  intro t ht
  obtain ⟨front, back, rfl, hbefore, hafter⟩ := mem_trace (deferStep P) ht
  have hsplit : front ++ t.event :: back = front ++ [t.event] ++ back := by simp
  rw [hsplit] at htimed
  have hstart : Datable (freshQueue n slots) ∧ Ascending (freshQueue n slots) := by
    simp [Datable, Ascending, hempty]
  have hkept := @run_invariant _ _ (deferStep P) _ (fun queue => Datable queue ∧ Ascending queue)
    (fun _ _ h hcall => ⟨h.1.step hcall, h.2.step hqsort (h.1.step hcall)⟩) _ _
    ((runOk_append (deferStep P)).mp htimed).1 hstart
  rw [run_append, run_cons, run_nil, ← hbefore, ← hafter] at hkept
  exact hkept.2

/-- A queue with two places after two elements were added. -/
theorem run_add_add (P : Platform) (slots : ℕ → RastaRedundancyPacketWrapper)
    (a b : RastaRedundancyPacketWrapper) :
    (run (deferStep P) (freshQueue 2 slots)
        [.add a.packet a.receivedTimestamp, .add b.packet b.receivedTimestamp]).live =
      P.qsort cmpfkt [a, b] := by
  have hempty : (freshQueue 2 slots).count ≠ (freshQueue 2 slots).maxCount :=
    show (0 : ℕ) ≠ 2 by decide
  have hcount := deferqueueAdd_count P hempty a.packet a.receivedTimestamp
  have hroom : (deferqueueAdd P (freshQueue 2 slots) a.packet a.receivedTimestamp).2.count ≠
      (deferqueueAdd P (freshQueue 2 slots) a.packet a.receivedTimestamp).2.maxCount := by
    rw [hcount, deferqueueAdd_maxCount]
    exact show (1 : ℕ) ≠ 2 by decide
  have hfirst : (deferqueueAdd P (freshQueue 2 slots) a.packet a.receivedTimestamp).2.live =
      [a] := by
    have hperm := deferqueueAdd_live P hempty a.packet a.receivedTimestamp
    have hnone : (freshQueue 2 slots).live = [] := by
      simp [freshQueue, deferqueueInit, DeferQueue.live]
    rw [hnone] at hperm
    exact List.perm_singleton.mp hperm
  simp only [run_cons, run_nil, deferStep]
  rw [deferqueueAdd_live_eq P hroom, hfirst]
  rfl

/-- The condition on two timestamps cannot be weakened: a queue of two elements is sorted by
arrival on every platform, whichever is added first, only if they can be compared. -/
theorem comparable_of_ascending (slots : ℕ → RastaRedundancyPacketWrapper)
    (a b : RastaRedundancyPacketWrapper)
    (h : ∀ P, QsortSorts P →
      Ascending (run (deferStep P) (freshQueue 2 slots)
          [.add a.packet a.receivedTimestamp, .add b.packet b.receivedTimestamp]) ∧
        Ascending (run (deferStep P) (freshQueue 2 slots)
          [.add b.packet b.receivedTimestamp, .add a.packet a.receivedTimestamp])) :
    Comparable a.receivedTimestamp b.receivedTimestamp := by
  obtain ⟨hab, hba⟩ := h referencePlatform qsortSorts_referencePlatform
  -- insertion sort leaves two elements as they are unless the comparison is positive
  have hsort : ∀ x y, cmpfkt x y ≤ 0 → referencePlatform.qsort cmpfkt [x, y] = [x, y] :=
    fun x y hle => if_pos hle
  rw [Ascending, run_add_add] at hab hba
  have hleft : cmpfkt a b ≤ 0 → a.receivedTimestamp ≤ b.receivedTimestamp := by
    intro hle
    rw [hsort a b hle] at hab
    simpa using hab
  have hright : cmpfkt b a ≤ 0 → b.receivedTimestamp ≤ a.receivedTimestamp := by
    intro hle
    rw [hsort b a hle] at hba
    simpa using hba
  have ha := a.receivedTimestamp.toNat_lt
  have hb := b.receivedTimestamp.toNat_lt
  simp only [cmpfkt_eq, toCInt, UInt64.le_iff_toNat_le] at hleft hright
  simp only [Comparable, gap, ← UInt64.toNat_inj]
  omega

end Order

section Example

def exampleSlots (_ : ℕ) : RastaRedundancyPacketWrapper where
  packet := zeroRedundancyPacket
  receivedTimestamp := 0

/-- Three PDUs, the second of them late by the clock, and a removal. -/
def exampleDeferCalls : List DeferCall :=
  [.add { zeroRedundancyPacket with sequenceNumber := 1 } 5000,
    .add { zeroRedundancyPacket with sequenceNumber := 2 } 4000,
    .add { zeroRedundancyPacket with sequenceNumber := 3 } 4500, .remove 1]

theorem deferQueue_ascending_example :
    (trace (deferStep referencePlatform) (freshQueue 4 exampleSlots) exampleDeferCalls).all
      (fun t => decide (Ascending t.after)) = true := by
  rw [List.all_eq_true]
  intro t ht
  exact decide_eq_true (deferQueue_ascending referencePlatform qsortSorts_referencePlatform 4
    exampleSlots exampleDeferCalls (by decide +kernel) t ht)

/-- A PDU that arrives 3 * 2^30 ms after the one in the queue is sorted in front of it. -/
theorem deferQueue_not_ascending :
    QsortSorts referencePlatform ∧
      ¬ Ascending (run (deferStep referencePlatform) (freshQueue 2 exampleSlots)
        [.add zeroRedundancyPacket 1, .add zeroRedundancyPacket 3221225473]) :=
  ⟨qsortSorts_referencePlatform, by decide +kernel⟩

end Example

end LibRasta.Util
