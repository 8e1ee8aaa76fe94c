/-
Module: LibRasta/Util/DeferQueue.lean
source: src/c/util/rastadeferqueue.c
digest: The defer queue as its allocated array with a live prefix, and how each operation permutes that prefix.
-/

import LibRasta.Lib.Slots
import LibRasta.Util.Packet

set_option autoImplicit false
set_option relaxedAutoImplicit false

namespace LibRasta.Util


/-- `struct defer_queue`. The live elements are the first `count` slots; the others keep what
was last written there. -/
structure DeferQueue where
  elements : List RastaRedundancyPacketWrapper
  count : ℕ
  maxCount : ℕ
  length_eq : elements.length = maxCount
  count_le : count ≤ maxCount
deriving DecidableEq

/-- The live elements. -/
def DeferQueue.live (queue : DeferQueue) : List RastaRedundancyPacketWrapper :=
  queue.elements.take queue.count

@[simp]
theorem DeferQueue.length_live (queue : DeferQueue) : queue.live.length = queue.count := by
  have hlen := queue.length_eq
  have hcount := queue.count_le
  simp only [live, List.length_take]
  omega

section Translation

variable (P : Platform)

/-- The scan of `find_index` over the live elements. -/
def findIndex (queue : DeferQueue) (seqNr : UInt64) : Option ℕ :=
  queue.live.findIdx? fun element => element.packet.sequenceNumber.toUInt64 == seqNr

/-- The conversion of a 64 bit value to `int`. -/
def toCInt (v : Int) : Int :=
  (v + 2 ^ 31) % 2 ^ 32 - 2 ^ 31

/-- The conversion of an `unsigned long` to `long long`. -/
def toCLongLong (v : UInt64) : Int :=
  if v.toNat < 2 ^ 63 then v.toNat else (v.toNat : Int) - 2 ^ 64

/-- `cmpfkt`. -/
def cmpfkt (a b : RastaRedundancyPacketWrapper) : Int :=
  toCInt (toCLongLong a.receivedTimestamp - toCLongLong b.receivedTimestamp)

/-- `sort`: `qsort` over the live prefix. -/
def sort (queue : DeferQueue) : DeferQueue :=
  { queue with
    elements := P.qsort cmpfkt queue.live ++ queue.elements.drop queue.count
    length_eq := by
      have hlen := queue.length_eq
      have hcount := queue.count_le
      rw [List.length_append, (P.qsort_perm _ _).length_eq, DeferQueue.length_live,
        List.length_drop]
      omega }

/-- `deferqueue_init`; `slots` is what the allocated memory happened to hold. -/
def deferqueueInit (nMax : ℕ) (slots : List RastaRedundancyPacketWrapper)
    (h : slots.length = nMax) : DeferQueue where
  elements := slots
  count := 0
  maxCount := nMax
  length_eq := h
  count_le := Nat.zero_le _

/-- `deferqueue_isfull`. -/
def deferqueueIsfull (queue : DeferQueue) : Bool :=
  queue.count == queue.maxCount

/-- `deferqueue_add`. -/
def deferqueueAdd (queue : DeferQueue) (packet : RastaRedundancyPacket) (recvTs : UInt64) :
    Bool × DeferQueue :=
  if h : queue.count = queue.maxCount then (false, queue)
  else
    let element : RastaRedundancyPacketWrapper :=
      { packet := packet, receivedTimestamp := recvTs }
    (true, sort P
      { queue with
        elements := queue.elements.set queue.count element
        count := queue.count + 1
        length_eq := by rw [List.length_set, queue.length_eq]
        count_le := by
          have hcount := queue.count_le
          omega })

/-- `deferqueue_remove`: the last live element takes the place of the removed one. -/
def deferqueueRemove (queue : DeferQueue) (seqNr : UInt64) : DeferQueue :=
  match findIndex queue seqNr with
  | none => queue
  | some index =>
    sort P
      { queue with
        elements :=
          if index = queue.count - 1 then queue.elements
          else
            match queue.elements[queue.count - 1]? with
            | some last => queue.elements.set index last
            | none => queue.elements
        count := queue.count - 1
        length_eq := by
          split
          · exact queue.length_eq
          · split
            · rw [List.length_set, queue.length_eq]
            · exact queue.length_eq
        count_le := Nat.le_trans (Nat.sub_le _ _) queue.count_le }

/-- `deferqueue_contains`. -/
def deferqueueContains (queue : DeferQueue) (seqNr : UInt64) : Bool :=
  (findIndex queue seqNr).isSome

/-- `deferqueue_get`; the source returns a zeroed packet when there is none. -/
def deferqueueGet (queue : DeferQueue) (seqNr : UInt64) : Option RastaRedundancyPacket :=
  ((findIndex queue seqNr).bind fun index => queue.elements[index]?).map
    RastaRedundancyPacketWrapper.packet

/-- `deferqueue_get_ts`. -/
def deferqueueGetTs (queue : DeferQueue) (seqNr : UInt64) : UInt64 :=
  match (findIndex queue seqNr).bind fun index => queue.elements[index]? with
  | some element => element.receivedTimestamp
  | none => 0

/-- `deferqueue_clear`. -/
def deferqueueClear (queue : DeferQueue) : DeferQueue :=
  { queue with count := 0, count_le := Nat.zero_le _ }

end Translation

section Bag

variable (P : Platform)

/-- The sequence number under which a queue element is found. -/
def seqNrOf (element : RastaRedundancyPacketWrapper) : UInt64 :=
  element.packet.sequenceNumber.toUInt64

@[simp]
theorem sort_maxCount (queue : DeferQueue) : (sort P queue).maxCount = queue.maxCount := rfl

@[simp]
theorem sort_count (queue : DeferQueue) : (sort P queue).count = queue.count := rfl

theorem sort_live (queue : DeferQueue) : (sort P queue).live = P.qsort cmpfkt queue.live := by
  have hlen : (P.qsort cmpfkt queue.live).length = queue.count := by
    rw [(P.qsort_perm _ _).length_eq, DeferQueue.length_live]
  exact List.take_left' hlen

theorem sort_live_perm (queue : DeferQueue) : (sort P queue).live.Perm queue.live := by
  rw [sort_live]
  exact P.qsort_perm _ _

theorem deferqueueContains_iff (queue : DeferQueue) (seqNr : UInt64) :
    deferqueueContains queue seqNr = true ↔ ∃ element ∈ queue.live, seqNrOf element = seqNr := by
  simp [deferqueueContains, findIndex, seqNrOf, List.findIdx?_isSome]

theorem findIndex_some {queue : DeferQueue} {seqNr : UInt64} {index : ℕ}
    (h : findIndex queue seqNr = some index) :
    index < queue.count ∧ ∃ element, queue.elements[index]? = some element ∧
      element ∈ queue.live ∧ seqNrOf element = seqNr := by
  obtain ⟨hlt, hfound, -⟩ := List.findIdx?_eq_some_iff_getElem.mp h
  have hcount : index < queue.count := by simpa using hlt
  refine ⟨hcount, queue.live[index], ?_, List.getElem_mem hlt, by simpa [seqNrOf] using hfound⟩
  have hlen := queue.length_eq
  have hmax := queue.count_le
  rw [List.getElem?_eq_getElem (by omega)]
  simp [DeferQueue.live, List.getElem_take]

theorem deferqueueGet_spec {queue : DeferQueue} {seqNr : UInt64}
    (h : deferqueueContains queue seqNr = true) :
    ∃ element ∈ queue.live, seqNrOf element = seqNr ∧
      deferqueueGet queue seqNr = some element.packet := by
  obtain ⟨index, hindex⟩ := Option.isSome_iff_exists.mp h
  obtain ⟨-, element, hget, hmem, hseq⟩ := findIndex_some hindex
  exact ⟨element, hmem, hseq, by simp [deferqueueGet, hindex, hget]⟩

theorem deferqueueAdd_of_full {queue : DeferQueue} (h : queue.count = queue.maxCount)
    (packet : RastaRedundancyPacket) (recvTs : UInt64) :
    deferqueueAdd P queue packet recvTs = (false, queue) := by
  simp [deferqueueAdd, h]

@[simp]
theorem deferqueueAdd_maxCount (queue : DeferQueue) (packet : RastaRedundancyPacket)
    (recvTs : UInt64) : (deferqueueAdd P queue packet recvTs).2.maxCount = queue.maxCount := by
  unfold deferqueueAdd
  split <;> rfl

/-- The element is put behind the live ones, and all of them are sorted. -/
theorem deferqueueAdd_live_eq {queue : DeferQueue} (h : queue.count ≠ queue.maxCount)
    (packet : RastaRedundancyPacket) (recvTs : UInt64) :
    (deferqueueAdd P queue packet recvTs).2.live =
      P.qsort cmpfkt (queue.live ++ [{ packet := packet, receivedTimestamp := recvTs }]) := by
  have hlen := queue.length_eq
  have hcount := queue.count_le
  have hlt : queue.count < queue.elements.length := by omega
  simp only [deferqueueAdd, h, dite_false]
  rw [sort_live]
  simp only [DeferQueue.live]
  rw [List.take_succ_eq_append_getElem (by rw [List.length_set]; omega)]
  rw [List.getElem_set_self, List.take_set_of_le (Nat.le_refl _)]

theorem deferqueueAdd_live {queue : DeferQueue} (h : queue.count ≠ queue.maxCount)
    (packet : RastaRedundancyPacket) (recvTs : UInt64) :
    (deferqueueAdd P queue packet recvTs).2.live.Perm
      ({ packet := packet, receivedTimestamp := recvTs } :: queue.live) := by
  rw [deferqueueAdd_live_eq P h]
  exact (P.qsort_perm _ _).trans (List.perm_append_singleton _ _)

theorem deferqueueAdd_count {queue : DeferQueue} (h : queue.count ≠ queue.maxCount)
    (packet : RastaRedundancyPacket) (recvTs : UInt64) :
    (deferqueueAdd P queue packet recvTs).2.count = queue.count + 1 := by
  simp [deferqueueAdd, h]

@[simp]
theorem deferqueueRemove_maxCount (queue : DeferQueue) (seqNr : UInt64) :
    (deferqueueRemove P queue seqNr).maxCount = queue.maxCount := by
  unfold deferqueueRemove
  split <;> rfl

/-- Removal takes exactly one element with the number out of the live ones. -/
theorem deferqueueRemove_live {queue : DeferQueue} {seqNr : UInt64}
    (h : deferqueueContains queue seqNr = true) :
    ∃ element, seqNrOf element = seqNr ∧
      queue.live.Perm (element :: (deferqueueRemove P queue seqNr).live) := by
  obtain ⟨index, hindex⟩ := Option.isSome_iff_exists.mp h
  obtain ⟨hlt, element, hget, -, hseq⟩ := findIndex_some hindex
  have hlen := queue.length_eq
  have hmax := queue.count_le
  obtain ⟨n, hn⟩ : ∃ n, queue.count = n + 1 := ⟨queue.count - 1, by omega⟩
  have hnlt : n < queue.elements.length := by omega
  have hlast : queue.elements[n]? = some queue.elements[n] := List.getElem?_eq_getElem hnlt
  refine ⟨element, hseq, ?_⟩
  simp only [deferqueueRemove, hindex]
  refine List.Perm.trans ?_ ((sort_live_perm P _).symm.cons element)
  simp only [DeferQueue.live, hn, Nat.add_sub_cancel]
  by_cases heq : index = n
  · subst heq
    rw [if_pos rfl, List.take_succ_eq_append_getElem hnlt]
    have helement : queue.elements[index] = element := by simpa [hlast] using hget
    rw [helement]
    exact List.perm_append_singleton _ _
  · have hindexLt : index < queue.elements.length := by omega
    have hswap := LibRasta.Lib.take_perm_swapRemove queue.elements n index hnlt hindexLt
      (by omega)
    have helement : queue.elements[index] = element := by
      rw [List.getElem?_eq_getElem hindexLt] at hget
      exact Option.some.inj hget
    rw [helement] at hswap
    simpa [heq, hlast] using hswap

end Bag

end LibRasta.Util
