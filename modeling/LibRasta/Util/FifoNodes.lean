/-
Module: LibRasta/Util/FifoNodes.lean
source: src/c/util/fifo.c
digest: The FIFO as its linked elements in memory. Every run of pushes and pops keeps it a representation of the bounded queue of the module Fifo, with the same answers.
-/

import LibRasta.Lib.LinkedList
import LibRasta.Lib.Runs
import LibRasta.Util.Fifo

set_option autoImplicit false
set_option relaxedAutoImplicit false

namespace LibRasta.Util.Linked

open LibRasta.Lib

variable {α : Type}

/-- `struct fifo_element`; a NULL pointer is `none`. -/
structure FifoElement (α : Type) where
  data : Option α
  next : Option ℕ

/-- `fifo_t`. -/
structure FifoT where
  size : UInt32
  maxSize : UInt32
  head : Option ℕ
  tail : Option ℕ

/-- A queue and the allocated elements, its own and those of others, by address. -/
structure FifoState (α : Type) where
  memory : ℕ → Option (FifoElement α)
  fifo : FifoT

section Translation

/-- `fifo_init`. -/
def fifoInit (maxSize : UInt32) (memory : ℕ → Option (FifoElement α)) : FifoState α where
  memory := memory
  fifo := { size := 0, maxSize := maxSize, head := none, tail := none }

/-- `fifo_pop`; nothing is defined about a read through a pointer that was not allocated. -/
def fifoPop (state : FifoState α) : Option α × FifoState α :=
  let fifo := state.fifo
  if fifo.size > 0 ∧ fifo.head ≠ none ∧ fifo.tail ≠ none then
    match fifo.head.bind fun address => (state.memory address).map (address, ·) with
    | some (address, element) =>
      (element.data,
        { memory := Function.update state.memory address none
          fifo :=
            { fifo with
              head := element.next
              tail := if fifo.size = 1 then none else fifo.tail
              size := fifo.size - 1 } })
    | none => (none, state)
  else (none, state)

/-- The assignment `p->next = newNext`. -/
def setNext (memory : ℕ → Option (FifoElement α)) (p newNext : Option ℕ) :
    ℕ → Option (FifoElement α) :=
  match p with
  | some address =>
    Function.update memory address
      ((memory address).map fun element => { element with next := newNext })
  | none => memory

/-- `fifo_push`, with the address that `rmalloc` returns for the new element. -/
def fifoPush (state : FifoState α) (element : Option α) (newEntry : ℕ) : Bool × FifoState α :=
  let fifo := state.fifo
  if element.isNone then (false, state)
  else if fifo.size = fifo.maxSize then (false, state)
  else
    let memory := Function.update state.memory newEntry (some { data := element, next := none })
    if fifo.size = 0 then
      (true,
        { memory := memory
          fifo :=
            { fifo with head := some newEntry, tail := some newEntry, size := fifo.size + 1 } })
    else
      (true,
        { memory := setNext memory fifo.tail (some newEntry)
          fifo := { fifo with tail := some newEntry, size := fifo.size + 1 } })

end Translation

section Calls

/-- A call on the queue; a push comes with what `rmalloc` returns in it. -/
inductive FifoCall (α : Type) where
  | push (element : Option α) (newEntry : ℕ)
  | pop

def fifoStep (state : FifoState α) : FifoCall α → FifoState α
  | .push element newEntry => (fifoPush state element newEntry).2
  | .pop => (fifoPop state).2

/-- `rmalloc` returns memory that is not in use. -/
def Granted (state : FifoState α) : FifoCall α → Prop
  | .push _ newEntry => state.memory newEntry = none
  | .pop => True

instance (state : FifoState α) : (call : FifoCall α) → Decidable (Granted state call)
  | .push _ newEntry =>
    decidable_of_iff ((state.memory newEntry).isNone = true) Option.isNone_iff_eq_none
  | .pop => .isTrue trivial

/-- The same call on the bounded queue, which refuses NULL. -/
def queueStep (queue : Fifo α) : FifoCall α → Fifo α
  | .push (some element) _ => (Util.fifoPush queue element).2
  | .push none _ => queue
  | .pop => (Util.fifoPop queue).2

end Calls

section Representation

/-- The field `next` in memory. -/
def nextIn (memory : ℕ → Option (FifoElement α)) (address : ℕ) : Option ℕ :=
  (memory address).bind FifoElement.next

/-- The field `data` in memory. -/
def dataIn (memory : ℕ → Option (FifoElement α)) (address : ℕ) : Option α :=
  (memory address).bind FifoElement.data

/-- The elements reachable from `head` hold the contents of the queue in order, and `tail` and
`size` agree with them. -/
structure Represents (state : FifoState α) (queue : Fifo α) (nodes : List ℕ) : Prop where
  spells : Spells (nextIn state.memory) state.fifo.head nodes
  data : nodes.map (dataIn state.memory) = queue.items.map some
  tail : state.fifo.tail = nodes.getLast?
  size : state.fifo.size.toNat = queue.items.length
  maxSize : state.fifo.maxSize.toNat = queue.maxSize

variable {state : FifoState α} {queue : Fifo α} {nodes : List ℕ} {call : FifoCall α}

theorem represents_init (maxSize : UInt32) (memory : ℕ → Option (FifoElement α)) :
    Represents (fifoInit maxSize memory) (Util.fifoInit maxSize.toNat) [] :=
  ⟨rfl, rfl, rfl, rfl, rfl⟩

namespace Represents

theorem length_nodes (h : Represents state queue nodes) :
    nodes.length = queue.items.length := by
  simpa using congrArg List.length h.data

theorem size_le (h : Represents state queue nodes) :
    state.fifo.size ≤ state.fifo.maxSize := by
  rw [UInt32.le_iff_toNat_le, h.size, h.maxSize]
  exact queue.size_le

theorem size_eq_zero_iff (h : Represents state queue nodes) :
    state.fifo.size = 0 ↔ nodes = [] := by
  rw [← UInt32.toNat_inj, h.size, ← h.length_nodes]
  exact List.length_eq_zero_iff

/-- A node of the queue is allocated. -/
theorem allocated (h : Represents state queue nodes) {address : ℕ} (hmem : address ∈ nodes) :
    ∃ element, state.memory address = some element := by
  have hdata : dataIn state.memory address ∈ queue.items.map some := by
    rw [← h.data]
    exact List.mem_map_of_mem hmem
  obtain ⟨x, -, hx⟩ := List.mem_map.mp hdata
  obtain ⟨element, helement, -⟩ := Option.bind_eq_some_iff.mp hx.symm
  exact ⟨element, helement⟩

theorem not_mem (h : Represents state queue nodes) {newEntry : ℕ}
    (hfree : state.memory newEntry = none) : newEntry ∉ nodes := by
  intro hmem
  obtain ⟨element, helement⟩ := h.allocated hmem
  rw [hfree] at helement
  cases helement

/-- The bounded queue is full exactly when `size` has reached `max_size`. -/
theorem full_iff (h : Represents state queue nodes) :
    state.fifo.size = state.fifo.maxSize ↔ queue.items.length = queue.maxSize := by
  rw [← UInt32.toNat_inj, h.size, h.maxSize]

end Represents

section Memory

variable (memory : ℕ → Option (FifoElement α)) (address : ℕ) (element : Option (FifoElement α))

theorem nextIn_update : nextIn (Function.update memory address element) =
    Function.update (nextIn memory) address (element.bind FifoElement.next) := by
  funext other
  by_cases heq : other = address
  · subst heq
    simp [nextIn]
  · simp [nextIn, heq]

theorem dataIn_update : dataIn (Function.update memory address element) =
    Function.update (dataIn memory) address (element.bind FifoElement.data) := by
  funext other
  by_cases heq : other = address
  · subst heq
    simp [dataIn]
  · simp [dataIn, heq]

variable {memory} {address}

theorem nextIn_setNext {allocated : FifoElement α} (h : memory address = some allocated)
    (newNext : Option ℕ) : nextIn (setNext memory (some address) newNext) =
      Function.update (nextIn memory) address newNext := by
  rw [setNext, nextIn_update, h]
  rfl

theorem dataIn_setNext (p newNext : Option ℕ) :
    dataIn (setNext memory p newNext) = dataIn memory := by
  cases p with
  | none => rfl
  | some address =>
    rw [setNext, dataIn_update]
    refine Function.update_eq_self_iff.mpr ?_
    cases hread : memory address <;> simp [dataIn, hread]

/-- A write elsewhere does not change what a list of nodes holds. -/
theorem map_update_of_not_mem {β : Type} {f : ℕ → β} {nodes : List ℕ} (h : address ∉ nodes)
    (value : β) : nodes.map (Function.update f address value) = nodes.map f :=
  List.map_congr_left fun _ hmem =>
    Function.update_of_ne (ne_of_mem_of_not_mem hmem h) _ _

end Memory

namespace Represents

/-- A push that finds room. -/
theorem push (h : Represents state queue nodes)
    (hroom : state.fifo.size ≠ state.fifo.maxSize) (x : α) {newEntry : ℕ}
    (hfree : state.memory newEntry = none) :
    (fifoPush state (some x) newEntry).1 = true ∧
      Represents (fifoPush state (some x) newEntry).2 (Util.fifoPush queue x).2
        (nodes ++ [newEntry]) := by
  have hfresh := h.not_mem hfree
  have hlt : queue.items.length < queue.maxSize :=
    Nat.lt_of_le_of_ne queue.size_le fun hfull => hroom (h.full_iff.mpr hfull)
  obtain ⟨-, hitems⟩ := Util.fifoPush_of_room hlt x
  have hmax := Util.fifoPush_maxSize queue x
  have hsize : (state.fifo.size + 1).toNat = queue.items.length + 1 := by
    have hbound := state.fifo.maxSize.toNat_lt
    have hsize := h.size
    have hmaxSize := h.maxSize
    rw [UInt32.toNat_add, hsize, UInt32.toNat_one]
    exact Nat.mod_eq_of_lt (by omega)
  set written := Function.update state.memory newEntry
    (some { data := some x, next := none }) with hwritten
  have hdata : (nodes ++ [newEntry]).map (dataIn written) =
      (Util.fifoPush queue x).2.items.map some := by
    rw [hitems, List.map_append, List.map_append, hwritten, dataIn_update,
      map_update_of_not_mem hfresh, h.data]
    simp
  have hnext : ∀ address ∈ nodes, nextIn written address = nextIn state.memory address := by
    intro address hmem
    rw [hwritten, nextIn_update]
    exact Function.update_of_ne (ne_of_mem_of_not_mem hmem hfresh) _ _
  have hend : nextIn written newEntry = none := by simp [nextIn, hwritten]
  unfold fifoPush
  simp only [Option.isNone_some, Bool.false_eq_true, if_false, hroom]
  split
  · rename_i hzero
    have hnil := h.size_eq_zero_iff.mp hzero
    subst hnil
    refine ⟨rfl, ⟨⟨rfl, hend⟩, hdata, rfl, ?_, ?_⟩⟩
    · rw [hitems, List.length_append]
      exact hsize
    · rw [hmax]
      exact h.maxSize
  · rename_i hnonzero
    have hne : nodes ≠ [] := fun hnil => hnonzero (h.size_eq_zero_iff.mpr hnil)
    obtain ⟨front, last, rfl⟩ := (List.eq_nil_or_concat' nodes).resolve_left hne
    have htail : state.fifo.tail = some last := by simpa using h.tail
    have hspells : Spells (nextIn written) state.fifo.head (front ++ [last]) :=
      h.spells.congr hnext
    obtain ⟨element, helement⟩ :=
      h.allocated (List.mem_append_right front (List.mem_singleton_self last))
    have hkept : written last = some element := by
      rw [hwritten, Function.update_of_ne, helement]
      rintro rfl
      exact hfresh (by simp)
    refine ⟨rfl, ⟨?_, ?_, by simp, ?_, ?_⟩⟩
    · rw [htail, nextIn_setNext hkept]
      exact hspells.snoc hfresh hend
    · rw [dataIn_setNext]
      exact hdata
    · rw [hitems, List.length_append]
      exact hsize
    · rw [hmax]
      exact h.maxSize

theorem push_refused (h : Represents state queue nodes) {element : Option α}
    (hrefused : element = none ∨ state.fifo.size = state.fifo.maxSize) (newEntry : ℕ) :
    fifoPush state element newEntry = (false, state) ∧
      queueStep queue (.push element newEntry) = queue := by
  rcases hrefused with rfl | hfull
  · exact ⟨rfl, rfl⟩
  · cases element with
    | none => exact ⟨rfl, rfl⟩
    | some x =>
      refine ⟨by simp [fifoPush, hfull], ?_⟩
      simp only [queueStep]
      rw [Util.fifoPush_of_full (h.full_iff.mp hfull)]

/-- A pop from an empty queue. -/
theorem pop_nil (h : Represents state queue []) : fifoPop state = (none, state) := by
  have hzero := h.size_eq_zero_iff.mpr rfl
  simp [fifoPop, hzero]

/-- A pop from a queue with elements. -/
theorem pop_cons {first : ℕ} {rest : List ℕ} (h : Represents state queue (first :: rest)) :
    (fifoPop state).1 = queue.items.head? ∧
      Represents (fifoPop state).2 (Util.fifoPop queue).2 rest := by
  have hfresh : first ∉ rest := (List.nodup_cons.mp h.spells.nodup).1
  obtain ⟨hhead, hrest⟩ := spells_cons.mp h.spells
  obtain ⟨element, helement⟩ := h.allocated List.mem_cons_self
  obtain ⟨x, items, hitems, hx, hdata⟩ : ∃ x items, queue.items = x :: items ∧
      element.data = some x ∧ rest.map (dataIn state.memory) = items.map some := by
    have hspelled := h.data
    cases hqueue : queue.items with
    | nil => simp [hqueue] at hspelled
    | cons x items =>
      simp only [hqueue, List.map_cons, List.cons.injEq] at hspelled
      exact ⟨x, items, rfl, by simpa [dataIn, helement] using hspelled.1, hspelled.2⟩
  have hnext : nextIn state.memory first = element.next := by simp [nextIn, helement]
  have hsize : state.fifo.size.toNat = items.length + 1 := by simp [h.size, hitems]
  have hpositive : state.fifo.size > 0 := by
    rw [gt_iff_lt, UInt32.lt_iff_toNat_lt, hsize]
    exact Nat.succ_pos _
  have htail : state.fifo.tail ≠ none := by simp [h.tail]
  have hlength : rest.length = items.length := by simpa using congrArg List.length hdata
  unfold fifoPop
  simp only [hpositive, hhead, htail, ne_eq, not_false_eq_true, reduceCtorEq, and_self, if_true,
    Option.bind_some, helement, Option.map_some]
  refine ⟨by simp [hitems, hx], ⟨?_, ?_, ?_, ?_, h.maxSize⟩⟩
  · -- the freed node is not among the others
    rw [← hnext]
    refine hrest.congr fun address hmem => ?_
    rw [nextIn_update]
    exact Function.update_of_ne (ne_of_mem_of_not_mem hmem hfresh) _ _
  · rw [dataIn_update, map_update_of_not_mem hfresh, hdata]
    simp [hitems]
  · simp only [← UInt32.toNat_inj, hsize]
    cases rest with
    | nil =>
      have hnil : items.length = 0 := hlength.symm
      simp [hnil]
    | cons second others =>
      have hmore : items.length + 1 ≠ 1 := by
        rw [← hlength]
        simp
      rw [UInt32.toNat_one, if_neg hmore, h.tail, List.getLast?_cons_cons]
  · have hone : (1 : UInt32) ≤ state.fifo.size := by
      rw [UInt32.le_iff_toNat_le, hsize, UInt32.toNat_one]
      exact Nat.succ_le_succ (Nat.zero_le _)
    rw [UInt32.toNat_sub_of_le _ _ hone, hsize]
    simp [hitems]

/-- Every call keeps the representation. -/
theorem step (h : Represents state queue nodes) (call : FifoCall α)
    (hgranted : Granted state call) :
    ∃ nodes, Represents (fifoStep state call) (queueStep queue call) nodes := by
  cases call with
  | push element newEntry =>
    by_cases hrefused : element = none ∨ state.fifo.size = state.fifo.maxSize
    · obtain ⟨hpush, hqueue⟩ := h.push_refused hrefused newEntry
      rw [fifoStep, hpush, hqueue]
      exact ⟨nodes, h⟩
    · obtain ⟨hsome, hroom⟩ := not_or.mp hrefused
      obtain ⟨x, rfl⟩ := Option.ne_none_iff_exists'.mp hsome
      exact ⟨_, (h.push hroom x hgranted).2⟩
  | pop =>
    cases nodes with
    | nil =>
      have hnil : queue.items = [] := List.length_eq_zero_iff.mp h.length_nodes.symm
      have hsame : queueStep queue .pop = queue := Fifo.ext_items (by simp [queueStep, hnil]) rfl
      rw [fifoStep, h.pop_nil, hsame]
      exact ⟨[], h⟩
    | cons first rest => exact ⟨rest, h.pop_cons.2⟩

end Represents

/-- What the pointers say about the contents, and how the next call answers. -/
structure Refines (state : FifoState α) (queue : Fifo α) : Prop where
  spells : ∃ nodes, Spells (nextIn state.memory) state.fifo.head nodes ∧
    nodes.map (dataIn state.memory) = queue.items.map some ∧ state.fifo.tail = nodes.getLast?
  tail_eq_none : state.fifo.tail = none ↔ queue.items = []
  size : state.fifo.size.toNat = queue.items.length
  size_le : state.fifo.size ≤ state.fifo.maxSize
  push_accepts : ∀ element newEntry, (fifoPush state element newEntry).1 = true ↔
    element ≠ none ∧ state.fifo.size < state.fifo.maxSize
  push_unchanged : ∀ element newEntry, (fifoPush state element newEntry).1 = false →
    (fifoPush state element newEntry).2 = state
  pop : (fifoPop state).1 = queue.items.head?
  pop_eq_none : (fifoPop state).1 = none ↔ queue.items = []
  pop_unchanged : (fifoPop state).1 = none → (fifoPop state).2 = state

theorem Represents.refines (h : Represents state queue nodes) : Refines state queue := by
  have hnodes : nodes = [] ↔ queue.items = [] := by
    rw [← List.length_eq_zero_iff, h.length_nodes, List.length_eq_zero_iff]
  have hpop : (fifoPop state).1 = queue.items.head? := by
    cases nodes with
    | nil => rw [h.pop_nil, hnodes.mp rfl, List.head?_nil]
    | cons first rest => exact h.pop_cons.1
  have hroom : state.fifo.size ≠ state.fifo.maxSize ↔ state.fifo.size < state.fifo.maxSize := by
    have hle := UInt32.le_iff_toNat_le.mp h.size_le
    rw [UInt32.lt_iff_toNat_lt, ne_eq, ← UInt32.toNat_inj]
    omega
  refine ⟨⟨nodes, h.spells, h.data, h.tail⟩, ?_, h.size, h.size_le, ?_, ?_, hpop, ?_, ?_⟩
  · rw [h.tail, List.getLast?_eq_none_iff, hnodes]
  · intro element newEntry
    rw [← hroom]
    cases element with
    | none => simp [fifoPush]
    | some x =>
      simp only [fifoPush, Option.isNone_some, Bool.false_eq_true, if_false]
      split
      · rename_i hfull
        simp [hfull]
      · rename_i hfree
        split <;> simp [hfree]
  · intro element newEntry
    unfold fifoPush
    simp only
    split
    · simp
    · split
      · simp
      · split <;> simp
  · rw [hpop, List.head?_eq_none_iff]
  · intro hnone
    rw [hpop, List.head?_eq_none_iff, ← hnodes] at hnone
    subst hnone
    rw [h.pop_nil]

/-- Every run of pushes and pops from `fifo_init` on refines the bounded queue. -/
theorem linkedFifo_refines (maxSize : UInt32) (memory : ℕ → Option (FifoElement α))
    (calls : List (FifoCall α))
    (hgranted : RunOk fifoStep Granted (fifoInit maxSize memory) calls) :
    Refines (run fifoStep (fifoInit maxSize memory) calls)
      (run queueStep (Util.fifoInit maxSize.toNat) calls) := by
  suffices hrun : ∀ state queue nodes, Represents state queue nodes →
      RunOk fifoStep Granted state calls →
      ∃ nodes, Represents (run fifoStep state calls) (run queueStep queue calls) nodes by
    obtain ⟨nodes, h⟩ := hrun _ _ [] (represents_init maxSize memory) hgranted
    exact h.refines
  clear hgranted
  induction calls with
  | nil => exact fun state queue nodes h _ => ⟨nodes, h⟩
  | cons call rest ih =>
    intro state queue nodes h hok
    obtain ⟨hfirst, hrest⟩ := (runOk_cons fifoStep).mp hok
    obtain ⟨after, hafter⟩ := h.step call hfirst
    exact ih _ _ after hafter hrest

/-- Two elements through a queue with one place; the second push is refused, and the block of
the first element is given out again. -/
theorem linkedFifo_refines_example :
    Refines (run fifoStep (fifoInit 1 fun _ => none)
        [.push (some 'a') 7, .push (some 'b') 8, .pop, .push (some 'c') 7])
      { items := ['c'], maxSize := 1, size_le := by decide } :=
  linkedFifo_refines 1 (fun _ => none)
    [.push (some 'a') 7, .push (some 'b') 8, .pop, .push (some 'c') 7] (by decide +kernel)

end Representation

end LibRasta.Util.Linked
