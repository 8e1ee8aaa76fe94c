/-
Module: LibRasta/Util/Fifo.lean
source: src/c/util/fifo.c
digest: The bounded queue behind the send, receive and retransmission buffers, carrying its size bound.
-/

import Mathlib.Data.List.Basic
import Mathlib.Tactic.Common

set_option autoImplicit false
set_option relaxedAutoImplicit false

namespace LibRasta.Util

/-- `fifo_t` with its elements in push order. -/
structure Fifo (α : Type) where
  items : List α
  maxSize : ℕ
  size_le : items.length ≤ maxSize
deriving DecidableEq

variable {α : Type}

/-- `fifo_init`. -/
def fifoInit (maxSize : ℕ) : Fifo α where
  items := []
  maxSize := maxSize
  size_le := Nat.zero_le _

/-- `fifo_get_size`. -/
def fifoGetSize (fifo : Fifo α) : ℕ := fifo.items.length

/-- `fifo_full`. -/
def fifoFull (fifo : Fifo α) : Bool := fifo.items.length == fifo.maxSize

/-- `fifo_pop`: the oldest element, if any, and the remaining queue. -/
def fifoPop (fifo : Fifo α) : Option α × Fifo α :=
  (fifo.items.head?,
    { fifo with
      items := fifo.items.tail
      size_le := by
        have := fifo.size_le
        simp only [List.length_tail]
        omega })

/-- `fifo_push` of a non-NULL element: whether it was queued, and the queue. -/
def fifoPush (fifo : Fifo α) (element : α) : Bool × Fifo α :=
  if h : fifo.items.length = fifo.maxSize then (false, fifo)
  else
    (true,
      { fifo with
        items := fifo.items ++ [element]
        size_le := by
          have := fifo.size_le
          simp only [List.length_append, List.length_cons, List.length_nil]
          omega })

/-- The queue after `n` calls of `fifo_pop`. -/
def fifoPopMany (fifo : Fifo α) (n : ℕ) : Fifo α :=
  { fifo with
    items := fifo.items.drop n
    size_le := by
      have := fifo.size_le
      simp only [List.length_drop]
      omega }

@[ext]
theorem Fifo.ext_items {a b : Fifo α} (hitems : a.items = b.items)
    (hmax : a.maxSize = b.maxSize) : a = b := by
  cases a
  cases b
  simp_all

@[simp]
theorem fifoPop_items (fifo : Fifo α) : (fifoPop fifo).2.items = fifo.items.tail := rfl

@[simp]
theorem fifoPop_maxSize (fifo : Fifo α) : (fifoPop fifo).2.maxSize = fifo.maxSize := rfl

@[simp]
theorem fifoPush_maxSize (fifo : Fifo α) (element : α) :
    (fifoPush fifo element).2.maxSize = fifo.maxSize := by
  unfold fifoPush
  split <;> rfl

theorem fifoFull_eq_true {fifo : Fifo α} :
    fifoFull fifo = true ↔ fifo.items.length = fifo.maxSize := by
  rw [fifoFull, beq_iff_eq]

theorem fifoFull_eq_false {fifo : Fifo α} :
    fifoFull fifo = false ↔ fifo.items.length < fifo.maxSize := by
  have := fifo.size_le
  simp only [fifoFull, beq_eq_false_iff_ne]
  omega

theorem fifoPush_of_room {fifo : Fifo α} (h : fifo.items.length < fifo.maxSize) (element : α) :
    (fifoPush fifo element).1 = true ∧
      (fifoPush fifo element).2.items = fifo.items ++ [element] := by
  have hne : fifo.items.length ≠ fifo.maxSize := by omega
  simp [fifoPush, hne]

theorem fifoPush_of_full {fifo : Fifo α} (h : fifo.items.length = fifo.maxSize) (element : α) :
    fifoPush fifo element = (false, fifo) := by
  simp [fifoPush, h]

theorem fifoPush_of_no_room {fifo : Fifo α} (h : ¬ fifo.items.length < fifo.maxSize)
    (element : α) : ¬ (fifoPush fifo element).1 = true := by
  have hle := fifo.size_le
  rw [fifoPush_of_full (by omega)]
  exact Bool.false_ne_true

end LibRasta.Util
