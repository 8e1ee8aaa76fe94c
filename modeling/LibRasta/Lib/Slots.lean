/-
Module: LibRasta/Lib/Slots.lean
digest: Swap removal in a list: overwriting a slot with the last element and dropping the last slot removes exactly one element, up to order.
-/

import Mathlib.Data.List.Perm.Basic

set_option autoImplicit false
set_option relaxedAutoImplicit false

namespace LibRasta.Lib

variable {α : Type}

theorem perm_set_last (front : List α) (last : α) {i : ℕ} (h : i < front.length) :
    (front ++ [last]).Perm (front[i] :: front.set i last) := by
  calc
    (front ++ [last]).Perm (last :: front) := List.perm_append_singleton last front
    _ |>.Perm (last :: front[i] :: front.eraseIdx i) :=
      (List.getElem_cons_eraseIdx_perm h).symm.cons last
    _ |>.Perm (front[i] :: last :: front.eraseIdx i) := List.Perm.swap _ _ _
    _ |>.Perm (front[i] :: front.set i last) :=
      (List.set_perm_cons_eraseIdx h last).symm.cons _

/-- Removing slot `i` of the first `n + 1` slots by moving slot `n` there. -/
theorem take_perm_swapRemove (slots : List α) (n i : ℕ) (hn : n < slots.length)
    (hslot : i < slots.length) (hi : i < n) :
    (slots.take (n + 1)).Perm (slots[i] :: (slots.set i slots[n]).take n) := by
  have hfront : i < (slots.take n).length := by
    rw [List.length_take]
    omega
  have hswap := perm_set_last (slots.take n) slots[n] hfront
  rw [List.take_succ_eq_append_getElem hn]
  rw [List.getElem_take] at hswap
  rwa [List.take_set]

end LibRasta.Lib
