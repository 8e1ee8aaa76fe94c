/-
Module: LibRasta/Lib/Cutting.lean
digest: A loop that pops until it meets a key, on a list with strictly increasing keys: when it leaves exactly the elements above the key.
-/

import Mathlib.Order.Lattice
import Mathlib.Tactic.Common

set_option autoImplicit false
set_option relaxedAutoImplicit false

namespace LibRasta.Lib

variable {α β : Type} [LinearOrder β] (key : α → β) (bound : β)

/-- The elements behind the first one with the key; none if there is no such element. -/
def cutThrough : List α → List α
  | [] => []
  | x :: rest => if key x = bound then rest else cutThrough rest

variable {key bound} {xs : List α}

theorem length_cutThrough_le (xs : List α) : (cutThrough key bound xs).length ≤ xs.length := by
  induction xs with
  | nil => exact Nat.le_refl _
  | cons x rest ih =>
    unfold cutThrough
    split
    · exact Nat.le_succ _
    · exact Nat.le_succ_of_le ih

theorem cutThrough_of_absent (h : ∀ x ∈ xs, key x ≠ bound) : cutThrough key bound xs = [] := by
  induction xs with
  | nil => rfl
  | cons x rest ih =>
    rw [cutThrough, if_neg (h x List.mem_cons_self)]
    exact ih fun y hy => h y (List.mem_cons_of_mem x hy)

/-- The loop leaves exactly what lies above the key if and only if it meets the key or nothing
lies above it. -/
theorem cutThrough_eq_filter_iff (hsorted : xs.Pairwise fun x y => key x < key y) :
    cutThrough key bound xs = xs.filter (fun x => bound < key x) ↔
      (∃ x ∈ xs, key x = bound) ∨ ∀ x ∈ xs, key x ≤ bound := by
  induction xs with
  | nil => simp [cutThrough]
  | cons x rest ih =>
    obtain ⟨hbelow, hrest⟩ := List.pairwise_cons.mp hsorted
    have habove : bound ≤ key x → rest.filter (fun y => bound < key y) = rest := by
      intro hle
      refine List.filter_eq_self.mpr fun y hy => ?_
      exact decide_eq_true (lt_of_le_of_lt hle (hbelow y hy))
    rcases lt_trichotomy (key x) bound with hlt | heq | hgt
    · -- a confirmed element: both sides drop it
      have hfilter : (x :: rest).filter (fun y => bound < key y) =
          rest.filter fun y => bound < key y :=
        List.filter_cons_of_neg (by simpa using hlt.le)
      rw [cutThrough, if_neg hlt.ne, hfilter, ih hrest]
      simp only [List.mem_cons, exists_eq_or_imp, forall_eq_or_imp, hlt.ne, false_or, hlt.le,
        true_and]
    · have hfilter : (x :: rest).filter (fun y => bound < key y) = rest := by
        rw [List.filter_cons_of_neg (by simp [heq]), habove heq.ge]
      rw [cutThrough, if_pos heq, hfilter]
      exact iff_of_true rfl (.inl ⟨x, List.mem_cons_self, heq⟩)
    · -- the key was passed over: everything is gone, although `x` should stay
      have hfilter : (x :: rest).filter (fun y => bound < key y) = x :: rest := by
        rw [List.filter_cons_of_pos (by simpa using hgt), habove hgt.le]
      rw [cutThrough, if_neg hgt.ne', hfilter]
      refine iff_of_false ?_ ?_
      · intro hcut
        have hlen := @length_cutThrough_le α β _ key bound rest
        rw [hcut, List.length_cons] at hlen
        omega
      · rintro (⟨y, hy, hkey⟩ | hall)
        · rcases List.mem_cons.mp hy with rfl | hy
          · exact hgt.ne' hkey
          · exact (hgt.trans (hbelow y hy)).ne' hkey
        · exact absurd (hall x List.mem_cons_self) (not_le.mpr hgt)

end LibRasta.Lib
