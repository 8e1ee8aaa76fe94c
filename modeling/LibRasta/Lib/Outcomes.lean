/-
Module: LibRasta/Lib/Outcomes.lean
digest: Calls that return or end everything: rules for what holds afterwards and for how they can end, for sequences and loops of such calls.
-/

import Mathlib.Tactic.Common

set_option autoImplicit false
set_option relaxedAutoImplicit false

namespace LibRasta.Lib

variable {ε α β ι : Type}

/-- A call returns with the one property, or ends in a way that has the other. -/
def Outcome (p : α → Prop) (q : ε → Prop) : Except ε α → Prop
  | .ok a => p a
  | .error e => q e

namespace Outcome

variable {p p' : α → Prop} {q q' : ε → Prop} {r : β → Prop} {x : Except ε α}

theorem mono (h : Outcome p q x) (hp : ∀ a, p a → p' a) (hq : ∀ e, q e → q' e) :
    Outcome p' q' x := by
  cases x with
  | ok a => exact hp a h
  | error e => exact hq e h

theorem of_ok {a : α} (h : Outcome p q x) (hx : x = .ok a) : p a := by
  rw [hx] at h
  exact h

theorem of_error {e : ε} (h : Outcome p q x) (hx : x = .error e) : q e := by
  rw [hx] at h
  exact h

/-- One call after the other. -/
theorem bind {f : α → Except ε β} (h : Outcome p q x) (hf : ∀ a, p a → Outcome r q (f a)) :
    Outcome r q (x >>= f) := by
  cases x with
  | ok a => exact hf a h
  | error e => exact h

/-- A loop of calls, with what each round preserves. -/
theorem foldlM {f : α → ι → Except ε α} (hf : ∀ a i, p a → Outcome p q (f a i)) (list : List ι)
    {a : α} (ha : p a) : Outcome p q (list.foldlM f a) := by
  induction list generalizing a with
  | nil => exact ha
  | cons i rest ih =>
    rw [List.foldlM_cons]
    exact (hf a i ha).bind fun b hb => ih hb

/-- A loop over the first numbers, with what holds before each round. -/
theorem foldlM_range {f : α → ℕ → Except ε α} {p : ℕ → α → Prop} {n : ℕ}
    (hf : ∀ i a, i < n → p i a → Outcome (p (i + 1)) q (f a i)) {a : α} (ha : p 0 a) :
    Outcome (p n) q ((List.range n).foldlM f a) := by
  induction n with
  | zero => exact ha
  | succ n ih =>
    rw [List.range_succ, List.foldlM_append]
    refine (ih fun i a hi => hf i a (by omega)).bind fun b hb => ?_
    rw [List.foldlM_cons]
    exact (hf n b (by omega) hb).bind fun d hd => hd

end Outcome

end LibRasta.Lib
