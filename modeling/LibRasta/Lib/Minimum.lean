/-
Module: LibRasta/Lib/Minimum.lean
digest: One pass over a list with a running minimum ends with the least key and with the index at which it first occurs.
-/

import Mathlib.Order.Bounds.Basic

set_option autoImplicit false
set_option relaxedAutoImplicit false

namespace LibRasta.Lib

variable {α β : Type} [LinearOrder β]

/-- The pass from index `i` on; an element without a key is skipped, and `found` holds the least
key so far with its index. -/
def scanMin (key : α → Option β) : ℕ → List α → β × Option ℕ → β × Option ℕ
  | _, [], found => found
  | i, a :: rest, found =>
    match key a with
    | some k => scanMin key (i + 1) rest (if k < found.1 then (k, some i) else found)
    | none => scanMin key (i + 1) rest found

/-- The pass kept what it started with, which no key is below. -/
structure Kept (key : α → Option β) (l : List α) (found result : β × Option ℕ) : Prop where
  same : result = found
  least : ∀ a ∈ l, ∀ k, key a = some k → found.1 ≤ k

/-- The pass ended with the least key and the index of an element that has it. -/
structure Improved (key : α → Option β) (i : ℕ) (l : List α) (found result : β × Option ℕ) :
    Prop where
  attained : ∃ n a, result.2 = some (i + n) ∧ l[n]? = some a ∧ key a = some result.1
  below : result.1 < found.1
  least : ∀ a ∈ l, ∀ k, key a = some k → result.1 ≤ k

variable {key : α → Option β} {i : ℕ} {a : α} {rest : List α} {found result : β × Option ℕ}

theorem Kept.cons (h : Kept key rest found result)
    (hhead : ∀ k, key a = some k → found.1 ≤ k) : Kept key (a :: rest) found result := by
  refine ⟨h.same, fun b hb => ?_⟩
  rcases List.mem_cons.mp hb with rfl | hb
  · exact hhead
  · exact h.least b hb

theorem Improved.cons (h : Improved key (i + 1) rest found result)
    (hhead : ∀ k, key a = some k → result.1 ≤ k) : Improved key i (a :: rest) found result := by
  obtain ⟨n, b, hindex, hget, hkey⟩ := h.attained
  refine ⟨⟨n + 1, b, ?_, by simpa using hget, hkey⟩, h.below, fun b hb => ?_⟩
  · rw [hindex]
    congr 1
    omega
  · rcases List.mem_cons.mp hb with rfl | hb
    · exact hhead
    · exact h.least b hb

theorem scanMin_spec (key : α → Option β) (i : ℕ) (l : List α) (found : β × Option ℕ) :
    Kept key l found (scanMin key i l found) ∨ Improved key i l found (scanMin key i l found) := by
  induction l generalizing i found with
  | nil => exact .inl ⟨rfl, by simp⟩
  | cons a rest ih =>
    unfold scanMin
    cases hkey : key a with
    | none =>
      have hhead : ∀ m, ∀ k, key a = some k → m ≤ k := by simp [hkey]
      rcases ih (i + 1) found with hkept | himproved
      · exact .inl (hkept.cons (hhead _))
      · exact .inr (himproved.cons (hhead _))
    | some k =>
      have hhead : ∀ m ≤ k, ∀ k', key a = some k' → m ≤ k' := by
        intro m hm k' hk'
        rw [hkey] at hk'
        exact Option.some.inj hk' ▸ hm
      simp only
      split
      · rename_i hlt
        rcases ih (i + 1) (k, some i) with hkept | himproved
        · -- no later key is below that of the head
          rw [hkept.same]
          exact .inr ⟨⟨0, a, rfl, rfl, hkey⟩, hlt, (hkept.cons (hhead k le_rfl)).least⟩
        · have hbelow := himproved.below
          exact .inr (Improved.cons ⟨himproved.attained, hbelow.trans hlt, himproved.least⟩
            (hhead _ hbelow.le))
      · rename_i hge
        have hle : found.1 ≤ k := not_lt.mp hge
        rcases ih (i + 1) found with hkept | himproved
        · exact .inl (hkept.cons (hhead _ hle))
        · exact .inr (himproved.cons (hhead _ (himproved.below.le.trans hle)))

end LibRasta.Lib
