/-
Module: LibRasta/Lib/Handles.lean
digest: A table that gives out its lowest free handle: what a handle stands for after handles were given out, changed and returned, and how many are in use.
-/

import Mathlib.Data.List.Basic
import Mathlib.Tactic.Common

set_option autoImplicit false
set_option relaxedAutoImplicit false

namespace LibRasta.Lib

variable {σ : Type}

/-- What each handle stands for; a handle past the end is free. -/
abbrev Handles (σ : Type) := List (Option σ)

namespace Handles

def lookup (table : Handles σ) (handle : ℕ) : Option σ := table[handle]?.join

/-- The lowest free handle. -/
def lowest (table : Handles σ) : ℕ := table.findIdx Option.isNone

/-- The table after its lowest free handle was given out. -/
def give (table : Handles σ) (s : σ) : Handles σ :=
  if table.lowest < table.length then table.set table.lowest (some s) else table ++ [some s]

/-- The table after a handle got another meaning. -/
def change (table : Handles σ) (handle : ℕ) (s : σ) : Handles σ := table.set handle (some s)

/-- The table after a handle was returned. -/
def release (table : Handles σ) (handle : ℕ) : Handles σ := table.set handle none

/-- How many handles are in use. -/
def inUse (table : Handles σ) : ℕ := table.countP Option.isSome

variable {table : Handles σ} {handle other : ℕ} {s : σ}

theorem lt_length_of_lookup (h : table.lookup handle = some s) : handle < table.length := by
  by_contra hout
  rw [lookup, List.getElem?_eq_none (by omega)] at h
  cases h

theorem lookup_lowest : table.lookup table.lowest = none := by
  by_cases hlt : table.lowest < table.length
  · have hfree : (table[table.lowest]).isNone = true := List.findIdx_getElem
    rw [lookup, List.getElem?_eq_getElem hlt]
    exact Option.isNone_iff_eq_none.mp hfree
  · rw [lookup, List.getElem?_eq_none (by omega)]
    rfl

theorem lowest_eq_length (h : ¬ table.lowest < table.length) : table.lowest = table.length :=
  Nat.le_antisymm List.findIdx_le_length (Nat.le_of_not_lt h)

theorem lookup_give_lowest : (table.give s).lookup table.lowest = some s := by
  unfold give
  by_cases hlt : table.lowest < table.length
  · rw [if_pos hlt, lookup, List.getElem?_set_self hlt]
    rfl
  · rw [if_neg hlt, lookup, lowest_eq_length hlt, List.getElem?_concat_length]
    rfl

theorem lookup_give_of_ne (h : handle ≠ table.lowest) :
    (table.give s).lookup handle = table.lookup handle := by
  unfold give
  by_cases hlt : table.lowest < table.length
  · rw [if_pos hlt, lookup, lookup, List.getElem?_set_ne h.symm]
  · rw [if_neg hlt, lookup, lookup]
    rw [lowest_eq_length hlt] at h
    by_cases hin : handle < table.length
    · rw [List.getElem?_append_left hin]
    · have hpast : table.length + 1 ≤ handle := by omega
      rw [List.getElem?_eq_none (by rw [List.length_append]; exact hpast),
        List.getElem?_eq_none (by omega)]

/-- Handing one out leaves those in use alone. -/
theorem lookup_give_of_some (h : table.lookup handle = some s) (t : σ) :
    (table.give t).lookup handle = some s := by
  rw [lookup_give_of_ne, h]
  rintro rfl
  rw [lookup_lowest] at h
  cases h

theorem lookup_change_self (h : table.lookup handle = some s) (t : σ) :
    (table.change handle t).lookup handle = some t := by
  rw [change, lookup, List.getElem?_set_self (lt_length_of_lookup h)]
  rfl

theorem lookup_change_of_ne (h : other ≠ handle) (t : σ) :
    (table.change handle t).lookup other = table.lookup other := by
  rw [change, lookup, lookup, List.getElem?_set_ne h.symm]

theorem lookup_release_of_ne (h : other ≠ handle) :
    (table.release handle).lookup other = table.lookup other := by
  rw [release, lookup, lookup, List.getElem?_set_ne h.symm]

theorem length_give_le {limit : ℕ} (hlength : table.length ≤ limit)
    (hlowest : table.lowest < limit) : (table.give s).length ≤ limit := by
  unfold give
  by_cases hlt : table.lowest < table.length
  · rw [if_pos hlt, List.length_set]
    exact hlength
  · rw [if_neg hlt, List.length_append, List.length_singleton]
    rw [lowest_eq_length hlt] at hlowest
    omega

theorem length_change : (table.change handle s).length = table.length := List.length_set

theorem length_release : (table.release handle).length = table.length := List.length_set

/-- Below a limit there is a free handle if not all are in use. -/
theorem lowest_lt_iff {limit : ℕ} (hlength : table.length ≤ limit) :
    table.lowest < limit ↔ table.inUse < limit := by
  have hle : table.inUse ≤ table.length := List.countP_le_length
  by_cases hlt : table.lowest < table.length
  · have hfree : (table[table.lowest]).isNone = true := List.findIdx_getElem
    have hne : table.inUse ≠ table.length := by
      intro heq
      have hsome := List.countP_eq_length.mp heq _ (List.getElem_mem hlt)
      rw [Option.isNone_iff_eq_none.mp hfree] at hsome
      cases hsome
    constructor
    · intro _
      omega
    · intro _
      omega
  · have hlowest := lowest_eq_length hlt
    have hall : table.inUse = table.length := by
      apply List.countP_eq_length.mpr
      intro entry hentry
      obtain ⟨i, hi, rfl⟩ := List.getElem_of_mem hentry
      have hbefore : i < table.findIdx Option.isNone := by
        rw [lowest] at hlowest
        omega
      have hnot := List.not_of_lt_findIdx hbefore
      rw [Option.isNone_eq_false_iff] at hnot
      exact hnot
    rw [hlowest, hall]

theorem inUse_give : (table.give s).inUse = table.inUse + 1 := by
  unfold give
  by_cases hlt : table.lowest < table.length
  · have hfree : (table[table.lowest]).isNone = true := List.findIdx_getElem
    have hnone : (table[table.lowest]).isSome = false := by
      rw [Option.isNone_iff_eq_none.mp hfree]
      rfl
    rw [if_pos hlt, inUse, inUse, List.countP_set hlt, hnone]
    rfl
  · rw [if_neg hlt, inUse, inUse, List.countP_append]
    rfl

theorem inUse_change (h : table.lookup handle = some s) (t : σ) :
    (table.change handle t).inUse = table.inUse := by
  have hlt := lt_length_of_lookup h
  rw [lookup, List.getElem?_eq_getElem hlt] at h
  have hsome : (table[handle]).isSome = true := by
    rw [show table[handle] = some s from h]
    rfl
  have hpos : 0 < table.countP Option.isSome :=
    List.countP_pos_iff.mpr ⟨table[handle], List.getElem_mem hlt, hsome⟩
  rw [change, inUse, inUse, List.countP_set hlt, hsome]
  exact Nat.sub_add_cancel hpos

theorem inUse_release (h : table.lookup handle = some s) :
    (table.release handle).inUse + 1 = table.inUse := by
  have hlt := lt_length_of_lookup h
  rw [lookup, List.getElem?_eq_getElem hlt] at h
  have hsome : (table[handle]).isSome = true := by
    rw [show table[handle] = some s from h]
    rfl
  have hpos : 0 < table.countP Option.isSome :=
    List.countP_pos_iff.mpr ⟨table[handle], List.getElem_mem hlt, hsome⟩
  rw [release, inUse, inUse, List.countP_set hlt, hsome]
  exact Nat.sub_add_cancel hpos

end Handles

end LibRasta.Lib
