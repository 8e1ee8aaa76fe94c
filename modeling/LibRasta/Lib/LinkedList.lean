/-
Module: LibRasta/Lib/LinkedList.lean
digest: Null-terminated lists of nodes in memory. The nodes that following a pointer field spells are unique and distinct; writing the last field appends a node, and writing the field of the predecessor takes a node out.
-/

import Mathlib.Data.List.Basic
import Mathlib.Logic.Function.Basic
import Mathlib.Tactic.Common

set_option autoImplicit false
set_option relaxedAutoImplicit false

namespace LibRasta.Lib

variable {α : Type} {next : α → Option α} {p q : Option α} {a : α} {l front back : List α}

/-- Following `next` from `p` visits the nodes of the list and arrives at `q`. -/
def Segment (next : α → Option α) : Option α → List α → Option α → Prop
  | p, [], q => p = q
  | p, a :: rest, q => p = some a ∧ Segment next (next a) rest q

/-- Following `next` from `p` visits the nodes of the list and ends there. -/
def Spells (next : α → Option α) (p : Option α) (l : List α) : Prop := Segment next p l none

/-- The first `n` nodes that following `next` from `p` visits. -/
def walk (next : α → Option α) : ℕ → Option α → List α
  | 0, _ => []
  | _ + 1, none => []
  | n + 1, some a => a :: walk next n (next a)

section Shape

theorem segment_append :
    Segment next p (front ++ back) q ↔ ∃ r, Segment next p front r ∧ Segment next r back q := by
  induction front generalizing p with
  | nil => simp [Segment]
  | cons a rest ih =>
    simp only [List.cons_append, Segment, ih]
    constructor
    · rintro ⟨hp, r, hrest, hback⟩
      exact ⟨r, ⟨hp, hrest⟩, hback⟩
    · rintro ⟨r, ⟨hp, hrest⟩, hback⟩
      exact ⟨hp, r, hrest, hback⟩

theorem spells_cons : Spells next p (a :: l) ↔ p = some a ∧ Spells next (next a) l := Iff.rfl

theorem Spells.head_eq (h : Spells next p l) : p = l.head? := by
  cases l with
  | nil => exact h
  | cons a rest => exact h.1

theorem Spells.eq_none_iff (h : Spells next p l) : p = none ↔ l = [] := by
  rw [h.head_eq, List.head?_eq_none_iff]

/-- What follows a node is spelled from its own field. -/
theorem Spells.rest (h : Spells next p (front ++ a :: back)) : Spells next (next a) back := by
  obtain ⟨r, -, -, hback⟩ := segment_append.mp h
  exact hback

theorem Spells.next_eq (h : Spells next p (front ++ a :: back)) : next a = back.head? :=
  h.rest.head_eq

theorem Spells.walk_eq (h : Spells next p l) {n : ℕ} (hn : l.length ≤ n) :
    walk next n p = l := by
  induction l generalizing p n with
  | nil =>
    rw [show p = none from h]
    cases n <;> rfl
  | cons a rest ih =>
    obtain ⟨rfl, hrest⟩ := spells_cons.mp h
    cases n with
    | zero => simp at hn
    | succ n =>
      have hwalk : walk next n (next a) = rest := ih hrest (by simpa using hn)
      rw [walk, hwalk]

/-- A pointer spells at most one list. -/
theorem Spells.unique {m : List α} (hl : Spells next p l) (hm : Spells next p m) : l = m := by
  have hwalk := hl.walk_eq (Nat.le_max_left l.length m.length)
  rw [hm.walk_eq (Nat.le_max_right l.length m.length)] at hwalk
  exact hwalk.symm

/-- A list that ends visits no node twice. -/
theorem Spells.nodup (h : Spells next p l) : l.Nodup := by
  induction l generalizing p with
  | nil => exact List.nodup_nil
  | cons a rest ih =>
    obtain ⟨-, hrest⟩ := spells_cons.mp h
    refine List.nodup_cons.mpr ⟨fun hmem => ?_, ih hrest⟩
    -- a second visit would be followed by the same nodes as the first
    obtain ⟨front, back, rfl⟩ := List.append_of_mem hmem
    have hsame := congrArg List.length (hrest.unique hrest.rest)
    simp only [List.length_append, List.length_cons] at hsame
    omega

theorem Segment.congr {next' : α → Option α} (h : Segment next p l q)
    (hsame : ∀ a ∈ l, next' a = next a) : Segment next' p l q := by
  induction l generalizing p with
  | nil => exact h
  | cons a rest ih =>
    obtain ⟨hp, hrest⟩ := h
    refine ⟨hp, ?_⟩
    rw [hsame a List.mem_cons_self]
    exact ih hrest fun b hb => hsame b (List.mem_cons_of_mem a hb)

end Shape

section Writes

variable [DecidableEq α]

/-- Where the last field of a segment leads is what is written there. -/
theorem Segment.write_last (h : Segment next p (front ++ [a]) q) (hfresh : a ∉ front)
    (r : Option α) : Segment (Function.update next a r) p (front ++ [a]) r := by
  obtain ⟨middle, hfront, hmiddle, -⟩ := segment_append.mp h
  refine segment_append.mpr ⟨middle, hfront.congr fun b hb => ?_, hmiddle, ?_⟩
  · exact Function.update_of_ne (ne_of_mem_of_not_mem hb hfresh) _ _
  · exact Function.update_self _ _ _

/-- Append a node whose own field is NULL to a list that is not empty. -/
theorem Spells.snoc (h : Spells next p (front ++ [a])) {b : α} (hfresh : b ∉ front ++ [a])
    (hend : next b = none) :
    Spells (Function.update next a (some b)) p (front ++ [a] ++ [b]) := by
  have hlast : a ∉ front := by
    have hnodup := h.nodup
    simp only [List.nodup_append, List.mem_singleton] at hnodup
    intro hmem
    exact hnodup.2.2 a hmem a rfl rfl
  have hne : b ≠ a := by
    rintro rfl
    simp at hfresh
  refine segment_append.mpr ⟨some b, Segment.write_last h hlast (some b), rfl, ?_⟩
  rw [Function.update_of_ne hne]
  exact hend

/-- The field of the predecessor, if there is one, is set to that of the node. -/
def bypass (next : α → Option α) (predecessor : Option α) (a : α) : α → Option α :=
  match predecessor with
  | some b => Function.update next b (next a)
  | none => next

theorem bypass_of_not_mem {b : α} (h : b ∉ front) : bypass next front.getLast? a b = next b := by
  cases hlast : front.getLast? with
  | none => rfl
  | some c =>
    have hne : b ≠ c := (ne_of_mem_of_not_mem (List.mem_of_getLast? hlast) h).symm
    exact Function.update_of_ne hne _ _

/-- Take out a node. -/
theorem Spells.unlink (h : Spells next p (front ++ a :: back)) :
    Spells (bypass next front.getLast? a) (if p = some a then next a else p)
      (front ++ back) := by
  have hhead := h.head_eq
  have hnodup := h.nodup
  obtain ⟨r, hfront, rfl, hback⟩ := segment_append.mp h
  rw [List.nodup_append] at hnodup
  obtain ⟨hfrontNodup, -, hdisjoint⟩ := hnodup
  have hrest : Segment (bypass next front.getLast? a) (next a) back none :=
    hback.congr fun b hb =>
      bypass_of_not_mem fun hmem => hdisjoint b hmem b (List.mem_cons_of_mem a hb) rfl
  rcases List.eq_nil_or_concat' front with rfl | ⟨init, c, rfl⟩
  · rw [show p = some a from hfront, if_pos rfl]
    exact hrest
  · have hne : p ≠ some a := by
      rintro rfl
      have hmem : a ∈ init ++ [c] := by
        apply List.mem_of_mem_head?
        rw [List.head?_append_of_ne_nil _ (by simp)] at hhead
        exact hhead.symm
      exact hdisjoint a hmem a List.mem_cons_self rfl
    have hlast : c ∉ init := fun hmem =>
      (List.nodup_append.mp hfrontNodup).2.2 c hmem c (List.mem_singleton.mpr rfl) rfl
    rw [if_neg hne]
    refine segment_append.mpr ⟨next a, ?_, hrest⟩
    have hwritten := Segment.write_last hfront hlast (next a)
    simpa [bypass] using hwritten

end Writes

end LibRasta.Lib
