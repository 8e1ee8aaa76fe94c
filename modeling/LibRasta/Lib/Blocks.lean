/-
Module: LibRasta/Lib/Blocks.lean
digest: Data taken in whole blocks: how the blocks of two pieces join, and what equal results of a chain of blocks say about one of its links.
-/

import Mathlib.Data.List.Basic
import Mathlib.Tactic.Common

set_option autoImplicit false
set_option relaxedAutoImplicit false

namespace LibRasta.Lib

section Blocks

variable {α : Type} {n : ℕ} {data a b : List α}

/-- The whole blocks of `n` elements that a list starts with. -/
def blocks (n : ℕ) (data : List α) : List (List α) :=
  (List.range (data.length / n)).map fun i => (data.drop (n * i)).take n

/-- What follows the whole blocks. -/
def residue (n : ℕ) (data : List α) : List α := data.drop (data.length / n * n)

theorem length_blocks : (blocks n data).length = data.length / n := by
  rw [blocks, List.length_map, List.length_range]

theorem length_residue : (residue n data).length = data.length % n := by
  rw [residue, List.length_drop, Nat.mod_eq_sub_div_mul]

theorem blocks_short (h : data.length < n) : blocks n data = [] := by
  rw [blocks, Nat.div_eq_of_lt h]
  rfl

theorem residue_short (h : data.length < n) : residue n data = data := by
  rw [residue, Nat.div_eq_of_lt h, Nat.zero_mul, List.drop_zero]

theorem blocks_long (hn : 0 < n) (h : n ≤ data.length) :
    blocks n data = data.take n :: blocks n (data.drop n) := by
  have hcount : data.length / n = (data.drop n).length / n + 1 := by
    rw [List.length_drop]
    exact Nat.div_eq_sub_div hn h
  rw [blocks, hcount, List.range_succ_eq_map, List.map_cons, List.map_map, Nat.mul_zero,
    List.drop_zero, blocks]
  congr 1
  apply List.map_congr_left
  intro i _
  rw [Function.comp_apply, List.drop_drop, Nat.mul_succ, Nat.add_comm]

theorem residue_long (hn : 0 < n) (h : n ≤ data.length) :
    residue n data = residue n (data.drop n) := by
  have hcount : data.length / n = (data.drop n).length / n + 1 := by
    rw [List.length_drop]
    exact Nat.div_eq_sub_div hn h
  rw [residue, residue, List.drop_drop, hcount, Nat.succ_mul, Nat.add_comm]

theorem blocks_single (hn : 0 < n) (h : data.length = n) : blocks n data = [data] := by
  have hnone : blocks n (data.drop n) = [] := by
    apply blocks_short
    rw [List.length_drop]
    omega
  rw [blocks_long hn (Nat.le_of_eq h.symm), hnone, List.take_of_length_le (Nat.le_of_eq h)]

/-- The blocks of two pieces, the first of which ends with a block. -/
theorem blocks_append (hn : 0 < n) {k : ℕ} (ha : a.length = k * n) :
    blocks n (a ++ b) = blocks n a ++ blocks n b ∧ residue n (a ++ b) = residue n b := by
  induction k generalizing a with
  | zero =>
    obtain rfl : a = [] := List.eq_nil_of_length_eq_zero (by omega)
    have hnone : blocks n ([] : List α) = [] := blocks_short hn
    rw [List.nil_append, hnone, List.nil_append]
    exact ⟨rfl, rfl⟩
  | succ k ih =>
    rw [Nat.succ_mul] at ha
    have hlong : n ≤ a.length := by omega
    have hboth : n ≤ (a ++ b).length := by
      rw [List.length_append]
      omega
    have hdrop : (a.drop n).length = k * n := by
      rw [List.length_drop]
      omega
    obtain ⟨hblocks, hresidue⟩ := ih hdrop
    rw [blocks_long hn hboth, blocks_long hn hlong, residue_long hn hboth,
      List.take_append_of_le_length hlong, List.drop_append_of_le_length hlong, hblocks, hresidue]
    exact ⟨rfl, rfl⟩

theorem take_append_residue : data.take (data.length / n * n) ++ residue n data = data :=
  List.take_append_drop _ data

theorem length_whole : (data.take (data.length / n * n)).length = data.length / n * n := by
  rw [List.length_take]
  exact Nat.min_eq_left (Nat.div_mul_le_self _ _)

/-- Only the whole blocks count. -/
theorem blocks_whole (hn : 0 < n) :
    blocks n (data.take (data.length / n * n)) = blocks n data := by
  have hrest : blocks n (residue n data) = [] := by
    apply blocks_short
    rw [length_residue]
    exact Nat.mod_lt _ hn
  have hjoin := (@blocks_append _ _ _ (residue n data) hn _ (@length_whole _ n data)).1
  rw [take_append_residue, hrest, List.append_nil] at hjoin
  exact hjoin.symm

/-- What follows the blocks of the first piece joins the second one. -/
theorem blocks_append_residue (hn : 0 < n) :
    blocks n (a ++ b) = blocks n a ++ blocks n (residue n a ++ b) ∧
      residue n (a ++ b) = residue n (residue n a ++ b) := by
  have hjoin := @blocks_append _ _ _ (residue n a ++ b) hn _ (@length_whole _ n a)
  rw [← List.append_assoc, take_append_residue, blocks_whole hn] at hjoin
  exact hjoin

/-- Whole data is made of its blocks. -/
theorem flatten_blocks (hn : 0 < n) {k : ℕ} (h : data.length = k * n) :
    (blocks n data).flatten = data := by
  induction k generalizing data with
  | zero =>
    obtain rfl : data = [] := List.eq_nil_of_length_eq_zero (by omega)
    have hnone : blocks n ([] : List α) = [] := blocks_short hn
    rw [hnone]
    rfl
  | succ k ih =>
    rw [Nat.succ_mul] at h
    have hdrop : (data.drop n).length = k * n := by
      rw [List.length_drop]
      omega
    rw [blocks_long hn (by omega), List.flatten_cons, ih hdrop, List.take_append_drop]

theorem getLast?_blocks (hn : 0 < n) {k : ℕ} (h : data.length = (k + 1) * n) :
    (blocks n data).getLast? = some (data.drop (k * n)) := by
  rw [Nat.succ_mul] at h
  have hfront : (data.take (k * n)).length = k * n := by
    rw [List.length_take]
    omega
  have hlast : (data.drop (k * n)).length = n := by
    rw [List.length_drop]
    omega
  have hjoin := (@blocks_append _ _ _ (data.drop (k * n)) hn _ hfront).1
  rw [List.take_append_drop, blocks_single hn hlast] at hjoin
  rw [hjoin, List.getLast?_concat]

end Blocks

section Chains

variable {σ β : Type} {f : σ → β → σ} {s t : σ} {xs ys : List β}

/-- Somewhere in the chains from `s` over `xs` and from `t` over `ys`, two different inputs of a
link have the same result. -/
def Collides (f : σ → β → σ) (s t : σ) (xs ys : List β) : Prop :=
  ∃ front x back front' y back', xs = front ++ x :: back ∧ ys = front' ++ y :: back' ∧
    (front.foldl f s, x) ≠ (front'.foldl f t, y) ∧
    f (front.foldl f s) x = f (front'.foldl f t) y

theorem Collides.cons {x y : β} (h : Collides f (f s x) (f t y) xs ys) :
    Collides f s t (x :: xs) (y :: ys) := by
  obtain ⟨front, v, back, front', w, back', rfl, rfl, hne, heq⟩ := h
  exact ⟨x :: front, v, back, y :: front', w, back', rfl, rfl, hne, heq⟩

/-- Chains of one length with one result are the same, or somewhere two links collide. -/
theorem collides_or_eq (hlength : xs.length = ys.length) (h : xs.foldl f s = ys.foldl f t) :
    Collides f s t xs ys ∨ (s = t ∧ xs = ys) := by
  induction xs generalizing ys s t with
  | nil =>
    obtain rfl : ys = [] := List.eq_nil_of_length_eq_zero hlength.symm
    exact .inr ⟨h, rfl⟩
  | cons x xs ih =>
    cases ys with
    | nil => cases hlength
    | cons y ys =>
      rcases ih (Nat.succ.inj hlength) h with hcollides | ⟨hstate, rfl⟩
      · exact .inl hcollides.cons
      · by_cases hsame : (s, x) = (t, y)
        · cases hsame
          exact .inr ⟨rfl, rfl⟩
        · exact .inl ⟨[], x, xs, [], y, xs, rfl, rfl, hsame, hstate⟩

/-- Where the last element of a chain tells its length, two different chains with one result
contain a collision. -/
theorem collides_of_ne (hlast : xs.getLast? = ys.getLast? → xs.length = ys.length)
    (hxs : xs ≠ []) (hys : ys ≠ []) (hne : xs ≠ ys) (h : xs.foldl f s = ys.foldl f s) :
    Collides f s s xs ys := by
  by_cases hsame : xs.getLast? = ys.getLast?
  · rcases collides_or_eq (hlast hsame) h with hcollides | ⟨-, heq⟩
    · exact hcollides
    · exact absurd heq hne
  · rw [List.getLast?_eq_some_getLast hxs, List.getLast?_eq_some_getLast hys] at hsame
    refine ⟨_, _, [], _, _, [], (List.dropLast_append_getLast hxs).symm,
      (List.dropLast_append_getLast hys).symm, ?_, ?_⟩
    · intro heq
      exact hsame (congrArg some (congrArg Prod.snd heq))
    · rw [← List.dropLast_append_getLast hxs, ← List.dropLast_append_getLast hys,
        List.foldl_append, List.foldl_append] at h
      exact h

end Chains

end LibRasta.Lib
