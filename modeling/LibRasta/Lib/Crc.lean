/-
Module: LibRasta/Lib/Crc.lean
digest: The shift register of a cyclic redundancy check over words of any width: feeding bit by bit and by whole blocks, linearity, and the bursts it tells apart.
-/

import Mathlib.Data.BitVec
import Mathlib.Logic.Function.Iterate
import Mathlib.Tactic.Common

set_option autoImplicit false
set_option relaxedAutoImplicit false

namespace LibRasta.Lib.Crc

variable {w : ℕ} (poly : BitVec w)

/-- One shift of the register; a one that leaves it at the top brings the polynomial in. -/
def shift (r : BitVec w) : BitVec w := if r.msb then (r <<< 1) ^^^ poly else r <<< 1

/-- A message bit enters at the top while the register is shifted. -/
def feed (r : BitVec w) (bit : Bool) : BitVec w :=
  if r.msb ^^ bit then (r <<< 1) ^^^ poly else r <<< 1

/-- `n` shifts. -/
def shifts (n : ℕ) : BitVec w → BitVec w := (shift poly)^[n]

/-- The bits at the top of a register, the first one highest. -/
def place : List Bool → BitVec w
  | [] => 0
  | bit :: rest => (if bit then BitVec.twoPow w (w - 1) else 0) ^^^ (place rest >>> 1)

/-- The `k` highest bits of a register. -/
def topBits (k : ℕ) (r : BitVec w) : BitVec w := (r >>> (w - k)) <<< (w - k)

section Linearity

variable {poly}

theorem xor_cancel_right (a b c : BitVec w) : a ^^^ c ^^^ (b ^^^ c) = a ^^^ b := by
  rw [BitVec.xor_assoc, BitVec.xor_comm b c, ← BitVec.xor_assoc c c b, BitVec.xor_self,
    BitVec.zero_xor]

theorem shift_xor (a b : BitVec w) : shift poly (a ^^^ b) = shift poly a ^^^ shift poly b := by
  unfold shift
  rw [BitVec.msb_xor, BitVec.shiftLeft_xor_distrib]
  cases a.msb with
  | false =>
    cases b.msb with
    | false => rfl
    | true => exact BitVec.xor_assoc _ _ _
  | true =>
    cases b.msb with
    | false =>
      show (a <<< 1) ^^^ (b <<< 1) ^^^ poly = (a <<< 1) ^^^ poly ^^^ (b <<< 1)
      rw [BitVec.xor_assoc, BitVec.xor_comm (b <<< 1) poly, ← BitVec.xor_assoc]
    | true => exact (xor_cancel_right _ _ _).symm

theorem shifts_xor (n : ℕ) (a b : BitVec w) :
    shifts poly n (a ^^^ b) = shifts poly n a ^^^ shifts poly n b := by
  induction n with
  | zero => rfl
  | succ n ih =>
    simp only [shifts, Function.iterate_succ_apply'] at ih ⊢
    rw [ih, shift_xor]

/-- Bits that do not reach the top only move up. -/
theorem shifts_of_low (k : ℕ) {x : BitVec w} (h : ∀ i, w - k ≤ i → x.getLsbD i = false) :
    shifts poly k x = x <<< k := by
  induction k with
  | zero => simp [shifts]
  | succ k ih =>
    have hk := ih fun i hi => h i (by omega)
    have hmsb : (x <<< k).msb = false := by
      rw [BitVec.msb_eq_getLsbD_last, BitVec.getLsbD_shiftLeft]
      by_cases hlt : w - 1 < k
      · simp [hlt]
      · rw [h (w - 1 - k) (by omega), Bool.and_false]
    simp only [shifts, Function.iterate_succ_apply'] at hk ⊢
    rw [hk, shift, hmsb]
    simp only [Bool.false_eq_true, if_false]
    rw [← BitVec.shiftLeft_add]

theorem getLsbD_topBits (k : ℕ) (r : BitVec w) (i : ℕ) :
    (topBits k r).getLsbD i = (decide (w - k ≤ i) && r.getLsbD i) := by
  rw [topBits, BitVec.getLsbD_shiftLeft, BitVec.getLsbD_ushiftRight]
  by_cases hlow : w - k ≤ i
  · by_cases hlt : i < w
    · simp [hlt, hlow, Nat.not_lt.mpr hlow, Nat.add_sub_cancel' hlow]
    · rw [BitVec.getLsbD_of_ge r i (by omega)]
      simp [hlt]
  · simp [hlow, Nat.lt_of_not_le hlow]

/-- Shifting by a block: the register moves up, and its highest bits come back through the
polynomial. This is what a table of the second term is for. -/
theorem shifts_eq_table (k : ℕ) (r block : BitVec w) :
    shifts poly k (r ^^^ block) = (r <<< k) ^^^ shifts poly k (topBits k r ^^^ block) := by
  have hlow : shifts poly k (r ^^^ topBits k r) = (r ^^^ topBits k r) <<< k := by
    apply shifts_of_low
    intro i hi
    rw [BitVec.getLsbD_xor, getLsbD_topBits]
    simp [hi]
  have htop : topBits k r <<< k = 0#w := by
    apply BitVec.eq_of_getLsbD_eq
    intro i hi
    rw [BitVec.getLsbD_shiftLeft, getLsbD_topBits]
    by_cases hge : i < k
    · simp [hge]
    · have hnot : ¬ w - k ≤ i - k := by omega
      simp [hnot]
  rw [shifts_xor, BitVec.shiftLeft_xor_distrib, htop, BitVec.xor_zero] at hlow
  have hsplit : shifts poly k r = (r <<< k) ^^^ shifts poly k (topBits k r) := by
    rw [← hlow, BitVec.xor_assoc, BitVec.xor_self, BitVec.xor_zero]
  rw [shifts_xor, shifts_xor, hsplit, BitVec.xor_assoc]

end Linearity

section Feeding

variable {poly}

theorem getLsbD_place (bits : List Bool) (i : ℕ) :
    (place bits : BitVec w).getLsbD i = (decide (i < w) && bits.getD (w - 1 - i) false) := by
  induction bits generalizing i with
  | nil => simp [place]
  | cons bit rest ih =>
    have hbit : (if bit then BitVec.twoPow w (w - 1) else 0).getLsbD i =
        (bit && (decide (w - 1 < w) && decide (w - 1 = i))) := by
      cases bit with
      | false => simp
      | true => simp [BitVec.getLsbD_twoPow]
    rw [place, BitVec.getLsbD_xor, BitVec.getLsbD_ushiftRight, ih, hbit]
    rcases Nat.lt_trichotomy i (w - 1) with hlt | rfl | hgt
    · obtain ⟨j, hj⟩ : ∃ j, w - 1 - i = j + 1 := ⟨w - 1 - i - 1, by omega⟩
      have hrest : w - 1 - (1 + i) = j := by omega
      have hne : w - 1 ≠ i := by omega
      have hin : i < w := by omega
      have hnext : 1 + i < w := by omega
      rw [hj, hrest, List.getD_cons_succ]
      simp [hne, hin, hnext]
    · have hout : ¬ 1 + (w - 1) < w := by omega
      rw [Nat.sub_self, List.getD_cons_zero]
      by_cases hpos : w - 1 < w
      · simp [hout, hpos]
      · simp [hout, hpos]
    · have hne : w - 1 ≠ i := by omega
      have hout : ¬ i < w := by omega
      have hnext : ¬ 1 + i < w := by omega
      simp [hne, hout, hnext]

theorem feed_eq_shift (hw : 0 < w) (r : BitVec w) (bit : Bool) :
    feed poly r bit = shift poly (r ^^^ (if bit then BitVec.twoPow w (w - 1) else 0)) := by
  cases bit with
  | false => simp [feed, shift]
  | true =>
    have hmsb : (BitVec.twoPow w (w - 1)).msb = true := by
      rw [BitVec.msb_eq_getLsbD_last, BitVec.getLsbD_twoPow]
      simp only [decide_true, Bool.and_true, decide_eq_true_eq]
      omega
    have hzero : BitVec.twoPow w (w - 1) <<< 1 = 0#w := by
      apply BitVec.eq_of_getLsbD_eq
      intro i hi
      rw [BitVec.getLsbD_shiftLeft, BitVec.getLsbD_twoPow]
      have hne : w - 1 ≠ i - 1 ∨ i < 1 := by omega
      rcases hne with hne | hlt
      · simp [hne]
      · simp [hlt]
    simp only [feed, shift, if_true, BitVec.msb_xor, hmsb, BitVec.shiftLeft_xor_distrib, hzero,
      BitVec.xor_zero]

/-- Feeding bits one after the other is adding them to the top and shifting. -/
theorem foldl_feed (hw : 0 < w) {bits : List Bool} (h : bits.length ≤ w) (r : BitVec w) :
    bits.foldl (feed poly) r = shifts poly bits.length (r ^^^ place bits) := by
  induction bits generalizing r with
  | nil => simp [shifts, place]
  | cons bit rest ih =>
    rw [List.length_cons] at h
    have hmsb : (place rest >>> 1 : BitVec w).msb = false := by
      rw [BitVec.msb_eq_getLsbD_last, BitVec.getLsbD_ushiftRight,
        BitVec.getLsbD_of_ge _ _ (by omega)]
    have hback : (place rest >>> 1 <<< 1 : BitVec w) = place rest := by
      apply BitVec.eq_of_getLsbD_eq
      intro i hi
      rw [BitVec.getLsbD_shiftLeft, BitVec.getLsbD_ushiftRight]
      by_cases hzero : i < 1
      · have hlast : rest.getD (w - 1 - i) false = false := by
          rw [List.getD_eq_getElem?_getD, List.getElem?_eq_none (by omega), Option.getD_none]
        have hplace : (place rest : BitVec w).getLsbD i = false := by
          rw [getLsbD_place, hlast, Bool.and_false]
        rw [hplace]
        simp [hzero]
      · have hsame : 1 + (i - 1) = i := by omega
        simp [hzero, hi, hsame]
    have hrest : shift poly (place rest >>> 1) = place rest := by
      rw [shift, hmsb]
      exact hback
    rw [List.foldl_cons, ih (by omega), List.length_cons]
    simp only [shifts, Function.iterate_succ_apply]
    rw [place, ← BitVec.xor_assoc, shift_xor, hrest, ← feed_eq_shift hw]

end Feeding

section Detection

variable {poly}

/-- With a constant term in the polynomial no shift loses anything. -/
theorem shift_injective (hodd : poly.getLsbD 0 = true) : Function.Injective (shift poly) := by
  have hkernel : ∀ x : BitVec w, shift poly x = 0#w → x = 0#w := by
    intro x hx
    have hmsb : x.msb = false := by
      by_contra htrue
      rw [Bool.not_eq_false] at htrue
      have hbit := congrArg (fun r => r.getLsbD 0) hx
      simp [shift, htrue, hodd] at hbit
    rw [shift, hmsb] at hx
    apply BitVec.eq_of_getLsbD_eq
    intro i hi
    rw [BitVec.getLsbD_zero]
    by_cases hlast : i = w - 1
    · rw [hlast, ← BitVec.msb_eq_getLsbD_last]
      exact hmsb
    · have hnext : i + 1 < w := by omega
      have hbit : (x <<< 1).getLsbD (i + 1) = (0#w).getLsbD (i + 1) :=
        congrArg (fun r => r.getLsbD (i + 1)) hx
      rw [BitVec.getLsbD_shiftLeft, BitVec.getLsbD_zero, Nat.add_sub_cancel] at hbit
      simpa only [hnext, Nat.not_lt.mpr (Nat.le_add_left 1 i), decide_true, decide_false,
        Bool.not_false, Bool.true_and] using hbit
  intro a b hab
  have hzero : a ^^^ b = 0#w := by
    apply hkernel
    rw [shift_xor, hab, BitVec.xor_self]
  exact BitVec.xor_eq_zero_iff.mp hzero

theorem shifts_injective (hodd : poly.getLsbD 0 = true) (n : ℕ) :
    Function.Injective (shifts poly n) :=
  (shift_injective hodd).iterate n

theorem xor_right_injective (c : BitVec w) : Function.Injective fun r : BitVec w => r ^^^ c := by
  intro a b hab
  have hcancel := congrArg (fun r => r ^^^ c) hab
  simpa [BitVec.xor_assoc] using hcancel

/-- Registers that differ stay different while the same bits are fed. -/
theorem foldl_feed_injective (hw : 0 < w) (hodd : poly.getLsbD 0 = true) (bits : List Bool) :
    Function.Injective fun r : BitVec w => bits.foldl (feed poly) r := by
  induction bits with
  | nil => exact fun _ _ h => h
  | cons bit rest ih =>
    intro a b hab
    have hfed : feed poly a bit = feed poly b bit := ih hab
    rw [feed_eq_shift hw, feed_eq_shift hw] at hfed
    exact xor_right_injective _ (shift_injective hodd hfed)

theorem place_injective {u v : List Bool} (hlen : u.length = v.length) (hw : u.length ≤ w)
    (h : (place u : BitVec w) = place v) : u = v := by
  apply List.ext_getElem hlen
  intro i hu hv
  have hbit := congrArg (fun r : BitVec w => r.getLsbD (w - 1 - i)) h
  simp only [getLsbD_place] at hbit
  have hin : w - 1 - i < w := by omega
  have hback : w - 1 - (w - 1 - i) = i := by omega
  simpa [hin, hback, hu, hv] using hbit

/-- A burst of no more bits than the register has always shows in the register. -/
theorem burst_detected (hw : 0 < w) (hodd : poly.getLsbD 0 = true) {front u v back : List Bool}
    (hlen : u.length = v.length) (hburst : u.length ≤ w) (r : BitVec w)
    (h : (front ++ (u ++ back)).foldl (feed poly) r = (front ++ (v ++ back)).foldl (feed poly) r) :
    u = v := by
  simp only [List.foldl_append] at h
  have hmiddle := foldl_feed_injective hw hodd back h
  generalize front.foldl (feed poly) r = s at hmiddle
  have hu : u.foldl (feed poly) s = shifts poly u.length (s ^^^ place u) := foldl_feed hw hburst s
  have hv : v.foldl (feed poly) s = shifts poly v.length (s ^^^ place v) :=
    foldl_feed hw (hlen ▸ hburst) s
  rw [← hlen] at hv
  have hplaced : s ^^^ place u = s ^^^ place v :=
    shifts_injective hodd u.length (hu.symm.trans (hmiddle.trans hv))
  rw [BitVec.xor_comm s, BitVec.xor_comm s] at hplaced
  exact place_injective hlen hburst (xor_right_injective _ hplaced)

end Detection

end LibRasta.Lib.Crc
