/-
Module: LibRasta/Lib/Serial.lean
digest: Serial numbers of 32 bits: a window test by ordered comparison and difference depends on the base only through whether the window crosses the wrap-around point.
-/

import Mathlib.Algebra.Group.Nat.Defs
import Mathlib.Tactic.Common

set_option autoImplicit false
set_option relaxedAutoImplicit false

namespace LibRasta.Lib

/-- Counting `distance` steps up from `base` passes the wrap-around point. -/
def Crosses (base distance : UInt32) : Prop :=
  2 ^ 32 ≤ base.toNat + distance.toNat

instance (base distance : UInt32) : Decidable (Crosses base distance) :=
  inferInstanceAs (Decidable (_ ≤ _))

theorem shift_sub_shift (x base shift : UInt32) :
    (x + shift) - (base + shift) = x - base := by
  apply UInt32.toNat_inj.mp
  have hx : x.toNat < 2 ^ 32 := x.toNat_lt
  have hbase : base.toNat < 2 ^ 32 := base.toNat_lt
  have hshift : shift.toNat < 2 ^ 32 := shift.toNat_lt
  simp only [UInt32.toNat_sub, UInt32.toNat_add]
  omega

theorem le_iff_not_crosses (base x : UInt32) : base ≤ x ↔ ¬ Crosses base (x - base) := by
  have hbase : base.toNat < 2 ^ 32 := base.toNat_lt
  have hx : x.toNat < 2 ^ 32 := x.toNat_lt
  rw [UInt32.le_iff_toNat_le, Crosses, UInt32.toNat_sub]
  omega

theorem lt_iff_crosses (base x : UInt32) : x < base ↔ Crosses base (x - base) := by
  rw [← UInt32.not_le, le_iff_not_crosses, not_not]

theorem not_crosses_zero (distance : UInt32) : ¬ Crosses 0 distance := by
  have hlt : distance.toNat < 2 ^ 32 := distance.toNat_lt
  simp only [Crosses, UInt32.toNat_zero, Nat.zero_add, Nat.not_le]
  exact hlt

end LibRasta.Lib
