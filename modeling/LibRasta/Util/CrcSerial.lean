/-
Module: LibRasta/Util/CrcSerial.lean
source: src/c/util/rastacrc.c
digest: The table driven CRC computation returns the value of the bit serial one.
-/

import LibRasta.Lib.Crc
import LibRasta.Util.Crc

set_option autoImplicit false
set_option relaxedAutoImplicit false

namespace LibRasta.Util

open LibRasta.Lib.Crc

section Statement

/-- The bits of a byte, most significant first, after reversing them if `refin` is set. -/
def byteBits (refin : Bool) (byte : UInt8) : List Bool :=
  (List.range 8).map fun i =>
    (if refin then byte.toBitVec.reverse else byte.toBitVec).getMsbD i

/-- The plain algorithm: a register of `width` bits that takes the message bit by bit. -/
def bitSerialCrc (options : CrcOptions) (data : Bytes) : BitVec options.width.toNat :=
  let polynom := options.polynom.toBitVec.setWidth options.width.toNat
  let initial := options.initialOptimized.toBitVec.setWidth options.width.toNat
  let register := (data.flatMap (byteBits options.refin)).foldl (feed polynom) initial
  (if options.refout then register.reverse else register) ^^^
    options.finalXor.toBitVec.setWidth options.width.toNat

/-- The option sets with a CRC. -/
def checkingOptionSets : List CrcOptions := [crcInitOptB, crcInitOptC, crcInitOptD, crcInitOptE]

/-- What the four option sets with a CRC have in common. -/
structure Regular (options : CrcOptions) : Prop where
  byte_le : 8 ≤ options.width.toNat
  le_word : options.width.toNat ≤ 64
  highBit : options.crcHighBit.toBitVec = BitVec.twoPow 64 (options.width.toNat - 1)
  mask : options.crcMask.toBitVec = (BitVec.allOnes options.width.toNat).setWidth 64
  refout : options.refout = options.refin

end Statement

section Words

theorem ofNat_toBitVec_toNat {k : ℕ} (h : k < 64) :
    ((UInt64.ofNat k).toBitVec % 64).toNat = k := by
  rw [UInt64.toBitVec_ofNat', BitVec.toNat_umod, BitVec.toNat_ofNat]
  show k % 2 ^ 64 % 64 = k
  omega

theorem toBitVec_shiftLeft_ofNat (a : UInt64) {k : ℕ} (h : k < 64) :
    (a <<< UInt64.ofNat k).toBitVec = a.toBitVec <<< k := by
  rw [UInt64.toBitVec_shiftLeft, BitVec.shiftLeft_eq', ofNat_toBitVec_toNat h]

theorem toBitVec_shiftRight_ofNat (a : UInt64) {k : ℕ} (h : k < 64) :
    (a >>> UInt64.ofNat k).toBitVec = a.toBitVec >>> k := by
  rw [UInt64.toBitVec_shiftRight, BitVec.ushiftRight_eq', ofNat_toBitVec_toNat h]

/-- A single bit of the word shows in the conjunction with it. -/
theorem and_ne_zero_iff {a b : UInt64} {k : ℕ} (hb : b.toBitVec = BitVec.twoPow 64 k)
    (hk : k < 64) : a &&& b ≠ 0 ↔ a.toBitVec.getLsbD k = true := by
  have hzero : BitVec.twoPow 64 k ≠ 0#64 := by
    intro heq
    have hbit := congrArg (fun r => r.getLsbD k) heq
    simp only [BitVec.getLsbD_twoPow, hk, decide_true, BitVec.getLsbD_zero] at hbit
    exact Bool.noConfusion hbit
  rw [ne_eq, ← UInt64.toBitVec_inj, UInt64.toBitVec_and, hb, BitVec.and_twoPow]
  cases a.toBitVec.getLsbD k with
  | false => simp
  | true =>
    simp only [if_true, iff_true]
    exact hzero

end Words

section Reflection

theorem reflectLoop_zero (x : UInt64) (rounds : ℕ) (j out : UInt64) :
    reflectLoop x rounds 0 j out = out := by
  cases rounds with
  | zero => rfl
  | succ rounds => rfl

theorem ne_zero_of_twoPow {i : UInt64} {k : ℕ} (hi : i.toBitVec = BitVec.twoPow 64 k)
    (hk : k < 64) : i ≠ 0 := by
  intro hzero
  have hbit : (BitVec.twoPow 64 k).getLsbD k = false := by
    rw [← hi, hzero]
    exact BitVec.getLsbD_zero
  rw [BitVec.getLsbD_twoPow] at hbit
  simp [hk] at hbit

theorem getLsbD_orIf {x i j out : UInt64} {k m : ℕ} (hi : i.toBitVec = BitVec.twoPow 64 k)
    (hj : j.toBitVec = BitVec.twoPow 64 m) (hk : k < 64) (hm : m < 64) (t : ℕ) :
    (if x &&& i ≠ 0 then out ||| j else out).toBitVec.getLsbD t =
      (out.toBitVec.getLsbD t || (decide (t = m) && x.toBitVec.getLsbD k)) := by
  by_cases hbit : x &&& i ≠ 0
  · rw [if_pos hbit, UInt64.toBitVec_or, BitVec.getLsbD_or, hj, BitVec.getLsbD_twoPow,
      (and_ne_zero_iff hi hk).mp hbit]
    simp [hm, eq_comm]
  · have hclear : x.toBitVec.getLsbD k = false := by
      rw [← Bool.not_eq_true, ← and_ne_zero_iff hi hk]
      exact hbit
    rw [if_neg hbit, hclear, Bool.and_false, Bool.or_false]

/-- The loop of `reflect` from bit `k` down, with the reversed bits from `m` on. -/
theorem getLsbD_reflectLoop (x : UInt64) (k rounds m : ℕ) (i j out : UInt64)
    (hrounds : k < rounds) (hm : m + k < 64) (hi : i.toBitVec = BitVec.twoPow 64 k)
    (hj : j.toBitVec = BitVec.twoPow 64 m) (t : ℕ) :
    (reflectLoop x rounds i j out).toBitVec.getLsbD t =
      (out.toBitVec.getLsbD t ||
        (decide (m ≤ t) && decide (t ≤ m + k) && x.toBitVec.getLsbD (k - (t - m)))) := by
  induction k generalizing rounds m i j out with
  | zero =>
    obtain ⟨rest, rfl⟩ : ∃ rest, rounds = rest + 1 := ⟨rounds - 1, by omega⟩
    have hlast : i >>> 1 = 0 := by
      rw [← UInt64.toBitVec_inj]
      show i.toBitVec >>> 1 = 0#64
      rw [hi]
      rfl
    rw [reflectLoop, if_neg (ne_zero_of_twoPow hi (by omega)), hlast, reflectLoop_zero,
      getLsbD_orIf hi hj (by omega) (by omega)]
    by_cases ht : t = m
    · simp [ht]
    · have hout : ¬ (m ≤ t ∧ t ≤ m + 0) := by omega
      simp only [ht, decide_false, Bool.false_and, ← Bool.decide_and, hout]
  | succ k ih =>
    obtain ⟨rest, rfl⟩ : ∃ rest, rounds = rest + 1 := ⟨rounds - 1, by omega⟩
    have hnext : (i >>> 1).toBitVec = BitVec.twoPow 64 k := by
      show i.toBitVec >>> 1 = BitVec.twoPow 64 k
      apply BitVec.eq_of_getLsbD_eq
      intro b hb
      rw [hi, BitVec.getLsbD_ushiftRight, BitVec.getLsbD_twoPow, BitVec.getLsbD_twoPow]
      have hin : k < 64 ∧ k + 1 < 64 := by omega
      have hshift : k + 1 = 1 + b ↔ k = b := by omega
      simp [hin.1, hin.2, hshift]
    have hhigher : (j <<< 1).toBitVec = BitVec.twoPow 64 (m + 1) := by
      show j.toBitVec <<< 1 = BitVec.twoPow 64 (m + 1)
      apply BitVec.eq_of_getLsbD_eq
      intro b hb
      rw [hj, BitVec.getLsbD_shiftLeft, BitVec.getLsbD_twoPow, BitVec.getLsbD_twoPow]
      have hin : m < 64 ∧ m + 1 < 64 := by omega
      have hshift : m + 1 = b ↔ ¬ b < 1 ∧ m = b - 1 := by omega
      simp [hin.1, hin.2, hshift, hb]
    rw [reflectLoop, if_neg (ne_zero_of_twoPow hi (by omega)),
      ih rest (m + 1) _ _ _ (by omega) (by omega) hnext hhigher,
      getLsbD_orIf hi hj (by omega) (by omega), Bool.or_assoc]
    rcases Nat.lt_trichotomy t m with hlt | rfl | hgt
    · have hne : t ≠ m := by omega
      have hbelow : ¬ m ≤ t ∧ ¬ m + 1 ≤ t := by omega
      simp only [hne, hbelow.1, hbelow.2, decide_false, Bool.false_and, Bool.or_self]
    · have hbelow : ¬ t + 1 ≤ t := by omega
      simp [hbelow]
    · have hne : t ≠ m := by omega
      have hin : m ≤ t ∧ m + 1 ≤ t := by omega
      have hupper : t ≤ m + 1 + k ↔ t ≤ m + (k + 1) := by omega
      have hsame : k - (t - (m + 1)) = k + 1 - (t - m) ∨ m + (k + 1) < t := by omega
      rcases hsame with hsame | hover
      · simp only [hne, hin.1, hin.2, hupper, hsame, decide_false, decide_true, Bool.false_and,
          Bool.false_or, Bool.true_and]
      · have hout : ¬ t ≤ m + (k + 1) := by omega
        simp only [hne, hin.1, hin.2, hupper, hout, decide_false, Bool.false_and, Bool.and_false,
          Bool.false_or]

theorem getLsbD_reflect (x : UInt64) {n : ℕ} (hpos : 1 ≤ n) (hn : n ≤ 64) (t : ℕ) :
    (reflect x n).toBitVec.getLsbD t = (decide (t < n) && x.toBitVec.getLsbD (n - 1 - t)) := by
  have hi : ((1 : UInt64) <<< UInt64.ofNat (n - 1)).toBitVec = BitVec.twoPow 64 (n - 1) := by
    rw [toBitVec_shiftLeft_ofNat _ (by omega)]
    exact (BitVec.twoPow_eq 64 (n - 1)).symm
  have hj : (1 : UInt64).toBitVec = BitVec.twoPow 64 0 := rfl
  have hout : (0 : UInt64).toBitVec.getLsbD t = false := BitVec.getLsbD_zero
  have hupper : t ≤ 0 + (n - 1) ↔ t < n := by omega
  rw [reflect, getLsbD_reflectLoop x (n - 1) 64 0 _ _ _ (by omega) (by omega) hi hj, hout]
  simp only [hupper, Nat.zero_le, decide_true, Bool.true_and, Bool.false_or, Nat.sub_zero]

end Reflection

section Register

variable {options : CrcOptions}

/-- The part of a word that belongs to the register. -/
def low (options : CrcOptions) (x : UInt64) : BitVec options.width.toNat :=
  x.toBitVec.setWidth options.width.toNat

/-- The register a word of the main loop stands for: reflected input keeps it reversed. -/
def held (options : CrcOptions) (crc : UInt64) : BitVec options.width.toNat :=
  if options.refin then (low options crc).reverse else low options crc

/-- The bits above the register are clear. -/
def Clear (options : CrcOptions) (x : UInt64) : Prop :=
  ∀ t, options.width.toNat ≤ t → x.toBitVec.getLsbD t = false

theorem getLsbD_low (x : UInt64) (t : ℕ) :
    (low options x).getLsbD t = (decide (t < options.width.toNat) && x.toBitVec.getLsbD t) :=
  BitVec.getLsbD_setWidth _ _ _

theorem getLsbD_mirror {w : ℕ} (x : BitVec w) (t : ℕ) :
    x.reverse.getLsbD t = (decide (t < w) && x.getLsbD (w - 1 - t)) := by
  rw [BitVec.getLsbD_reverse, BitVec.getMsbD_eq_getLsbD]

theorem reverse_xor {w : ℕ} (x y : BitVec w) : (x ^^^ y).reverse = x.reverse ^^^ y.reverse := by
  apply BitVec.eq_of_getLsbD_eq
  intro t ht
  simp only [BitVec.getLsbD_reverse, BitVec.getMsbD_xor, BitVec.getLsbD_xor]

theorem low_xor (x y : UInt64) : low options (x ^^^ y) = low options x ^^^ low options y := by
  rw [low, UInt64.toBitVec_xor, BitVec.setWidth_xor]
  rfl

theorem held_xor (x y : UInt64) : held options (x ^^^ y) = held options x ^^^ held options y := by
  unfold held
  cases options.refin with
  | false => exact low_xor x y
  | true =>
    show (low options (x ^^^ y)).reverse = (low options x).reverse ^^^ (low options y).reverse
    rw [low_xor, reverse_xor]

theorem low_shiftLeft (h : Regular options) (x : UInt64) {k : ℕ} (hk : k < 64) :
    low options (x <<< UInt64.ofNat k) = low options x <<< k := by
  apply BitVec.eq_of_getLsbD_eq
  intro t ht
  have hword := h.le_word
  have hin : t < 64 := by omega
  have hdown : t - k < options.width.toNat := by omega
  rw [getLsbD_low, toBitVec_shiftLeft_ofNat x hk, BitVec.getLsbD_shiftLeft,
    BitVec.getLsbD_shiftLeft, getLsbD_low]
  simp only [ht, hin, hdown, decide_true, Bool.true_and]

theorem low_reflect (h : Regular options) (x : UInt64) :
    low options (reflect x options.width.toNat) = (low options x).reverse := by
  apply BitVec.eq_of_getLsbD_eq
  intro t ht
  have hbyte := h.byte_le
  have hdown : options.width.toNat - 1 - t < options.width.toNat := by omega
  rw [getLsbD_low, getLsbD_reflect x (by omega) h.le_word, getLsbD_mirror, getLsbD_low]
  simp only [ht, hdown, decide_true, Bool.true_and]

theorem clear_reflect (h : Regular options) (x : UInt64) :
    Clear options (reflect x options.width.toNat) := by
  intro t ht
  have hbyte := h.byte_le
  have hout : ¬ t < options.width.toNat := by omega
  rw [getLsbD_reflect x (by omega) h.le_word]
  simp only [hout, decide_false, Bool.false_and]

theorem getLsbD_mask (h : Regular options) (t : ℕ) :
    options.crcMask.toBitVec.getLsbD t = decide (t < options.width.toNat) := by
  have hword := h.le_word
  rw [h.mask, BitVec.getLsbD_setWidth, BitVec.getLsbD_allOnes]
  by_cases ht : t < options.width.toNat
  · have hin : t < 64 := by omega
    simp [ht, hin]
  · simp [ht]

theorem low_and_mask (h : Regular options) (x : UInt64) :
    low options (x &&& options.crcMask) = low options x := by
  apply BitVec.eq_of_getLsbD_eq
  intro t ht
  rw [getLsbD_low, getLsbD_low, UInt64.toBitVec_and, BitVec.getLsbD_and, getLsbD_mask h]
  simp only [ht, decide_true, Bool.true_and, Bool.and_true]

theorem clear_and_mask (h : Regular options) (x : UInt64) :
    Clear options (x &&& options.crcMask) := by
  intro t ht
  have hout : ¬ t < options.width.toNat := by omega
  rw [UInt64.toBitVec_and, BitVec.getLsbD_and, getLsbD_mask h]
  simp only [hout, decide_false, Bool.and_false]

end Register

section Table

variable {options : CrcOptions}

theorem low_tableRound (h : Regular options) (crc : UInt64) :
    low options (tableRound options crc) =
      shift (low options options.polynom) (low options crc) := by
  have hbyte := h.byte_le
  have hword := h.le_word
  have hlast : options.width.toNat - 1 < options.width.toNat := by omega
  have hmsb : (low options crc).msb = crc.toBitVec.getLsbD (options.width.toNat - 1) := by
    rw [BitVec.msb_eq_getLsbD_last, getLsbD_low]
    simp only [hlast, decide_true, Bool.true_and]
  have hup : low options (crc <<< 1) = low options crc <<< 1 := low_shiftLeft h crc (by decide)
  unfold tableRound shift
  rw [hmsb, ← hup]
  by_cases hbit : crc &&& options.crcHighBit ≠ 0
  · rw [if_pos hbit, if_pos ((and_ne_zero_iff h.highBit (by omega)).mp hbit), low_xor]
  · rw [if_neg hbit, if_neg fun hset => hbit ((and_ne_zero_iff h.highBit (by omega)).mpr hset)]

theorem low_tableRounds (h : Regular options) (n : ℕ) (crc : UInt64) :
    low options ((List.range n).foldl (fun crc _ => tableRound options crc) crc) =
      shifts (low options options.polynom) n (low options crc) := by
  rw [List.foldl_const, List.length_range]
  induction n with
  | zero => rfl
  | succ n ih =>
    rw [Function.iterate_succ_apply', low_tableRound h, ih]
    exact (Function.iterate_succ_apply' _ _ _).symm

/-- Where the index of the table stands in the register. -/
def placed (options : CrcOptions) (index : UInt64) : BitVec options.width.toNat :=
  if options.refin then (low options index).reverse
  else low options index <<< (options.width.toNat - 8)

theorem ofNat_width_sub (h : Regular options) :
    UInt64.ofNat options.width.toNat - 8 = UInt64.ofNat (options.width.toNat - 8) := by
  have hbyte := h.byte_le
  have hword := h.le_word
  exact (UInt64.ofNat_sub hbyte).symm

theorem low_reflectedIndex (h : Regular options) {index : UInt64}
    (hindex : ∀ t, 8 ≤ t → index.toBitVec.getLsbD t = false) :
    low options (reflect index 8) <<< (options.width.toNat - 8) = (low options index).reverse := by
  have hbyte := h.byte_le
  apply BitVec.eq_of_getLsbD_eq
  intro t ht
  have hmirror : options.width.toNat - 1 - t < options.width.toNat := by omega
  rw [BitVec.getLsbD_shiftLeft, getLsbD_low, getLsbD_reflect index (by omega) (by omega),
    getLsbD_mirror, getLsbD_low]
  by_cases hbelow : t < options.width.toNat - 8
  · rw [hindex (options.width.toNat - 1 - t) (by omega)]
    simp [hbelow]
  · have hdown : t - (options.width.toNat - 8) < options.width.toNat := by omega
    have hfirst : t - (options.width.toNat - 8) < 8 := by omega
    have hsame : 8 - 1 - (t - (options.width.toNat - 8)) = options.width.toNat - 1 - t := by omega
    simp only [ht, hbelow, hdown, hfirst, hmirror, hsame, decide_true, decide_false, Bool.not_false,
      Bool.true_and]

theorem low_start (h : Regular options) {index : UInt64}
    (hindex : ∀ t, 8 ≤ t → index.toBitVec.getLsbD t = false) :
    low options ((if options.refin then reflect index 8 else index) <<<
      (UInt64.ofNat options.width.toNat - 8)) = placed options index := by
  have hword := h.le_word
  rw [ofNat_width_sub h, low_shiftLeft h _ (by omega)]
  unfold placed
  cases options.refin with
  | false => rfl
  | true => exact low_reflectedIndex h hindex

/-- A table entry is the index at the top of the register after eight shifts. -/
theorem held_tableEntry (h : Regular options) {index : UInt64}
    (hindex : ∀ t, 8 ≤ t → index.toBitVec.getLsbD t = false) :
    held options (tableEntry options index.toNat) =
      shifts (low options options.polynom) 8 (placed options index) := by
  have hdivided := low_tableRounds h 8 ((if options.refin then reflect index 8 else index) <<<
      (UInt64.ofNat options.width.toNat - 8))
  rw [low_start h hindex] at hdivided
  rw [← hdivided]
  unfold held tableEntry
  rw [UInt64.ofNat_toNat]
  dsimp only
  rw [low_and_mask h]
  generalize (List.range 8).foldl _ _ = divided
  cases options.refin with
  | false => rfl
  | true =>
    show (low options (reflect divided options.width.toNat)).reverse = low options divided
    rw [low_reflect h, BitVec.reverse_reverse_eq]

theorem clear_tableEntry (h : Regular options) (i : ℕ) : Clear options (tableEntry options i) :=
  clear_and_mask h _

theorem getD_generated (ht : options.table = (List.range 256).map (tableEntry options))
    {index : UInt64} (hindex : ∀ t, 8 ≤ t → index.toBitVec.getLsbD t = false) :
    options.table.getD index.toNat 0 = tableEntry options index.toNat := by
  have hlt : index.toNat < 256 := by
    show index.toNat < 2 ^ 8
    exact Nat.lt_pow_two_of_testBit index.toNat hindex
  rw [ht, List.getD_eq_getElem?_getD, List.getElem?_map, List.getElem?_range hlt]
  rfl

end Table

section Loop

variable {options : CrcOptions}

theorem getLsbD_byteMask (t : ℕ) : (0xff : UInt64).toBitVec.getLsbD t = decide (t < 8) := by
  show (255 : ℕ).testBit t = decide (t < 8)
  exact Nat.testBit_two_pow_sub_one 8 t

theorem getLsbD_byte (byte : UInt8) (t : ℕ) :
    byte.toUInt64.toBitVec.getLsbD t = byte.toBitVec.getLsbD t := by
  show (byte.toBitVec.setWidth 64).getLsbD t = byte.toBitVec.getLsbD t
  rw [BitVec.getLsbD_setWidth]
  by_cases ht : t < 64
  · simp [ht]
  · rw [BitVec.getLsbD_of_ge byte.toBitVec t (by omega)]
    simp

/-- The index of the table has one byte, in which the message byte meets one of the register. -/
theorem getLsbD_index (crc : UInt64) (byte : UInt8) (t : ℕ) :
    ((crc &&& 0xff) ^^^ byte.toUInt64).toBitVec.getLsbD t =
      (decide (t < 8) && (crc.toBitVec.getLsbD t ^^ byte.toBitVec.getLsbD t)) := by
  rw [UInt64.toBitVec_xor, BitVec.getLsbD_xor, UInt64.toBitVec_and, BitVec.getLsbD_and,
    getLsbD_byteMask, getLsbD_byte]
  by_cases ht : t < 8
  · simp [ht]
  · rw [BitVec.getLsbD_of_ge byte.toBitVec t (by omega)]
    simp [ht]

theorem index_small (crc : UInt64) (byte : UInt8) (t : ℕ) (ht : 8 ≤ t) :
    ((crc &&& 0xff) ^^^ byte.toUInt64).toBitVec.getLsbD t = false := by
  have hout : ¬ t < 8 := by omega
  rw [getLsbD_index]
  simp only [hout, decide_false, Bool.false_and]

theorem getD_byteBits (refin : Bool) (byte : UInt8) (i : ℕ) :
    (byteBits refin byte).getD i false =
      (decide (i < 8) && byte.toBitVec.getLsbD (if refin then i else 7 - i)) := by
  by_cases hi : i < 8
  · rw [byteBits, List.getD_eq_getElem?_getD, List.getElem?_map, List.getElem?_range hi]
    cases refin with
    | false =>
      show byte.toBitVec.getMsbD i = _
      rw [BitVec.getMsbD_eq_getLsbD]
      rfl
    | true =>
      show byte.toBitVec.reverse.getMsbD i = _
      rw [BitVec.getMsbD_reverse]
      simp [hi]
  · rw [List.getD_eq_getElem?_getD, List.getElem?_eq_none (by simpa [byteBits] using hi)]
    simp [hi]

theorem length_byteBits (refin : Bool) (byte : UInt8) : (byteBits refin byte).length = 8 := rfl

theorem held_reflected (hrefin : options.refin = true) (crc : UInt64) :
    held options crc = (low options crc).reverse := by
  rw [held, hrefin, if_pos rfl]

theorem held_plain (hrefin : options.refin = false) (crc : UInt64) :
    held options crc = low options crc := by
  rw [held, hrefin, if_neg Bool.false_ne_true]

/-- Reflected input: the index is the lowest byte of the word, the highest of the register. -/
theorem placed_reflected (h : Regular options) (hrefin : options.refin = true) (crc : UInt64)
    (byte : UInt8) :
    placed options ((crc &&& 0xff) ^^^ byte.toUInt64) =
      topBits 8 (held options crc) ^^^ place (byteBits options.refin byte) := by
  have hbyte := h.byte_le
  rw [held_reflected hrefin, placed, hrefin, if_pos rfl]
  apply BitVec.eq_of_getLsbD_eq
  intro t ht
  have hmirror : options.width.toNat - 1 - t < options.width.toNat := by omega
  have htop : options.width.toNat - 8 ≤ t ↔ options.width.toNat - 1 - t < 8 := by omega
  rw [getLsbD_mirror, getLsbD_low, getLsbD_index, BitVec.getLsbD_xor, getLsbD_topBits,
    getLsbD_mirror, getLsbD_low, getLsbD_place, getD_byteBits]
  simp only [ht, hmirror, htop, decide_true, Bool.true_and, if_true, Bool.and_xor_distrib_left]

/-- Plain input: the index is the highest byte of the register. -/
theorem placed_plain (h : Regular options) (hrefin : options.refin = false) (crc : UInt64)
    (byte : UInt8) :
    placed options (((crc >>> (UInt64.ofNat options.width.toNat - 8)) &&& 0xff) ^^^
      byte.toUInt64) = topBits 8 (held options crc) ^^^ place (byteBits options.refin byte) := by
  have hbyte := h.byte_le
  have hword := h.le_word
  rw [held_plain hrefin, placed, hrefin, if_neg Bool.false_ne_true, ofNat_width_sub h]
  apply BitVec.eq_of_getLsbD_eq
  intro t ht
  rw [BitVec.getLsbD_shiftLeft, getLsbD_low, getLsbD_index,
    toBitVec_shiftRight_ofNat crc (by omega), BitVec.getLsbD_ushiftRight, BitVec.getLsbD_xor,
    getLsbD_topBits, getLsbD_low, getLsbD_place, getD_byteBits]
  by_cases hbelow : t < options.width.toNat - 8
  · have hnot : ¬ options.width.toNat - 8 ≤ t := by omega
    have hout : ¬ options.width.toNat - 1 - t < 8 := by omega
    simp [hbelow, hnot, hout]
  · have htop : options.width.toNat - 8 ≤ t := by omega
    have hdown : t - (options.width.toNat - 8) < options.width.toNat := by omega
    have hfirst : t - (options.width.toNat - 8) < 8 := by omega
    have hin : options.width.toNat - 1 - t < 8 := by omega
    have hback : options.width.toNat - 8 + (t - (options.width.toNat - 8)) = t := by omega
    have hbit : 7 - (options.width.toNat - 1 - t) = t - (options.width.toNat - 8) := by omega
    simp [ht, hbelow, htop, hdown, hfirst, hin, hback, hbit]

theorem held_shiftRight (hrefin : options.refin = true) {crc : UInt64}
    (hclear : Clear options crc) : held options (crc >>> 8) = held options crc <<< 8 := by
  rw [held_reflected hrefin, held_reflected hrefin]
  apply BitVec.eq_of_getLsbD_eq
  intro t ht
  have hmirror : options.width.toNat - 1 - t < options.width.toNat := by omega
  have hright : (crc >>> 8).toBitVec = crc.toBitVec >>> 8 :=
    toBitVec_shiftRight_ofNat crc (by decide)
  rw [BitVec.getLsbD_shiftLeft, getLsbD_mirror, getLsbD_mirror, getLsbD_low, getLsbD_low, hright,
    BitVec.getLsbD_ushiftRight]
  by_cases hlow : t < 8
  · rw [hclear (8 + (options.width.toNat - 1 - t)) (by omega)]
    simp [hlow]
  · have hback : 8 + (options.width.toNat - 1 - t) = options.width.toNat - 1 - (t - 8) := by omega
    have hdown : t - 8 < options.width.toNat := by omega
    have hup : options.width.toNat - 1 - (t - 8) < options.width.toNat := by omega
    simp only [ht, hmirror, hlow, hback, hdown, hup, decide_true, decide_false, Bool.not_false,
      Bool.true_and]

theorem held_shiftLeft (h : Regular options) (hrefin : options.refin = false) (crc : UInt64) :
    held options (crc <<< 8) = held options crc <<< 8 := by
  rw [held_plain hrefin, held_plain hrefin]
  exact low_shiftLeft h crc (by decide)

/-- What the main loop keeps of its word. -/
def Kept (options : CrcOptions) (crc : UInt64) : Prop := options.refin = true → Clear options crc

/-- One byte of the main loop feeds the eight bits of the byte. -/
theorem held_crcByte (h : Regular options)
    (ht : options.table = (List.range 256).map (tableEntry options)) {crc : UInt64}
    (hkept : Kept options crc) (byte : UInt8) :
    held options (crcByte options crc byte) =
      (byteBits options.refin byte).foldl (feed (low options options.polynom))
        (held options crc) := by
  have hbyte := h.byte_le
  have hfed : (byteBits options.refin byte).foldl (feed (low options options.polynom))
      (held options crc) = shifts (low options options.polynom) 8
        (held options crc ^^^ place (byteBits options.refin byte)) :=
    foldl_feed (by omega) hbyte _
  rw [hfed, shifts_eq_table]
  cases hrefin : options.refin with
  | false =>
    have hindex := index_small (crc >>> (UInt64.ofNat options.width.toNat - 8)) byte
    rw [crcByte, hrefin, if_neg Bool.false_ne_true, held_xor, getD_generated ht hindex,
      held_tableEntry h hindex, held_shiftLeft h hrefin, placed_plain h hrefin, hrefin]
  | true =>
    have hindex := index_small crc byte
    rw [crcByte, hrefin, if_pos rfl, held_xor, getD_generated ht hindex,
      held_tableEntry h hindex, held_shiftRight hrefin (hkept hrefin), placed_reflected h hrefin,
      hrefin]

theorem crcByte_kept (h : Regular options)
    (ht : options.table = (List.range 256).map (tableEntry options)) {crc : UInt64}
    (hkept : Kept options crc) (byte : UInt8) : Kept options (crcByte options crc byte) := by
  intro hrefin t hout
  have hright : (crc >>> 8).toBitVec = crc.toBitVec >>> 8 :=
    toBitVec_shiftRight_ofNat crc (by decide)
  rw [crcByte, hrefin, if_pos rfl, getD_generated ht (index_small crc byte), UInt64.toBitVec_xor,
    BitVec.getLsbD_xor, hright, BitVec.getLsbD_ushiftRight, hkept hrefin (8 + t) (by omega),
    clear_tableEntry h _ t hout]
  rfl

/-- The main loop feeds the whole message. -/
theorem held_crcBytes (h : Regular options)
    (ht : options.table = (List.range 256).map (tableEntry options)) (data : Bytes) {crc : UInt64}
    (hkept : Kept options crc) :
    held options (data.foldl (crcByte options) crc) =
      (data.flatMap (byteBits options.refin)).foldl (feed (low options options.polynom))
        (held options crc) := by
  induction data generalizing crc with
  | nil => rfl
  | cons byte rest ih =>
    rw [List.foldl_cons, ih (crcByte_kept h ht hkept byte), held_crcByte h ht hkept,
      List.flatMap_cons, List.foldl_append]

end Loop

section Value

variable {options : CrcOptions}

/-- The word the main loop starts with. -/
def crcStart (options : CrcOptions) : UInt64 :=
  if options.refin then reflect options.initialOptimized options.width.toNat
  else options.initialOptimized

theorem held_crcStart (h : Regular options) :
    held options (crcStart options) = low options options.initialOptimized := by
  unfold held crcStart
  cases options.refin with
  | false => rfl
  | true =>
    show (low options (reflect options.initialOptimized options.width.toNat)).reverse = _
    rw [low_reflect h, BitVec.reverse_reverse_eq]

theorem crcStart_kept (h : Regular options) : Kept options (crcStart options) := by
  intro hrefin
  rw [crcStart, hrefin, if_pos rfl]
  exact clear_reflect h _

theorem low_eq_of_held (crc : UInt64) :
    low options crc = if options.refin then (held options crc).reverse else held options crc := by
  unfold held
  cases options.refin with
  | false => rfl
  | true => exact BitVec.reverse_reverse_eq.symm

theorem eq_of_low {x : UInt64} (hclear : Clear options x)
    {value : BitVec options.width.toNat} (hlow : low options x = value) :
    x = UInt64.ofBitVec (value.setWidth 64) := by
  rw [← UInt64.toBitVec_inj]
  show x.toBitVec = value.setWidth 64
  apply BitVec.eq_of_getLsbD_eq
  intro t ht
  rw [← hlow, BitVec.getLsbD_setWidth, getLsbD_low]
  by_cases hin : t < options.width.toNat
  · simp [ht, hin]
  · rw [hclear t (by omega)]
    simp

/-- With its own table an option set computes the bit serial value. -/
theorem crcCalculate_of_table (h : Regular options) (hgenerated : options.isTableGenerated = true)
    (ht : options.table = (List.range 256).map (tableEntry options)) (data : Bytes) :
    crcCalculate options data =
      UInt64.ofBitVec ((bitSerialCrc options data).setWidth 64) := by
  have hsame : (options.refout != options.refin) = false := by rw [h.refout, bne_self_eq_false]
  have hstep : crcCalculate options data =
      (data.foldl (crcByte options) (crcStart options) ^^^ options.finalXor) &&&
        options.crcMask := by
    unfold crcCalculate
    rw [hgenerated, if_pos rfl]
    dsimp only
    rw [hsame, if_neg Bool.false_ne_true]
    rfl
  rw [hstep]
  apply eq_of_low (clear_and_mask h _)
  rw [low_and_mask h, low_xor, low_eq_of_held, held_crcBytes h ht data (crcStart_kept h),
    held_crcStart h, bitSerialCrc, h.refout]
  rfl

theorem crcGenerateTable_regular (h : Regular options) : Regular (crcGenerateTable options) :=
  ⟨h.byte_le, h.le_word, h.highBit, h.mask, h.refout⟩

theorem crcCalculate_generated (h : Regular options) (data : Bytes) :
    crcCalculate (crcGenerateTable options) data =
      UInt64.ofBitVec ((bitSerialCrc options data).setWidth 64) :=
  crcCalculate_of_table (crcGenerateTable_regular h) rfl rfl data

/-- Without a table `crc_calculate` generates it first. -/
theorem crcCalculate_eq_generated (hnone : options.isTableGenerated = false) (data : Bytes) :
    crcCalculate options data = crcCalculate (crcGenerateTable options) data := by
  unfold crcCalculate
  rw [hnone, if_neg Bool.false_ne_true]
  rfl

theorem withWidth_regular {width : UInt16} (hwidth : width = 16 ∨ width = 32)
    (hrefout : options.refout = options.refin) : Regular (withWidth options width) := by
  refine ⟨?byte, ?word, ?highBit, ?mask, hrefout⟩
  case byte =>
    show 8 ≤ width.toNat
    rcases hwidth with rfl | rfl <;> decide
  case word =>
    show width.toNat ≤ 64
    rcases hwidth with rfl | rfl <;> decide
  case highBit =>
    show ((1 : UInt64) <<< UInt64.ofNat (width.toNat - 1)).toBitVec =
      BitVec.twoPow 64 (width.toNat - 1)
    rcases hwidth with rfl | rfl <;> decide
  case mask =>
    show (((1 : UInt64) <<< UInt64.ofNat (width.toNat - 1) - 1) <<< 1 ||| 1).toBitVec =
      (BitVec.allOnes width.toNat).setWidth 64
    rcases hwidth with rfl | rfl <;> decide

theorem regular_of_mem (h : options ∈ checkingOptionSets) :
    Regular options ∧ options.isTableGenerated = false := by
  simp only [checkingOptionSets, List.mem_cons, List.not_mem_nil, or_false] at h
  rcases h with rfl | rfl | rfl | rfl
  · exact ⟨withWidth_regular (Or.inr rfl) rfl, rfl⟩
  · exact ⟨withWidth_regular (Or.inr rfl) rfl, rfl⟩
  · exact ⟨withWidth_regular (Or.inl rfl) rfl, rfl⟩
  · exact ⟨withWidth_regular (Or.inl rfl) rfl, rfl⟩

theorem crcCalculate_of_mem (h : options ∈ checkingOptionSets) (data : Bytes) :
    crcCalculate options data = UInt64.ofBitVec ((bitSerialCrc options data).setWidth 64) := by
  obtain ⟨hregular, hnone⟩ := regular_of_mem h
  rw [crcCalculate_eq_generated hnone]
  exact crcCalculate_generated hregular data

/-- The table driven computation is the bit serial one, for each of the four option sets with
a CRC, whether or not the table was generated before. -/
theorem crcCalculate_eq_bitSerial (options : CrcOptions) (h : options ∈ checkingOptionSets)
    (data : Bytes) :
    crcCalculate options data = UInt64.ofBitVec ((bitSerialCrc options data).setWidth 64) ∧
      crcCalculate (crcGenerateTable options) data =
        UInt64.ofBitVec ((bitSerialCrc options data).setWidth 64) := by
  constructor
  · exact crcCalculate_of_mem h data
  · obtain ⟨hregular, -⟩ := regular_of_mem h
    exact crcCalculate_generated hregular data

/-- The check string of the tests, with and without the table. -/
theorem crcCalculate_eq_bitSerial_checkString :
    (UInt64.ofBitVec ((bitSerialCrc crcInitOptC
        [0x31, 0x32, 0x33, 0x34, 0x35, 0x36, 0x37, 0x38, 0x39]).setWidth 64) = 0xE3069283) ∧
      crcCalculate crcInitOptC [0x31, 0x32, 0x33, 0x34, 0x35, 0x36, 0x37, 0x38, 0x39] =
        0xE3069283 ∧
      crcCalculate (crcGenerateTable crcInitOptC)
        [0x31, 0x32, 0x33, 0x34, 0x35, 0x36, 0x37, 0x38, 0x39] = 0xE3069283 := by
  have hvalue : UInt64.ofBitVec ((bitSerialCrc crcInitOptC
      [0x31, 0x32, 0x33, 0x34, 0x35, 0x36, 0x37, 0x38, 0x39]).setWidth 64) = 0xE3069283 := by
    decide +kernel
  have hboth := crcCalculate_eq_bitSerial crcInitOptC (by simp [checkingOptionSets])
    [0x31, 0x32, 0x33, 0x34, 0x35, 0x36, 0x37, 0x38, 0x39]
  exact ⟨hvalue, hboth.1.trans hvalue, hboth.2.trans hvalue⟩

end Value

end LibRasta.Util
