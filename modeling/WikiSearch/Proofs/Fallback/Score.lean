import Mathlib
import WikiSearch.Fallback.Results

/-!
# WikiSearch — scores as numbers

A score is held by its bits and compared by its bits. Here it is said which number the bits stand
for: a finite one, one of the two infinities, or none at all. Every finite number in single
precision is a whole multiple of the least positive one, which is `2 ^ -149`, so finite numbers
are counted in that unit and stay whole.

For scores that are numbers and have no sign bit, comparing bits is comparing numbers. That is as
far as it has to go, as methods with other scores are never compared.

Main results:

* `Score.isPositive_iff` — a score is positive if it stands for a number above zero.
* `Score.exceeds_iff`, `Score.value?_eq_iff` — of two scores that promise something or nothing,
  the one of greater rank is the greater number, and those of one rank are the same number.
-/

namespace WikiSearch.Fallback.Score

/-! ## The number that bits stand for -/

/-- The finite number with these bits, the sign left out, in units of the least positive one. The
bits above the 23rd tell the power of two by which the others are scaled; without them the number
is too small for its leading one, which is left out otherwise. -/
def size (bits : Nat) : Nat :=
  if bits / 2 ^ 23 = 0 then bits else (2 ^ 23 + bits % 2 ^ 23) * 2 ^ (bits / 2 ^ 23 - 1)

/-- The number that a score stands for, if it stands for one. -/
def value? (s : Score) : Option (WithBot (WithTop ℤ)) :=
  let bits := s.bits.toNat % 2 ^ 31
  let negative := 2 ^ 31 ≤ s.bits.toNat
  if 0x7F800000 < bits then none
  else if bits = 0x7F800000 then some (if negative then ⊥ else (⊤ : WithTop ℤ))
  else some (if negative then ((-(size bits : ℤ) : ℤ) : WithTop ℤ) else ((size bits : ℤ) : WithTop ℤ))

/-- Both scores are numbers, and the first one is the greater. -/
def Exceeds (a b : Score) : Prop := ∃ v w, a.value? = some v ∧ b.value? = some w ∧ w < v

example : value? ⟨0x3F800000⟩ = some (((2 ^ 149 : ℤ) : WithTop ℤ)) := by decide

theorem Exceeds.value?_ne {a b : Score} (h : a.Exceeds b) : a.value? ≠ b.value? := by
  obtain ⟨v, w, hv, hw, hlt⟩ := h
  rw [hv, hw, Ne, Option.some.injEq]
  exact ne_of_gt hlt

/-- Only one of two numbers is the greater. -/
theorem Exceeds.asymm {a b : Score} (h : a.Exceeds b) : ¬ b.Exceeds a := by
  obtain ⟨v, w, hv, hw, hlt⟩ := h
  rintro ⟨w', v', hw', hv', hgt⟩
  obtain rfl := Option.some.inj (hv.symm.trans hv')
  obtain rfl := Option.some.inj (hw.symm.trans hw')
  exact absurd hgt (not_lt_of_gt hlt)

/-! ## Comparing bits -/

/-- The size grows with the bits, step by step. -/
theorem size_lt_succ (n : Nat) : size n < size (n + 1) := by
  unfold size
  have hn := Nat.div_add_mod n (2 ^ 23)
  rcases Nat.lt_or_ge (n % 2 ^ 23 + 1) (2 ^ 23) with hroom | hfull
  · -- the next number has the same scale
    have hdiv : (n + 1) / 2 ^ 23 = n / 2 ^ 23 := by omega
    have hmod : (n + 1) % 2 ^ 23 = n % 2 ^ 23 + 1 := by omega
    rw [hdiv, hmod]
    -- only below the first scale is the leading one left out
    split
    · omega
    · exact Nat.mul_lt_mul_of_pos_right (by omega) (Nat.two_pow_pos _)
  · -- the next number starts the next scale
    have hlast := Nat.mod_lt n (Nat.two_pow_pos 23)
    have hdiv : (n + 1) / 2 ^ 23 = n / 2 ^ 23 + 1 := by omega
    have hmod : (n + 1) % 2 ^ 23 = 0 := by omega
    rw [hdiv, hmod, if_neg (Nat.succ_ne_zero _), Nat.add_sub_cancel, Nat.add_zero]
    split
    · rename_i hzero
      rw [hzero]
      omega
    · rename_i hscaled
      have hscale : 2 ^ (n / 2 ^ 23) = 2 * 2 ^ (n / 2 ^ 23 - 1) := by
        rw [← Nat.pow_succ', Nat.succ_eq_add_one, Nat.sub_add_cancel (Nat.pos_of_ne_zero hscaled)]
      rw [hscale, ← Nat.mul_assoc]
      exact Nat.mul_lt_mul_of_pos_right (by omega) (Nat.two_pow_pos _)

theorem size_strictMono : StrictMono size := strictMono_nat_of_lt_succ size_lt_succ

/-- The score is a number and has no sign bit. -/
def IsUnsigned (s : Score) : Prop := s.bits.toNat ≤ 0x7F800000

/-- The number of an unsigned score. -/
def unsignedValue (bits : Nat) : WithTop ℤ :=
  if bits = 0x7F800000 then ⊤ else ((size bits : ℤ) : WithTop ℤ)

variable {a b s : Score}

/-- A score without a sign bit stands for a number, which is not below zero. -/
theorem value?_of_isUnsigned (h : s.IsUnsigned) :
    s.value? = some (unsignedValue s.bits.toNat : WithBot (WithTop ℤ)) := by
  unfold IsUnsigned at h
  -- taking the sign bit off changes nothing
  have hbits : s.bits.toNat % 2 ^ 31 = s.bits.toNat := by omega
  have hsign : ¬ 2 ^ 31 ≤ s.bits.toNat := by omega
  simp only [value?, hbits, if_neg hsign, if_neg (Nat.not_lt.mpr h), unsignedValue]
  split <;> rfl

/-- Comparing sizes is comparing bits. -/
theorem unsignedValue_lt_iff {m n : Nat} (hm : m ≤ 0x7F800000) (hn : n ≤ 0x7F800000) :
    unsignedValue m < unsignedValue n ↔ m < n := by
  unfold unsignedValue
  split
  · rename_i htop
    -- nothing is above infinity
    simp only [not_top_lt, false_iff]
    omega
  · split
    · rename_i hfinite htop
      simp only [WithTop.coe_lt_top, true_iff]
      omega
    · -- both numbers are finite
      rw [WithTop.coe_lt_coe, Int.ofNat_lt, size_strictMono.lt_iff_lt]

/-- The rank of a score without a sign bit is its bits. -/
theorem rank_of_isUnsigned (h : s.IsUnsigned) : s.rank = s.bits.toNat := by
  unfold IsUnsigned at h
  have hsign : s.bits < 0x80000000 := by
    rw [UInt32.lt_iff_toNat_lt]
    show s.bits.toNat < 2147483648
    omega
  rw [rank, if_pos hsign]

/-- **Ranks are sizes**, as far as they are compared. -/
theorem exceeds_iff (ha : a.IsUnsigned) (hb : b.IsUnsigned) :
    a.Exceeds b ↔ b.rank < a.rank := by
  rw [rank_of_isUnsigned ha, rank_of_isUnsigned hb, Int.ofNat_lt, ← unsignedValue_lt_iff hb ha,
    Exceeds, value?_of_isUnsigned ha, value?_of_isUnsigned hb]
  simp only [Option.some.injEq, exists_and_left, exists_eq_left', WithBot.coe_lt_coe]

/-- Scores of one rank are the same number. -/
theorem value?_eq_iff (ha : a.IsUnsigned) (hb : b.IsUnsigned) :
    a.value? = b.value? ↔ a.rank = b.rank := by
  rw [value?_of_isUnsigned ha, value?_of_isUnsigned hb, rank_of_isUnsigned ha,
    rank_of_isUnsigned hb, Option.some.injEq, WithBot.coe_inj, Int.ofNat_inj]
  constructor
  · intro heq
    -- of two different sizes one would be below the other
    have hlt := (unsignedValue_lt_iff ha hb).not.mp heq.not_lt
    have hgt := (unsignedValue_lt_iff hb ha).not.mp heq.symm.not_lt
    omega
  · exact congrArg unsignedValue

theorem isUnsigned_of_isPositive (h : s.isPositive = true) : s.IsUnsigned := by
  rw [isPositive, Bool.and_eq_true, decide_eq_true_eq, decide_eq_true_eq] at h
  exact UInt32.le_iff_toNat_le.mp h.2

theorem isUnsigned_zero : zero.IsUnsigned := Nat.zero_le _

/-- A number with its sign bit set is not above zero. -/
theorem value?_le_zero (hsign : 2 ^ 31 ≤ s.bits.toNat) :
    ∀ v, s.value? = some v → v ≤ 0 := by
  intro v hv
  simp only [value?, if_pos hsign] at hv
  split at hv
  · contradiction
  · split at hv
    · -- the one infinity with a sign
      rw [← Option.some.inj hv]
      exact bot_le
    · rw [← Option.some.inj hv]
      exact_mod_cast (by omega : -(size (s.bits.toNat % 2 ^ 31) : ℤ) ≤ 0)

/-- **A score is positive if it is a number above zero.** What is no number, or has its sign bit
set, is not. -/
theorem isPositive_iff : s.isPositive = true ↔ s.Exceeds .zero := by
  have hzero : zero.value? = some 0 := by decide
  constructor
  · intro h
    have hunsigned := isUnsigned_of_isPositive h
    rw [exceeds_iff hunsigned isUnsigned_zero, rank_of_isUnsigned hunsigned,
      rank_of_isUnsigned isUnsigned_zero, Int.ofNat_lt]
    rw [isPositive, Bool.and_eq_true, decide_eq_true_eq, UInt32.lt_iff_toNat_lt] at h
    exact h.1
  · rintro ⟨v, w, hv, hw, hlt⟩
    obtain rfl := Option.some.inj (hzero.symm.trans hw)
    -- with a sign bit it would not be above zero
    have hnosign : s.bits.toNat < 2 ^ 31 := by
      by_contra hsign
      exact absurd (value?_le_zero (Nat.le_of_not_lt hsign) v hv) (not_le_of_gt hlt)
    -- above the bits of infinity there are no numbers
    have hnumber : s.IsUnsigned := by
      unfold IsUnsigned
      by_contra hnone
      rw [value?, Nat.mod_eq_of_lt hnosign, if_pos (Nat.lt_of_not_le hnone)] at hv
      contradiction
    -- it is a number without a sign bit, so its rank is above that of zero
    have hrank := (exceeds_iff hnumber isUnsigned_zero).mp ⟨v, 0, hv, hzero, hlt⟩
    rw [rank_of_isUnsigned hnumber, rank_of_isUnsigned isUnsigned_zero, Int.ofNat_lt] at hrank
    rw [isPositive, Bool.and_eq_true, decide_eq_true_eq, decide_eq_true_eq]
    exact ⟨UInt32.lt_iff_toNat_lt.mpr hrank, UInt32.le_iff_toNat_le.mpr hnumber⟩

end WikiSearch.Fallback.Score
