/-!
# WikiSearch — numbers in text

Numbers are written with the digits `0` to `9` alone: no sign, no separator, and
no digit of another script. What is stored is a 64-bit number, so a number of
`2^64` or more is no number here.
-/

namespace WikiSearch.Text

/-- Whether a character is one of the digits `0` to `9`. -/
def isDigit (c : Char) : Bool := '0' ≤ c && c ≤ '9'

/-- The number that a run of digits stands for. -/
def digitsValue (digits : List Char) : Nat :=
  digits.foldl (fun n d => 10 * n + (d.toNat - '0'.toNat)) 0

/-- The largest number that can be stored. -/
def maxStored : Nat := UInt64.size - 1

/-- The number that a text stands for, if it is a run of digits that can be stored. -/
def stored? (cs : List Char) : Option Nat :=
  if cs ≠ [] ∧ cs.all isDigit ∧ digitsValue cs ≤ maxStored then some (digitsValue cs) else none

/-! ## The digits of a number -/

/-- The digits of a number are read as that number. -/
theorem toDigits_spec (n : Nat) : Nat.toDigits 10 n ≠ [] ∧
    (∀ c ∈ Nat.toDigits 10 n, isDigit c = true) ∧ digitsValue (Nat.toDigits 10 n) = n := by
  refine ⟨Nat.toDigits_ne_nil, fun c hc => ?_, ?_⟩
  · have hdigit := Nat.isDigit_of_mem_toDigits (by decide) (by decide) hc
    rw [isDigit, Bool.and_eq_true, decide_eq_true_eq, decide_eq_true_eq]
    exact Char.isDigit_iff_toNat.mp hdigit
  · rw [digitsValue, ← Nat.ofDigitChars_eq_foldl,
      Nat.ofDigitChars_toDigits (by decide) (by decide)]

/-- A number has at least one digit. -/
theorem exists_toDigits_eq_cons (n : Nat) :
    ∃ c cs, Nat.toDigits 10 n = c :: cs ∧ isDigit c = true := by
  obtain ⟨hne, hdigits, -⟩ := toDigits_spec n
  obtain ⟨c, cs, hall⟩ := List.exists_cons_of_ne_nil hne
  have hmem : c ∈ Nat.toDigits 10 n := by
    rw [hall]
    exact List.mem_cons_self ..
  exact ⟨c, cs, hall, hdigits c hmem⟩

/-- No zero stands in front of a number. -/
theorem head?_toDigits_ne {n : Nat} (h : 0 < n) : (Nat.toDigits 10 n).head? ≠ some '0' := by
  -- all digits but the last are those of a tenth of the number
  induction n using Nat.strongRecOn with
  | ind n ih =>
    rw [Nat.toDigits_eq_if (by decide)]
    split
    case isTrue hlt =>
      have hdigit : ∀ d < 10, 0 < d → [d.digitChar].head? ≠ some '0' := by decide
      exact hdigit n hlt h
    case isFalse hge =>
      have htenth := ih (n / 10) (by omega) (by omega)
      obtain ⟨d, ds, hdigits⟩ := List.exists_cons_of_ne_nil (Nat.toDigits_ne_nil (n := n / 10))
      rw [hdigits] at htenth ⊢
      exact htenth

/-- No number but zero starts with a zero. -/
theorem toDigits_ne_zero_cons (n : Nat) (c : Char) (cs : List Char) :
    Nat.toDigits 10 n ≠ '0' :: c :: cs := by
  intro hdigits
  rcases Nat.eq_zero_or_pos n with rfl | hpos
  · exact absurd hdigits (by simp)
  · exact head?_toDigits_ne hpos (by rw [hdigits, List.head?_cons])

end WikiSearch.Text
