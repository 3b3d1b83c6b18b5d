import WikiSearch.Keyword.FileProperty
import WikiSearch.Proofs.Keyword.Entries
import WikiSearch.Proofs.Token.Rules

/-!
# WikiSearch — how ranges of file properties are written

The values of `filesize:` and its likes, as a grammar that knows nothing of how they are read:
numbers with blanks around them (`IsNumber`), sides of a pair that may be left out (`Side`), and
the four forms of a range (`WrittenBounds`). Reading accepts exactly what the grammar derives,
and gives the bounds that it says, so no text has two readings.

Main results:

* `bareNumber?_eq_some_iff`, `side?_eq_some_iff` — numbers and sides.
* `bounds?_eq_some_iff` — ranges.
-/

namespace WikiSearch

open Text

/-! ## The grammar -/

/-- A number that can be stored, with blanks around its digits. -/
inductive IsNumber : List Char → Nat → Prop where
  | digits {front digits back : List Char} : IsBlankText front → IsBlankText back →
      digits ≠ [] → (∀ c ∈ digits, isDigit c = true) → digitsValue digits < UInt64.size →
      IsNumber (front ++ digits ++ back) (digitsValue digits)

/-- One side of a pair. -/
inductive Side : List Char → Option Nat → Prop where
  | leftOut {cs : List Char} : IsBlankText cs → Side cs none
  | number {cs : List Char} {n : Nat} : IsNumber cs n → Side cs (some n)

/-- A range, and the bounds that it stands for. -/
inductive WrittenBounds (bareIsMinimum : Bool) : List Char → Bounds → Prop where
  /-- The first comma parts the sides. -/
  | pair {a b : List Char} {low high : Option Nat} : ',' ∉ a → Side a low → Side b high →
      low ≠ none ∨ high ≠ none → WrittenBounds bareIsMinimum (a ++ ',' :: b) (low, high)
  | atLeast {cs : List Char} {n : Nat} : IsNumber cs n →
      WrittenBounds bareIsMinimum ('>' :: cs) (some n, none)
  | atMost {cs : List Char} {n : Nat} : IsNumber cs n →
      WrittenBounds bareIsMinimum ('<' :: cs) (none, some n)
  | bare {cs : List Char} {n : Nat} : IsNumber cs n →
      WrittenBounds bareIsMinimum cs (some n, if bareIsMinimum then none else some n)

/-! ## Numbers and sides -/

/-- What is stored is a run of digits, up to the largest number that fits. -/
theorem stored?_eq_some_iff {cs : List Char} {n : Nat} :
    stored? cs = some n ↔
      cs ≠ [] ∧ (∀ c ∈ cs, isDigit c = true) ∧ digitsValue cs < UInt64.size ∧
        digitsValue cs = n := by
  have hmax : digitsValue cs ≤ maxStored ↔ digitsValue cs < UInt64.size := by
    have hsize : 0 < UInt64.size := by decide
    rw [maxStored]
    omega
  rw [stored?, Option.ite_none_right_eq_some, Option.some.injEq, List.all_eq_true, hmax]
  simp only [and_assoc]

/-- Digits are no blanks. -/
theorem isTrimmed_of_digits {cs : List Char} (h : ∀ c ∈ cs, isDigit c = true) : IsTrimmed cs := by
  constructor
  · intro c hc
    exact isBlank_of_isDigit (h c (List.mem_of_mem_head? hc))
  · intro c hc
    exact isBlank_of_isDigit (h c (List.mem_of_mem_getLast? hc))

/-- Reading a number accepts exactly what the grammar calls one. -/
theorem bareNumber?_eq_some_iff {cs : List Char} {n : Nat} :
    bareNumber? cs = some n ↔ IsNumber cs n := by
  rw [bareNumber?, stored?_eq_some_iff]
  constructor
  · -- what is trimmed off are blanks
    rintro ⟨hne, hdigits, hstored, rfl⟩
    obtain ⟨front, back, hfront, hback, -, hcs⟩ := exists_blanks_trimChars cs
    have hnumber := IsNumber.digits hfront hback hne hdigits hstored
    rwa [← hcs] at hnumber
  · rintro ⟨hfront, hback, hne, hdigits, hstored⟩
    rw [trimChars_of_blanks hfront hback (isTrimmed_of_digits hdigits) hne]
    exact ⟨hne, hdigits, hstored, rfl⟩

/-- A number is written with its digits. -/
theorem isNumber_toDigits {n : Nat} (h : n < UInt64.size) : IsNumber (Nat.toDigits 10 n) n := by
  obtain ⟨hne, hdigits, hvalue⟩ := toDigits_spec n
  have hblank : IsBlankText [] := by simp [IsBlankText]
  have hnumber := IsNumber.digits hblank hblank hne hdigits (by rwa [hvalue])
  rwa [List.append_nil, List.nil_append, hvalue] at hnumber

/-- A number has a digit. -/
theorem not_isBlankText_of_isNumber {cs : List Char} {n : Nat} (h : IsNumber cs n) :
    ¬ IsBlankText cs := by
  intro hblank
  have hread := bareNumber?_eq_some_iff.mpr h
  rw [bareNumber?, trimChars_eq_nil_iff.mpr hblank] at hread
  contradiction

/-- Reading a side of a pair accepts exactly what the grammar calls one. -/
theorem side?_eq_some_iff {cs : List Char} {bound : Option Nat} :
    side? cs = some bound ↔ Side cs bound := by
  -- a side of blanks is left out, and no such side is a number
  by_cases hblank : IsBlankText cs
  · rw [side?, if_pos (trimChars_eq_nil_iff.mpr hblank), Option.some.injEq]
    constructor
    · rintro rfl
      exact .leftOut hblank
    · rintro (_ | hnumber)
      · rfl
      · exact absurd hblank (not_isBlankText_of_isNumber hnumber)
  · rw [side?, if_neg (mt trimChars_eq_nil_iff.mp hblank), Option.map_eq_some_iff]
    constructor
    · rintro ⟨n, hread, rfl⟩
      exact .number (bareNumber?_eq_some_iff.mp hread)
    · rintro (hleft | hnumber)
      · exact absurd hleft hblank
      · exact ⟨_, bareNumber?_eq_some_iff.mpr hnumber, rfl⟩

/-! ## Ranges -/

/-- A number holds no comma. -/
theorem comma_not_mem_of_isNumber {cs : List Char} {n : Nat} (h : IsNumber cs n) : ',' ∉ cs := by
  obtain ⟨hfront, hback, -, hdigits, -⟩ := h
  -- a comma is neither a blank nor a digit
  simp only [List.mem_append, not_or]
  refine ⟨⟨?_, ?_⟩, ?_⟩
  · intro hmem
    exact absurd (hfront _ hmem) (by decide)
  · intro hmem
    exact absurd (hdigits _ hmem) (by decide)
  · intro hmem
    exact absurd (hback _ hmem) (by decide)

/-- A number starts with a blank or a digit. -/
theorem head_of_isNumber {c : Char} {cs : List Char} {n : Nat} (h : IsNumber (c :: cs) n) :
    isBlank c = true ∨ isDigit c = true := by
  generalize hall : c :: cs = all at h
  obtain ⟨hfront, -, hne, hdigits, -⟩ := h
  rename_i front digits back
  -- the blanks in front come first, if there are any
  cases front with
  | cons d front =>
    obtain ⟨rfl, -⟩ := List.cons.inj hall
    exact .inl (hfront c (List.mem_cons_self ..))
  | nil =>
    obtain ⟨d, ds, rfl⟩ := List.exists_cons_of_ne_nil hne
    obtain ⟨rfl, -⟩ := List.cons.inj hall
    exact .inr (hdigits c (List.mem_cons_self ..))

/-- Reading a pair accepts two sides of which one is not left out. -/
theorem pairBounds?_eq_some_iff {a b : List Char} {low high : Option Nat} :
    pairBounds? a b = some (low, high) ↔
      Side a low ∧ Side b high ∧ (low ≠ none ∨ high ≠ none) := by
  simp only [pairBounds?, bind, Option.bind_eq_some_iff, ← side?_eq_some_iff]
  constructor
  · rintro ⟨low', hlow, high', hhigh, hboth⟩
    rw [Option.ite_none_left_eq_some, Option.some.injEq, Prod.mk.injEq] at hboth
    obtain ⟨hne, rfl, rfl⟩ := hboth
    exact ⟨hlow, hhigh, not_and_or.mp hne⟩
  · rintro ⟨hlow, hhigh, hne⟩
    exact ⟨low, hlow, high, hhigh, if_neg (not_and_or.mpr hne)⟩

section Bounds

variable {bareIsMinimum : Bool} {cs : List Char}

/-- What holds a comma is read as a pair, parted by the first one. -/
theorem bounds?_of_comma {a : List Char} (ha : ',' ∉ a) (b : List Char) :
    bounds? bareIsMinimum (a ++ ',' :: b) = pairBounds? a b := by
  have hall : ∀ c ∈ a, decide (c ≠ ',') = true := by
    intro c hc
    rw [decide_eq_true_eq]
    rintro rfl
    exact ha hc
  have hmem : ',' ∈ a ++ ',' :: b := List.mem_append_right a (List.mem_cons_self ..)
  unfold bounds?
  rw [if_pos hmem, List.takeWhile_append_of_pos hall, List.dropWhile_append_of_pos hall]
  simp

/-- What holds no comma is read by its first character. -/
theorem bounds?_of_no_comma (cs : List Char) :
    ',' ∉ cs → bounds? bareIsMinimum cs = match cs with
      | '>' :: rest => (bareNumber? rest).map fun n => (some n, none)
      | '<' :: rest => (bareNumber? rest).map fun n => (none, some n)
      | cs => (bareNumber? cs).map fun n => (some n, if bareIsMinimum then none else some n) := by
  intro h
  exact if_neg h

/-- A number by itself is read as such, since it holds no comma and starts with no angle bracket. -/
theorem bounds?_of_isNumber {n : Nat} (h : IsNumber cs n) :
    bounds? bareIsMinimum cs = some (some n, if bareIsMinimum then none else some n) := by
  rw [bounds?_of_no_comma _ (comma_not_mem_of_isNumber h)]
  split
  · -- a number does not start with an angle bracket
    exact absurd (head_of_isNumber h) (by decide)
  · exact absurd (head_of_isNumber h) (by decide)
  · rw [bareNumber?_eq_some_iff.mpr h]
    rfl

/-- **Reading accepts exactly what is written by the grammar**, and gives its bounds. -/
theorem bounds?_eq_some_iff {bounds : Bounds} :
    bounds? bareIsMinimum cs = some bounds ↔ WrittenBounds bareIsMinimum cs bounds := by
  constructor
  · intro hread
    -- a comma decides whether it is a pair, and then the first character what else it is
    by_cases hcomma : ',' ∈ cs
    · obtain ⟨a, b, rfl, ha⟩ := List.eq_append_cons_of_mem hcomma
      rw [bounds?_of_comma ha] at hread
      obtain ⟨hlow, hhigh, hne⟩ := pairBounds?_eq_some_iff.mp hread
      exact .pair ha hlow hhigh hne
    · rw [bounds?_of_no_comma _ hcomma] at hread
      split at hread
      · obtain ⟨n, hn, rfl⟩ := Option.map_eq_some_iff.mp hread
        exact .atLeast (bareNumber?_eq_some_iff.mp hn)
      · obtain ⟨n, hn, rfl⟩ := Option.map_eq_some_iff.mp hread
        exact .atMost (bareNumber?_eq_some_iff.mp hn)
      · obtain ⟨n, hn, rfl⟩ := Option.map_eq_some_iff.mp hread
        exact .bare (bareNumber?_eq_some_iff.mp hn)
  · intro hwritten
    cases hwritten with
    -- the readings do not compete: a number holds no comma
    | pair ha hlow hhigh hne =>
      rw [bounds?_of_comma ha]
      exact pairBounds?_eq_some_iff.mpr ⟨hlow, hhigh, hne⟩
    | atLeast hnumber =>
      have hcomma := comma_not_mem_of_isNumber hnumber
      rw [bounds?_of_no_comma _ (by simpa using hcomma)]
      simp only [bareNumber?_eq_some_iff.mpr hnumber, Option.map_some]
    | atMost hnumber =>
      have hcomma := comma_not_mem_of_isNumber hnumber
      rw [bounds?_of_no_comma _ (by simpa using hcomma)]
      simp only [bareNumber?_eq_some_iff.mpr hnumber, Option.map_some]
    | bare hnumber => exact bounds?_of_isNumber hnumber

end Bounds

end WikiSearch
