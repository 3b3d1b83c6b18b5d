import WikiSearch.Proofs.Filter.Range

/-!
# WikiSearch — what is made of the value of a file property

`filesize:` and its likes accept six forms of a value, which lie close together: a comma in the
wrong place, a sign, a digit of another script or one digit too many turns a range into plain text.
What becomes of a value is said here by the grammar alone (`FileReading`): bounds in the units that
they are held in and no report, or no bounds and one report. Every value is read in exactly one of
the two ways.

That the reader keeps to the grammar has been shown for the bounds as they are written
(`bounds?_eq_some_iff`); what is added here are the keyword, which decides about units and about a
number that stands alone, and the report.

Main results:

* `writtenBounds_pairText` — bounds that are written as a pair.
* `read_fileProperty_iff` — the outcome for every value, and that bounds come back.
-/

namespace WikiSearch

open Text

/-- Whether a number that stands alone is a lower bound, and bounds are numbers of kilobytes. -/
def isSizeKey (key : String) : Bool := foldName key = "filesize"

/-- What a bound of a keyword is held as: sizes in bytes, as many as can be stored. -/
def heldAs (key : String) (n : Nat) : Nat :=
  if isSizeKey key then min (1024 * n) (2 ^ 64 - 1) else n

/-- What becomes of a value of a file property. -/
inductive FileReading (arg : Argument) : Option KeywordValue × List Warning → Prop where
  | range {field : String} {low high : Option Nat} : fileField? arg.key = some field →
      WrittenBounds (isSizeKey arg.key) arg.value.toList (low, high) →
      FileReading arg
        (some (.numericRange ⟨field, low.map (heldAs arg.key), high.map (heldAs arg.key)⟩), [])
  | refused : (∀ bounds, ¬ WrittenBounds (isSizeKey arg.key) arg.value.toList bounds) →
      FileReading arg (none, [⟨"file-numeric-feature-not-a-number", [arg.key, arg.value]⟩])

/-! ## The reader and the grammar -/

/-- Sizes are scaled, and nothing else is. -/
theorem scale_eq_heldAs {key field : String}
    (hsize : field = "file_size" ↔ foldName key = "filesize") :
    (if field = "file_size" then kilobytes else id) = heldAs key := by
  funext n
  -- the field and the keyword tell sizes apart from other numbers alike
  by_cases hkey : foldName key = "filesize"
  · rw [if_pos (hsize.mpr hkey), heldAs, isSizeKey, decide_eq_true hkey, if_pos rfl]
    rfl
  · rw [if_neg (mt hsize.mp hkey), heldAs, isSizeKey, decide_eq_false hkey]
    rfl

/-- The outcome of reading a value, by the bounds that are written in it. -/
theorem read_fileProperty_eq {arg : Argument} (hkey : foldName arg.key ∈ filePropertyKeywords) :
    ∃ field, fileField? arg.key = some field ∧
      Feature.fileProperty.read arg =
        match bounds? (isSizeKey arg.key) arg.value.toList with
        | some (low, high) =>
          (some (.numericRange ⟨field, low.map (heldAs arg.key), high.map (heldAs arg.key)⟩), [])
        | none => (none, [⟨"file-numeric-feature-not-a-number", [arg.key, arg.value]⟩]) := by
  have hanswers : Builtin.fileProperty.Answers arg.key := hkey
  obtain ⟨field, hfield, hsize⟩ := exists_fileField hanswers
  -- whether one number is a lower bound is decided by the field, which the keyword determines
  have hbare : decide (field = "file_size") = isSizeKey arg.key := decide_eq_decide.mpr hsize
  refine ⟨field, hfield, ?_⟩
  simp only [Feature.fileProperty, hfield, hbare]
  cases bounds? (isSizeKey arg.key) arg.value.toList with
  | none => rfl
  | some bounds => simp only [← scale_eq_heldAs hsize]

/-- Every value is read by the grammar, and in one way only. -/
theorem read_eq_iff_fileReading {arg : Argument} (hkey : foldName arg.key ∈ filePropertyKeywords)
    (outcome : Option KeywordValue × List Warning) :
    Feature.fileProperty.read arg = outcome ↔ FileReading arg outcome := by
  obtain ⟨field, hfield, hread⟩ := read_fileProperty_eq hkey
  rw [hread]
  cases hbounds : bounds? (isSizeKey arg.key) arg.value.toList with
  | some bounds =>
    constructor
    · rintro rfl
      exact .range hfield (bounds?_eq_some_iff.mp hbounds)
    · rintro (⟨hfield', hwritten⟩ | hrefused)
      · -- the field is that of the key, and the bounds are those of the value
        obtain rfl := Option.some.inj (hfield.symm.trans hfield')
        obtain rfl := Option.some.inj (hbounds.symm.trans (bounds?_eq_some_iff.mpr hwritten))
        rfl
      · exact absurd (bounds?_eq_some_iff.mp hbounds) (hrefused bounds)
  | none =>
    constructor
    · rintro rfl
      refine .refused fun bounds hwritten => ?_
      cases hbounds.symm.trans (bounds?_eq_some_iff.mpr hwritten)
    · rintro (⟨-, hwritten⟩ | -)
      · -- what is written would have been read
        cases hbounds.symm.trans (bounds?_eq_some_iff.mpr hwritten)
      · rfl

/-! ## Bounds that are written as a pair -/

/-- A bound as it is written; an open one is left out. -/
def boundText : Option Nat → String
  | some n => toString n
  | none => ""

/-- Two bounds as they are written, the lower one first. -/
def pairText (low high : Option Nat) : String := boundText low ++ "," ++ boundText high

/-- A bound that can be stored is a side of a pair, as it is written. -/
theorem side_boundText {bound : Option Nat} (h : ∀ n ∈ bound, n < 2 ^ 64) :
    Side (boundText bound).toList bound := by
  cases bound with
  | none => exact .leftOut (by simp [IsBlankText, boundText])
  | some n =>
    have hnumber := isNumber_toDigits (n := n) (h n rfl)
    exact .number (by simpa [boundText] using hnumber)

/-- No bound has a comma in it. -/
theorem comma_not_mem_boundText {bound : Option Nat} (h : ∀ n ∈ bound, n < 2 ^ 64) :
    ',' ∉ (boundText bound).toList := by
  cases bound with
  | none => simp [boundText]
  | some n =>
    have hcomma := comma_not_mem_of_isNumber (isNumber_toDigits (n := n) (h n rfl))
    simpa [boundText] using hcomma

/-- **Bounds that are written as a pair** are in the grammar, whichever keyword reads them. -/
theorem writtenBounds_pairText {low high : Option Nat} (hlow : ∀ n ∈ low, n < 2 ^ 64)
    (hhigh : ∀ n ∈ high, n < 2 ^ 64) (hne : low ≠ none ∨ high ≠ none) (bareIsMinimum : Bool) :
    WrittenBounds bareIsMinimum (pairText low high).toList (low, high) := by
  have htext : (pairText low high).toList =
      (boundText low).toList ++ ',' :: (boundText high).toList := by
    simp [pairText]
  rw [htext]
  exact .pair (comma_not_mem_boundText hlow) (side_boundText hlow) (side_boundText hhigh) hne

/-! ## Main result -/

/-- **What is made of the value of a file property.** For every keyword for file properties, in any
case, and every value: the value is read exactly as the grammar says. If it is written as a range,
then there is no report and its bounds are held, sizes in bytes as far as these can be stored; and
otherwise there are no bounds and one report, with the keyword as typed and the value. So any two
bounds that can be stored, of which one may be left out, come back from the text that they are
written as. -/
theorem read_fileProperty_iff (arg : Argument) (hkey : foldName arg.key ∈ filePropertyKeywords) :
    (∀ outcome, Feature.fileProperty.read arg = outcome ↔ FileReading arg outcome) ∧
    ∀ low high : Option Nat, (∀ n ∈ low, n < 2 ^ 64) → (∀ n ∈ high, n < 2 ^ 64) →
      low ≠ none ∨ high ≠ none → arg.value = pairText low high →
        ∃ field, fileField? arg.key = some field ∧
          Feature.fileProperty.read arg = (some (.numericRange
            ⟨field, low.map (heldAs arg.key), high.map (heldAs arg.key)⟩), []) := by
  refine ⟨read_eq_iff_fileReading hkey, ?_⟩
  intro low high hlow hhigh hne hvalue
  have hanswers : Builtin.fileProperty.Answers arg.key := hkey
  obtain ⟨field, hfield, -⟩ := exists_fileField hanswers
  refine ⟨field, hfield, (read_eq_iff_fileReading hkey _).mpr (.range hfield ?_)⟩
  rw [hvalue]
  exact writtenBounds_pairText hlow hhigh hne _

/-- A size of which the bytes cannot be stored as an upper bound, and a number with a sign. -/
theorem read_fileProperty_iff_of_size :
    foldName "FileSize" ∈ filePropertyKeywords ∧
      Feature.fileProperty.read ⟨"FileSize", ",18014398509481984", "", none, ""⟩ =
        (some (.numericRange ⟨"file_size", none, some 18446744073709551615⟩), []) ∧
      FileReading ⟨"FileSize", "+3", "", none, ""⟩
        (none, [⟨"file-numeric-feature-not-a-number", ["FileSize", "+3"]⟩]) := by
  have hkey : foldName "FileSize" ∈ filePropertyKeywords := by decide
  obtain ⟨-, hpairs⟩ := read_fileProperty_iff
    ⟨"FileSize", ",18014398509481984", "", none, ""⟩ hkey
  obtain ⟨hreads, -⟩ := read_fileProperty_iff ⟨"FileSize", "+3", "", none, ""⟩ hkey
  obtain ⟨field, hfield, hread⟩ := hpairs none (some 18014398509481984) (by simp) (by simp)
    (.inr (by simp)) (by decide +kernel)
  obtain rfl : "file_size" = field := Option.some.inj hfield
  exact ⟨hkey, hread, (hreads _).mp (by decide +kernel)⟩

end WikiSearch
