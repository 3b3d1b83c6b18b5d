import WikiSearch.Keyword.Feature
import WikiSearch.Text.Blank
import WikiSearch.Text.Numeral

/-!
# WikiSearch — properties of files

`filesize:`, `filebits:`, `fileh:`, `filew:` and `fileres:` restrict a query to
files whose property lies in a range. A value is one of

* `N`: exactly `N`; for the size, at least `N`,
* `>N`: at least `N`,
* `<N`: at most `N`,
* `N,M`: from `N` to `M`, where one of the two may be left out.

Sizes are written in kilobytes and held in bytes. Anything else is reported, and
the directive is plain text.
-/

namespace WikiSearch

/-- The keywords for properties of files. -/
def filePropertyKeywords : List String :=
  ["filesize", "filebits", "fileh", "fileheight", "filew", "filewidth", "fileres"]

/-- The backend field that a keyword restricts. -/
def fileField? (key : String) : Option String :=
  match Text.foldName key with
  | "filesize" => some "file_size"
  | "filebits" => some "file_bits"
  | "fileh" | "fileheight" => some "file_height"
  | "filew" | "filewidth" => some "file_width"
  | "fileres" => some "file_resolution"
  | _ => none

/-- The lower and the upper bound of a range. -/
abbrev Bounds := Option Nat × Option Nat

/-- A number, with blanks around it. -/
def bareNumber? (cs : List Char) : Option Nat := Text.stored? (Text.trimChars cs)

/-- One side of a pair: left out if it is blank, else a number. -/
def side? (cs : List Char) : Option (Option Nat) :=
  if Text.trimChars cs = [] then some none else (bareNumber? cs).map some

/-- Bounds written as a pair, of which one side may be left out. -/
def pairBounds? (low high : List Char) : Option Bounds := do
  let low ← side? low
  let high ← side? high
  if low = none ∧ high = none then none else some (low, high)

/-- The bounds that a value stands for. A bare number is a lower bound if
`bareIsMinimum` says so, and both bounds otherwise. -/
def bounds? (bareIsMinimum : Bool) (cs : List Char) : Option Bounds :=
  if ',' ∈ cs then pairBounds? (cs.takeWhile (· ≠ ',')) ((cs.dropWhile (· ≠ ',')).drop 1)
  else match cs with
    | '>' :: rest => (bareNumber? rest).map fun n => (some n, none)
    | '<' :: rest => (bareNumber? rest).map fun n => (none, some n)
    | cs => (bareNumber? cs).map fun n => (some n, if bareIsMinimum then none else some n)

/-- A number of kilobytes in bytes, as far as that can be stored. -/
def kilobytes (n : Nat) : Nat := min (1024 * n) Text.maxStored

/-- Whether two bounds leave no number between them. -/
def inverted : Option Nat → Option Nat → Bool
  | some low, some high => low > high
  | _, _ => false

namespace Feature

/-- Ranges of file properties. -/
def fileProperty : Feature where
  name := "file numeric"
  keywords := filePropertyKeywords
  acceptsQuoted := false
  read arg :=
    match fileField? arg.key with
    -- only keywords of this feature come here
    | none => (none, [])
    | some field =>
      let isSize := field = "file_size"
      match bounds? isSize arg.value.toList with
      | none => (none, [⟨Warning.notANumber, [arg.key, arg.value]⟩])
      | some (low, high) =>
        let scale := if isSize then kilobytes else id
        (some (.numericRange ⟨field, low.map scale, high.map scale⟩), [])
  filter? _ value :=
    match value with
    | .numericRange r => if inverted r.low r.high then none else some (.range r.field r.low r.high)
    | _ => none

end Feature

end WikiSearch
