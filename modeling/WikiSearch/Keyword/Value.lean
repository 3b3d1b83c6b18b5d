import WikiSearch.Text.Quoted

/-!
# WikiSearch — values of keywords

What the feature behind a keyword makes of the text behind the colon.
-/

namespace WikiSearch

/-- A range of numbers of one field, both bounds included. -/
structure NumericRange where
  field : String
  low : Option Nat
  high : Option Nat
deriving Repr, DecidableEq, Inhabited

/-- A value as its keyword understands it. -/
inductive KeywordValue where
  | pageIds (ids : List Nat)
  | categories (names : List String)
  | recommendationFlags (flags : List String)
  | topics (topics : List String)
  | numericRange (range : NumericRange)
  /-- A list of terms, for keywords that are not built in. -/
  | terms (terms : List String)
  /-- A text, for keywords that are not built in. -/
  | text (text : String)
deriving Repr, DecidableEq, Inhabited

namespace KeywordValue

/-- A bound as it is shown: an open one is a star. -/
def bound (b : Option Nat) : String :=
  match b with
  | some n => toString n
  | none => "*"

/-- The value as it is shown to a reader. -/
def describe : KeywordValue → String
  | pageIds ids => "page ids [" ++ ", ".intercalate (ids.map toString) ++ "]"
  | categories names => "categories " ++ Text.quotedList names
  | recommendationFlags flags => "recommendation flags " ++ Text.quotedList flags
  | topics ts => "topics " ++ Text.quotedList ts
  | numericRange r => r.field ++ " in [" ++ bound r.low ++ ", " ++ bound r.high ++ "]"
  | terms ts => "terms " ++ Text.quotedList ts
  | text s => "text " ++ Text.quoted s

end KeywordValue

end WikiSearch
