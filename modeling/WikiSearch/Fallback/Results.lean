/-!
# WikiSearch — search results

What a search gives back, and the marks that show that it has been revised: a
suggestion for another query, or another query that was run in its place.
-/

namespace WikiSearch.Fallback

/-- A single-precision number, held by its bits. -/
structure Score where
  bits : UInt32
deriving Repr, DecidableEq, Inhabited

namespace Score

/-- Zero. -/
def zero : Score := ⟨0⟩

/-- Whether the number is greater than zero. That holds from the least number above
zero up to infinity; what lies beyond is not a number, or has the sign bit set. -/
def isPositive (s : Score) : Bool := 0 < s.bits && s.bits ≤ 0x7F800000

/-- A whole number that orders scores as they order by size; of the numbers with
their sign bit set, the greater bits are the smaller number. -/
def rank (s : Score) : Int :=
  if s.bits < 0x80000000 then s.bits.toNat else 0x7FFFFFFF - (s.bits.toNat : Int)

end Score

/-- A query that may be better than the one typed. -/
structure Suggestion where
  text : String
  snippet : String
deriving Repr, DecidableEq, Inhabited

/-- A page that was found. -/
structure Entry where
  pageId : Nat
  title : String
  score : Score
deriving Repr, DecidableEq, Inhabited

/-- What a search gives back. -/
structure Results where
  totalHits : Nat := 0
  entries : List Entry := []
  phraseSuggestion : Option Suggestion := none
  suggestionQuery : Option String := none
  suggestionSnippet : Option String := none
  /-- The query that was run in place of the one typed. -/
  replacementQuery : Option String := none
  replacementSnippet : Option String := none
deriving Repr, DecidableEq, Inhabited

namespace Results

/-- Whether there is a query to suggest. -/
def hasSuggestion (r : Results) : Bool := r.suggestionQuery.isSome

/-- Whether another query was run in place of the one typed. -/
def hasReplacement (r : Results) : Bool := r.replacementQuery.isSome

/-- Whether the results were revised. -/
def isRevised (r : Results) : Bool := r.hasSuggestion || r.hasReplacement

/-- Results are as the backend gave them if they have neither a query to suggest nor one in place of
the query. -/
theorem isRevised_eq_false_iff {r : Results} :
    r.isRevised = false ↔ r.suggestionQuery = none ∧ r.replacementQuery = none := by
  rw [isRevised, Bool.or_eq_false_iff, hasSuggestion, hasReplacement, Option.isSome_eq_false_iff,
    Option.isSome_eq_false_iff, Option.isNone_iff_eq_none, Option.isNone_iff_eq_none]

/-- The results with a query to suggest. -/
def suggesting (r : Results) (s : Suggestion) : Results :=
  { r with suggestionQuery := some s.text, suggestionSnippet := some s.snippet }

/-- The results of a query that was run in place of the one typed. -/
def replacing (r : Results) (s : Suggestion) : Results :=
  { r with replacementQuery := some s.text, replacementSnippet := some s.snippet }

end Results

end WikiSearch.Fallback
