/-!
# WikiSearch — how a clause takes part

A clause of a query must match, must not match, or should match.
-/

namespace WikiSearch

/-- How a clause takes part in matching. -/
inductive Occur where
  | must
  | mustNot
  | should
deriving Repr, DecidableEq, Inhabited

namespace Occur

/-- The name shown to a reader. -/
def name : Occur → String
  | must => "MUST"
  | mustNot => "MUST_NOT"
  | should => "SHOULD"

/-- The sign in front of a clause of a backend query string. -/
def mark : Occur → String
  | must => "+"
  | mustNot => "-"
  | should => ""

/-- How a clause takes part that stands inside another one: two exclusions cancel,
one exclusion excludes, and otherwise the weaker of the two holds. -/
def within : Occur → Occur → Occur
  | mustNot, mustNot => must
  | mustNot, _ => mustNot
  | _, mustNot => mustNot
  | should, _ => should
  | _, should => should
  | must, must => must

/-- A clause at the top of a query takes part as it is written. -/
@[simp]
theorem must_within (o : Occur) : must.within o = o := by cases o <;> rfl

end Occur

end WikiSearch
