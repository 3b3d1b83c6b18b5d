/-!
# WikiSearch — filters

A filter restricts the documents that the search backend returns. Keyword
directives compile to filters, which are put together by `anyOf` and `allOf`.
-/

namespace WikiSearch

/-- A restriction on documents. -/
inductive Filter where
  | matchAll
  | matchNone
  | ids (values : List Nat)
  | term (field value : String)
  | terms (field : String) (values : List String)
  /-- The documents whose field is a number within the bounds, both included. -/
  | range (field : String) (low high : Option Nat)
  /-- The documents that satisfy all of `must`, none of `mustNot`, and one of
  `should` if there is one. -/
  | bool (must should mustNot : List Filter)
deriving Repr, Inhabited

namespace Filter

/-- The members of a disjunction; any other filter is a disjunction of itself. -/
def disjuncts : Filter → List Filter
  | bool [] should [] => should
  | f => [f]

/-- The members of a conjunction; any other filter is a conjunction of itself. The
filter that every document satisfies is a conjunction of none. -/
def conjuncts : Filter → List Filter
  | matchAll => []
  | bool must [] [] => must
  | f => [f]

/-- The documents that satisfy one of the filters. Disjunctions among them are
flattened; a single filter stands for itself. -/
def anyOf (filters : List Filter) : Filter :=
  match filters.flatMap disjuncts with
  | [] => matchNone
  | [f] => f
  | fs => bool [] fs []

/-- The documents that satisfy all of the filters. Conjunctions among them are
flattened; a single filter stands for itself. -/
def allOf (filters : List Filter) : Filter :=
  match filters.flatMap conjuncts with
  | [] => matchAll
  | [f] => f
  | fs => bool fs [] []

end Filter

end WikiSearch
