import WikiSearch.Filter
import WikiSearch.Json
import WikiSearch.Query.Compiled

/-!
# WikiSearch — filters as JSON

Bounds that are open and lists that are empty are left out of a filter.
-/

namespace WikiSearch

/-- A field of an object that is left out if its list is empty. -/
def Json.listField (name : String) (items : List Json) : List (String × Json) :=
  if items.isEmpty then [] else [(name, .array items)]

/-- A field of an object that is left out if its number is absent. -/
def Json.boundField (name : String) (bound : Option Nat) : List (String × Json) :=
  match bound with
  | some n => [(name, .number n)]
  | none => []

namespace Filter

mutual

/-- The filter as a document. -/
def toJson : Filter → Json
  | matchAll => .object [("type", .text "match_all")]
  | matchNone => .object [("type", .text "match_none")]
  | ids values => .object [("type", .text "ids"), ("values", .numbers values)]
  | term field value =>
    .object [("type", .text "term"), ("field", .text field), ("value", .text value)]
  | terms field values =>
    .object [("type", .text "terms"), ("field", .text field), ("values", .texts values)]
  | range field low high =>
    .object ([("type", .text "range"), ("field", .text field)] ++ Json.boundField "gte" low
      ++ Json.boundField "lte" high)
  | bool must should mustNot =>
    .object ([("type", .text "bool")] ++ Json.listField "must" (allToJson must)
      ++ Json.listField "should" (allToJson should)
      ++ Json.listField "must_not" (allToJson mustNot))

/-- Some filters as documents. -/
def allToJson : List Filter → List Json
  | [] => []
  | f :: fs => toJson f :: allToJson fs

end

end Filter

/-- How a clause takes part, as a document. -/
def Occur.toJson (o : Occur) : Json := .text o.name

/-- A text clause as a document. -/
def TextClause.toJson (t : TextClause) : Json :=
  .object [("occur", t.occur.toJson), ("query", .text t.query)]

end WikiSearch
