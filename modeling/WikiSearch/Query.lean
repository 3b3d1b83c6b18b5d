import WikiSearch.Limit
import WikiSearch.Node

/-!
# WikiSearch — queries

What is known of a query once it has been read: its clauses, and the warnings that
came up.
-/

namespace WikiSearch

/-- A query that was read. -/
structure Query where
  text : String
  clauses : List (Clause Node)
  warnings : List Warning
deriving Repr

namespace Query

/-- The stretch from the first clause to the last. -/
def clausesSpan (clauses : List (Clause Node)) : Span :=
  ⟨(clauses.head?.map (·.span.start)).getD 0, (clauses.getLast?.map (·.span.stop)).getD 0⟩

/-- The tree of the query: a group of its clauses, or the empty node. -/
def root (q : Query) : Node :=
  if q.clauses.isEmpty then .empty else .group q.clauses (clausesSpan q.clauses)

/-- Whether the query is blank. A blank query matches everything. -/
def isEmpty (q : Query) : Bool := q.clauses.isEmpty

/-- The keyword directives of the query, in order. -/
def directives (q : Query) : List Directive :=
  q.clauses.filterMap fun c =>
    match c.node with
    | .directive d _ => some d
    | _ => none

/-- The text that a node adds to the free text of a query; a phrase stands in quotes. -/
def nodeText? : Node → Option String
  | .word text _ => if text = "" then none else some text
  | .phrase p _ => if p.text = "" then none else some ("\"" ++ p.text ++ "\"")
  | _ => none

/-- The words and phrases of the query that are not excluded. -/
def freeText (q : Query) : String :=
  " ".intercalate ((q.clauses.filter (·.occur ≠ .mustNot)).filterMap (nodeText? ·.node))

/-- Whether the query has text for which a correction could be suggested. -/
def hasCandidateTerms (q : Query) : Bool := q.freeText ≠ ""

end Query

end WikiSearch
