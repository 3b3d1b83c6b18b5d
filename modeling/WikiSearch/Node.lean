import WikiSearch.Keyword.Value
import WikiSearch.Occur
import WikiSearch.Token

/-!
# WikiSearch — the tree of a query

A query is a tree of nodes. Reading a query gives a flat group of clauses, each of
which holds a word, a phrase or a directive; groups may also be put together by
hand, to any depth.
-/

namespace WikiSearch

/-- A node with the way in which it takes part. -/
structure Clause (ν : Type) where
  occur : Occur
  explicit : Bool
  node : ν
  span : Span
deriving Repr, DecidableEq, Inhabited

/-- A keyword directive that was recognized. -/
structure Directive extends Argument where
  parsed : KeywordValue
  negated : Bool
deriving Repr, DecidableEq, Inhabited

/-- A node of the tree. -/
inductive Node where
  | word (text : String) (span : Span)
  | phrase (phrase : Phrase) (span : Span)
  /-- A keyword directive; it starts behind its sign. -/
  | directive (directive : Directive) (span : Span)
  | clause (clause : Clause Node)
  | group (clauses : List (Clause Node)) (span : Span)
  | empty
deriving Repr, Inhabited

namespace Node

/-- Where the node was written. A blank query stands at its own start. -/
def span : Node → Span
  | word _ s => s
  | phrase _ s => s
  | directive _ s => s
  | clause c => c.span
  | group _ s => s
  | empty => .origin

end Node

end WikiSearch
