import WikiSearch.Node

/-!
# WikiSearch — a query as an outline

The tree of a query is shown as an outline: a line for each node and each clause,
two for a directive, indented by two spaces per level. Texts stand in quotes; a
directive shows its value as it was typed.
-/

namespace WikiSearch

/-- A line of an outline. -/
structure Line where
  level : Nat
  text : String
deriving Repr, DecidableEq

/-- The line with its indentation and its end. -/
def Line.render (l : Line) : String :=
  String.ofList (List.replicate (2 * l.level) ' ') ++ l.text ++ "\n"

/-- The text if the condition holds. -/
def showIf (condition : Bool) (text : String) : String := if condition then text else ""

/-- A span at the end of a line. -/
def Span.text (s : Span) : String := " [" ++ toString s.start ++ ".." ++ toString s.stop ++ "]"

/-- A phrase with its marks. -/
def Phrase.outline (p : Phrase) : String :=
  let slop := match p.slop with
    | some n => " ~" ++ toString n
    | none => ""
  "Phrase(" ++ Text.quoted p.text ++ slop ++ showIf p.stemmed " stemmed"
    ++ showIf (!p.terminated) " unterminated" ++ ")"

/-- A directive with its value as typed. -/
def Directive.outline (d : Directive) : String :=
  "Keyword(" ++ d.key ++ ":" ++ d.quotedValue ++ showIf d.negated " negated" ++ ")"

namespace Node

mutual

/-- The lines of a node from a level on. -/
def outline (level : Nat) : Node → List Line
  | word text s => [⟨level, "Word(" ++ Text.quoted text ++ ")" ++ s.text⟩]
  | phrase p s => [⟨level, p.outline ++ s.text⟩]
  | directive d s => [⟨level, d.outline ++ s.text⟩, ⟨level + 1, d.parsed.describe⟩]
  | clause c => clauseOutline level c
  | group cs s => ⟨level, "Group" ++ s.text⟩ :: clausesOutline (level + 1) cs
  | empty => [⟨level, "Empty"⟩]

/-- The lines of a clause from a level on. -/
def clauseOutline (level : Nat) : Clause Node → List Line
  | ⟨occur, explicit, node, _⟩ =>
    ⟨level, occur.name ++ showIf explicit " explicit"⟩ :: outline (level + 1) node

/-- The lines of some clauses from a level on. -/
def clausesOutline (level : Nat) : List (Clause Node) → List Line
  | [] => []
  | c :: cs => clauseOutline level c ++ clausesOutline level cs

end

/-- The outline of a tree. -/
def text (n : Node) : String := "".intercalate ((n.outline 0).map Line.render)

end Node

end WikiSearch
