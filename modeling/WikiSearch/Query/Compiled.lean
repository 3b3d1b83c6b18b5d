import WikiSearch.Escape
import WikiSearch.Keyword.Registry
import WikiSearch.Query
import WikiSearch.Query.Options

/-!
# WikiSearch — compiled queries

For the search backend a query is split in two: its words and phrases become text
clauses in the syntax of the backend, and its directives become one filter.
-/

namespace WikiSearch

/-- A text clause in the syntax of the backend. -/
structure TextClause where
  occur : Occur
  query : String
deriving Repr, DecidableEq, Inhabited

/-- A query that is ready for the backend. -/
structure Compiled where
  textClauses : List TextClause
  filter : Filter
  /-- Whether anything can match: false if one of the directives can match nothing. -/
  resultsPossible : Bool
deriving Repr, Inhabited

namespace Compiled

/-- The text clauses as one query string. -/
def queryString (c : Compiled) : String :=
  " ".intercalate (c.textClauses.map fun t => t.occur.mark ++ t.query)

end Compiled

/-- What some clauses add to a compiled query. -/
structure Parts where
  text : List TextClause := []
  must : List Filter := []
  mustNot : List Filter := []
  /-- Whether one of the directives can match nothing. -/
  unsatisfiable : Bool := false
deriving Repr, Inhabited

namespace Parts

/-- What two stretches of a query add together. -/
def append (a b : Parts) : Parts :=
  ⟨a.text ++ b.text, a.must ++ b.must, a.mustNot ++ b.mustNot, a.unsatisfiable || b.unsatisfiable⟩

instance : Append Parts := ⟨append⟩

section Append

variable (a b c : Parts)

@[simp]
theorem nil_append : ({} : Parts) ++ a = a := by
  cases a
  rfl

@[simp]
theorem append_nil : a ++ ({} : Parts) = a := by
  show append a {} = a
  simp only [append, List.append_nil, Bool.or_false]

theorem append_assoc : a ++ b ++ c = a ++ (b ++ c) := by
  show append (append a b) c = append a (append b c)
  simp only [append, List.append_assoc, Bool.or_assoc]

@[simp]
theorem text_append : (a ++ b).text = a.text ++ b.text := rfl

@[simp]
theorem must_append : (a ++ b).must = a.must ++ b.must := rfl

@[simp]
theorem mustNot_append : (a ++ b).mustNot = a.mustNot ++ b.mustNot := rfl

@[simp]
theorem unsatisfiable_append : (a ++ b).unsatisfiable = (a.unsatisfiable || b.unsatisfiable) := rfl

end Append

/-- The filter of all directives: nothing if one of them can match nothing. -/
def filter (p : Parts) : Filter :=
  -- one directive without a filter decides, whatever the others say
  if p.unsatisfiable then .matchNone
  else if p.mustNot.isEmpty then .allOf p.must
  else .bool p.must [] p.mustNot

/-- A phrase in the syntax of the backend. -/
def phraseText (p : Phrase) : String :=
  let slop := match p.slop with
    | some n => "~" ++ toString n
    | none => ""
  "\"" ++ Escape.phrase p.text ++ "\"" ++ slop

/-- What a directive adds. One whose keyword is not registered adds nothing. -/
def ofDirective (registry : Registry) (strict : Bool) (occur : Occur) (d : Directive) : Parts :=
  match registry.find? d.key with
  | none => {}
  | some feature =>
    match feature.filter? strict d.parsed with
    -- excluded or not, a directive without a filter lets nothing match
    | none => { unsatisfiable := true }
    | some f => if occur = .mustNot then { mustNot := [f] } else { must := [f] }

mutual

/-- What a node adds that takes part as `occur`. Empty words and phrases add
nothing. -/
def ofNode (registry : Registry) (options : QueryOptions) (occur : Occur) : Node → Parts
  | .word text _ =>
    if text = "" then {}
    else { text := [⟨occur, Escape.term options.leadingWildcards text⟩] }
  | .phrase p _ => if p.text = "" then {} else { text := [⟨occur, phraseText p⟩] }
  | .directive d _ => ofDirective registry options.strictMatching occur d
  | .clause c => ofClause registry options occur c
  | .group cs _ => ofClauses registry options occur cs
  | .empty => {}

/-- What a clause adds that stands inside one that takes part as `outer`. -/
def ofClause (registry : Registry) (options : QueryOptions) (outer : Occur) :
    Clause Node → Parts
  | ⟨occur, _, node, _⟩ => ofNode registry options (outer.within occur) node

/-- What some clauses add that stand inside one that takes part as `outer`. -/
def ofClauses (registry : Registry) (options : QueryOptions) (outer : Occur) :
    List (Clause Node) → Parts
  | [] => {}
  | c :: cs => ofClause registry options outer c ++ ofClauses registry options outer cs

end

/-- A clause at the top of a query takes part as it is written. -/
theorem ofClauses_cons (registry : Registry) (options : QueryOptions) (c : Clause Node)
    (cs : List (Clause Node)) :
    ofClauses registry options .must (c :: cs) =
      ofNode registry options c.occur c.node ++ ofClauses registry options .must cs := by
  rw [ofClauses, ofClause, Occur.must_within]

/-- The parts of some clauses are those of the first ones and then those of the others. -/
theorem ofClauses_append (registry : Registry) (options : QueryOptions) (outer : Occur)
    (cs ds : List (Clause Node)) :
    ofClauses registry options outer (cs ++ ds) =
      ofClauses registry options outer cs ++ ofClauses registry options outer ds := by
  induction cs with
  | nil => rw [List.nil_append, ofClauses, nil_append]
  | cons c cs ih => rw [List.cons_append, ofClauses, ofClauses, ih, append_assoc]

end Parts

namespace Query

/-- Compiles a query with the keywords of a registry. -/
def compile (registry : Registry) (options : QueryOptions) (q : Query) : Compiled :=
  let parts := Parts.ofClauses registry options .must q.clauses
  ⟨parts.text, parts.filter, !parts.unsatisfiable⟩

end Query

end WikiSearch
