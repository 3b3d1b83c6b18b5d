import WikiSearch.Proofs.Parsing
import WikiSearch.Proofs.Token.Locality
import WikiSearch.Query.Compiled

/-!
# WikiSearch — queries are read piece by piece

A query can be split at a blank and read in two halves, if nothing in the first half is still
open there (`Query.IsClosed`): the clauses of both halves make up the clauses of the query, those
of the second half moved to where they stand, and so do the warnings. What is made of a clause for
the backend does not depend on its place, so the halves are compiled one by one as well.

* `Query.tokenClause_shift` — a moved token gives a moved clause, and the same warnings.
* `Parts.ofNode_shift` — a moved node adds to a compiled query what it added before.
* `Query.isClosed_of_not_mem` — texts without quotes and backslashes are closed.
* `Query.parse_append` — the two halves of a query.
-/

namespace WikiSearch

open Text

/-! ## Moved clauses -/

mutual

/-- The same node, `n` characters further on. -/
def Node.shift (n : Nat) : Node → Node
  | .word text s => .word text (s.shift n)
  | .phrase p s => .phrase p (s.shift n)
  | .directive d s => .directive d (s.shift n)
  | .clause c => .clause (Clause.shift n c)
  | .group cs s => .group (Clause.shiftAll n cs) (s.shift n)
  | .empty => .empty

/-- The same clause, `n` characters further on. -/
def Clause.shift (n : Nat) : Clause Node → Clause Node
  | ⟨occur, explicit, node, span⟩ => ⟨occur, explicit, node.shift n, span.shift n⟩

/-- The same clauses, `n` characters further on. -/
def Clause.shiftAll (n : Nat) : List (Clause Node) → List (Clause Node)
  | [] => []
  | c :: cs => Clause.shift n c :: Clause.shiftAll n cs

end

theorem Clause.shiftAll_eq_map (n : Nat) (cs : List (Clause Node)) :
    Clause.shiftAll n cs = cs.map (Clause.shift n) := by
  induction cs with
  | nil => rw [shiftAll, List.map_nil]
  | cons c cs ih => rw [shiftAll, List.map_cons, ih]

namespace Parts

variable (registry : Registry) (options : QueryOptions) (n : Nat)

mutual

/-- What a node adds does not depend on its place. -/
theorem ofNode_shift (occur : Occur) (node : Node) :
    ofNode registry options occur (node.shift n) = ofNode registry options occur node := by
  -- along the tree, as the definitions go: a clause and a group hold further nodes
  match node with
  | .word text s => rw [Node.shift, ofNode, ofNode]
  | .phrase p s => rw [Node.shift, ofNode, ofNode]
  | .directive d s => rw [Node.shift, ofNode, ofNode]
  | .clause c => rw [Node.shift, ofNode, ofNode, ofClause_shift]
  | .group cs s => rw [Node.shift, ofNode, ofNode, ofClauses_shiftAll]
  | .empty => rw [Node.shift]

theorem ofClause_shift (outer : Occur) (c : Clause Node) :
    ofClause registry options outer (c.shift n) = ofClause registry options outer c := by
  match c with
  | ⟨occur, explicit, node, span⟩ => rw [Clause.shift, ofClause, ofClause, ofNode_shift]

theorem ofClauses_shiftAll (outer : Occur) (cs : List (Clause Node)) :
    ofClauses registry options outer (Clause.shiftAll n cs) =
      ofClauses registry options outer cs := by
  match cs with
  | [] => rw [Clause.shiftAll]
  | c :: cs => rw [Clause.shiftAll, ofClauses, ofClauses, ofClause_shift, ofClauses_shiftAll]

end

end Parts

namespace Query

/-! ## Moved tokens give moved clauses -/

section Shift

variable (registry : Registry) (options : QueryOptions) (n : Nat)

/-- A moved candidate gives a moved node, and the same warnings. -/
theorem resolve_shift (c : Candidate) (negated : Bool) (span : Span) :
    resolve registry c negated (span.shift n) =
      ((resolve registry c negated span).1.shift n, (resolve registry c negated span).2) := by
  rw [resolve, resolve]
  split
  · rw [Node.shift]
  · -- the span goes into the node as it is, whichever node it is
    split
    · rw [Node.shift]
    · split <;> rw [Node.shift]

/-- A moved token gives a moved node, and the same warnings. -/
theorem tokenNode_shift (negated : Bool) (t : Token) :
    tokenNode registry negated (t.shift n) =
      ((tokenNode registry negated t).1.shift n, (tokenNode registry negated t).2) := by
  obtain ⟨content, sign, span, textStart⟩ := t
  cases content with
  | word text => rfl
  | phrase p => rfl
  | keyword c => exact resolve_shift registry n c negated ⟨textStart, span.stop⟩

/-- A moved token gives a moved clause, and the same warnings. -/
theorem tokenClause_shift (t : Token) :
    tokenClause registry options (t.shift n) =
      (Clause.shift n (tokenClause registry options t).1,
        (tokenClause registry options t).2) := by
  have hoccur : (t.shift n).occur options = t.occur options := rfl
  simp only [tokenClause, hoccur, tokenNode_shift, Clause.shift]
  rfl

end Shift

/-! ## Closed texts -/

/-- Nothing can go on behind the text and a blank: its last token is not open. -/
def IsClosed (text : String) : Prop :=
  ∀ t, (Token.scan 0 true text.toList).getLast? = some t → ¬ t.IsOpen text.toList

/-- A text without quotes and backslashes is closed. -/
theorem isClosed_of_not_mem {text : String} (hquote : '"' ∉ text.toList)
    (hbackslash : '\\' ∉ text.toList) : IsClosed text := by
  intro t ht
  -- the source of the token is a stretch of the text
  have htokens := (tokenization_start_iff text.toList _).mpr rfl
  have hlawful := (htokens.lawful t (List.mem_of_getLast? ht)).lexeme
  have hsource : ∀ c ∈ (t.lexeme text.toList).source, c ∈ text.toList := fun c hc =>
    List.mem_of_mem_drop (List.mem_of_mem_take hc)
  exact hlawful.not_isOpen_of_not_mem (fun h => hquote (hsource _ h))
    fun h => hbackslash (hsource _ h)

/-! ## Main result -/

/-- The tokens of two texts with a blank between them. -/
theorem scan_append_of_isClosed {a : String} (ha : IsClosed a) {w : Char} (hw : isBlank w = true)
    (b : String) :
    Token.scan 0 true (a ++ String.singleton w ++ b).toList =
      Token.scan 0 true a.toList ++
        (Token.scan 0 true b.toList).map (Token.shift (a.toList.length + 1)) := by
  have htext : (a ++ String.singleton w ++ b).toList = a.toList ++ w :: b.toList := by simp
  have hstart : a.toList.drop 0 = a.toList := rfl
  rw [htext, Token.scan_append hstart ha hw b.toList, ← Token.scan_shift, Nat.add_assoc]

section Halves

variable (registry : Registry) (options : QueryOptions) (n : Nat)

/-- Tokens and moved tokens give clauses and moved clauses. -/
theorem clauses_ofTokens_append (text : String) (ts us : List Token) :
    (ofTokens registry options text (ts ++ us.map (Token.shift n))).clauses =
      (ofTokens registry options text ts).clauses ++
        (ofTokens registry options text us).clauses.map (Clause.shift n) := by
  simp only [ofTokens, List.map_append, List.map_map, Function.comp_def, tokenClause_shift]

/-- Tokens and moved tokens give the warnings of both. -/
theorem warnings_ofTokens_append (text : String) (ts us : List Token) :
    (ofTokens registry options text (ts ++ us.map (Token.shift n))).warnings =
      (ofTokens registry options text ts).warnings ++
        (ofTokens registry options text us).warnings := by
  simp only [ofTokens, List.flatMap_append, List.flatMap_map, tokenClause_shift]

/-- The parts of a compiled query come from its halves, wherever the second one stands. -/
theorem ofClauses_append_shift (cs ds : List (Clause Node)) :
    Parts.ofClauses registry options .must (cs ++ ds.map (Clause.shift n)) =
      Parts.ofClauses registry options .must cs ++ Parts.ofClauses registry options .must ds := by
  rw [Parts.ofClauses_append, ← Clause.shiftAll_eq_map, Parts.ofClauses_shiftAll]

end Halves

/-- **Queries are read piece by piece.** Let nothing be open at the end of a text. Whatever the
registered keywords and the options are: with a blank and another text behind it, within the limit
on the length, it is read as the two texts are read by themselves. The clauses are those of the
first text and then those of the second one, moved to where it stands, and the warnings are those
of the first and then those of the second. So are the text clauses that they are compiled to,
and results are possible exactly if they are for both. -/
theorem parse_append (registry : Registry) (options : QueryOptions) {a b : String} {w : Char}
    (hw : isBlank w = true)
    (hlength : a.toList.length + 1 + b.toList.length ≤ options.effectiveLimit)
    (hclosed : IsClosed a) :
    ∃ qa qb q, parse registry options a = .ok qa ∧ parse registry options b = .ok qb ∧
      parse registry options (a ++ String.singleton w ++ b) = .ok q ∧
      q.clauses = qa.clauses ++ qb.clauses.map (Clause.shift (a.toList.length + 1)) ∧
      q.warnings = qa.warnings ++ qb.warnings ∧
      (q.compile registry options).textClauses =
        (qa.compile registry options).textClauses ++ (qb.compile registry options).textClauses ∧
      (q.compile registry options).resultsPossible =
        ((qa.compile registry options).resultsPossible &&
          (qb.compile registry options).resultsPossible) := by
  have hwhole : (a ++ String.singleton w ++ b).toList.length ≤ options.effectiveLimit := by
    simpa [Nat.add_assoc, Nat.add_comm 1] using hlength
  have hscan := scan_append_of_isClosed hclosed hw b
  have hclauses := clauses_ofTokens_append registry options (a.toList.length + 1)
    (a ++ String.singleton w ++ b) (Token.scan 0 true a.toList) (Token.scan 0 true b.toList)
  have hwarnings := warnings_ofTokens_append registry options (a.toList.length + 1)
    (a ++ String.singleton w ++ b) (Token.scan 0 true a.toList) (Token.scan 0 true b.toList)
  rw [← hscan] at hclauses hwarnings
  -- all three are within the limit, so they are read
  refine ⟨_, _, _, parse_of_length_le registry options a (by omega),
    parse_of_length_le registry options b (by omega),
    parse_of_length_le registry options _ hwhole, hclauses, hwarnings, ?_, ?_⟩
  · -- what the clauses add does not depend on where the second half stands
    simp only [compile, hclauses, ofClauses_append_shift, Parts.text_append]
    rfl
  · simp only [compile, hclauses, ofClauses_append_shift, Parts.unsatisfiable_append, Bool.not_or]
    rfl

/-- Words and directives without quotes are closed, so what stands behind them is read by itself,
open as it may be. -/
theorem parse_append_of_directives :
    ∃ qa qb q, parse (.builtin {}) {} "+cats pageid:1|x -incategory:Old" = .ok qa ∧
      parse (.builtin {}) {} "pageid:y \"red dog" = .ok qb ∧
      parse (.builtin {}) {} "+cats pageid:1|x -incategory:Old pageid:y \"red dog" = .ok q ∧
      q.clauses = qa.clauses ++ qb.clauses.map (Clause.shift 33) ∧
      q.warnings = qa.warnings ++ qb.warnings ∧
      (q.compile (.builtin {}) {}).textClauses =
        (qa.compile (.builtin {}) {}).textClauses ++ (qb.compile (.builtin {}) {}).textClauses ∧
      (q.compile (.builtin {}) {}).resultsPossible =
        ((qa.compile (.builtin {}) {}).resultsPossible &&
          (qb.compile (.builtin {}) {}).resultsPossible) :=
  parse_append (.builtin {}) {} (a := "+cats pageid:1|x -incategory:Old")
    (b := "pageid:y \"red dog") (w := ' ') (by decide) (by decide)
    (isClosed_of_not_mem (by decide) (by decide))

end Query

end WikiSearch
