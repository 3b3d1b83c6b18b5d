import WikiSearch.Proofs.Backend.Reading
import WikiSearch.Proofs.Parsing
import WikiSearch.Query.Compiled

/-!
# WikiSearch — query strings say what was asked

The words and phrases of a query go to the backend as one string. Here that string is
read as the backend reads it, and it turns out to say what the query says: no text is
lost, split, merged or taken for a part of the syntax.

Every piece of the string is escaped by itself, so the argument goes piece by piece.
`Spells` (of the backend) says which glyphs a piece stands for whatever follows it, a
clause of the query gives at most one piece (`text_ofNode`), and reading the string
is then a matter of glyphs alone (`readItems?_of_spells`).

Main results:

* `spells_termChars`, `spells_phraseChars` — what escaped text stands for.
* `readsWord_termGlyphs` — which wildcards of a word are active.
* `readItems?_queryString` — the query string of a query that was read.
-/

namespace WikiSearch

open Text Escape Backend

/-! ## Escaped text -/

/-- The glyphs of an escaped term. -/
def termGlyphs (leadingWildcards : Bool) (cs : List Char) : List Glyph :=
  (cs.takeWhile isWildcard).map (⟨·, !leadingWildcards⟩) ++
    (cs.dropWhile isWildcard).map fun c => ⟨c, isSpecial c⟩

/-- A character of a term is escaped if it is special, and so it is literal then. -/
theorem spells_termChar (c : Char) : Spells (termChar c) [⟨c, isSpecial c⟩] := by
  rw [termChar]
  cases hc : isSpecial c with
  | true => exact Spells.literal c
  | false =>
    -- the backslash is special, so this is another character
    refine Spells.plain ?_
    rintro rfl
    exact absurd hc (by decide)

/-- An escaped term is read as its glyphs. Wildcards in front have their meaning only where they
may. -/
theorem spells_termChars (leadingWildcards : Bool) (cs : List Char) :
    Spells (termChars leadingWildcards cs) (termGlyphs leadingWildcards cs) := by
  refine Spells.append ?_ (Spells.flatMap fun c _ => spells_termChar c)
  -- the run of wildcards at the start
  cases leadingWildcards with
  | false => exact Spells.flatMap fun c _ => Spells.literal c
  | true =>
    refine Spells.of_plain ?_
    rintro c hc rfl
    exact absurd (List.mem_takeWhile_imp hc) (by decide)

/-- An escaped phrase is read as text in quotes. -/
theorem spells_phraseChars (cs : List Char) :
    Spells (cs.flatMap phraseChar) (quotedGlyphs cs) := by
  refine Spells.flatMap fun c _ => ?_
  rw [phraseChar]
  -- two characters are escaped, the quote and the backslash
  by_cases hquote : c = '"'
  · simpa [hquote] using Spells.literal '"'
  · by_cases hbackslash : c = '\\'
    · simpa [hbackslash] using Spells.literal '\\'
    · simpa [hquote, hbackslash] using Spells.plain hbackslash

/-! ## Words -/

/-- The glyphs say a word: its text, with the wildcards that are active in it, and
nothing that belongs to the syntax. -/
structure ReadsWord (leadingWildcards : Bool) (text : List Char) (gs : List Glyph) : Prop where
  /-- The text is that of the word. -/
  chars : gs.map (·.char) = text
  /-- A wildcard is escaped only at the very start, and only if it must not stand there. -/
  wildcards : ∀ i g, gs[i]? = some g → isWildcard g.char = true →
    (g.literal = true ↔ leadingWildcards = false ∧ i < (text.takeWhile isWildcard).length)
  /-- Reserved characters and blanks are escaped. -/
  escaped : ∀ g ∈ gs, g.literal = false → g.char ∉ reserved ∧ isBlank g.char = false

/-- Wildcards are not special: by themselves they keep their meaning. -/
theorem isSpecial_of_isWildcard {c : Char} (h : isWildcard c = true) : isSpecial c = false := by
  rw [isWildcard, Bool.or_eq_true, decide_eq_true_eq, decide_eq_true_eq] at h
  rcases h with rfl | rfl <;> decide

theorem isSpecial_eq_false_iff {c : Char} :
    isSpecial c = false ↔ c ∉ reserved ∧ isBlank c = false := by
  simp [isSpecial]

/-- A glyph of an escaped term is literal if it is special, wherever it stands. -/
theorem literal_of_mem_termGlyphs {leadingWildcards : Bool} {cs : List Char} {g : Glyph}
    (h : g ∈ termGlyphs leadingWildcards cs) (hg : g.literal = false) :
    isSpecial g.char = false := by
  rcases List.mem_append.mp h with h | h
  · obtain ⟨c, hc, rfl⟩ := List.mem_map.mp h
    exact isSpecial_of_isWildcard (List.mem_takeWhile_imp hc)
  · obtain ⟨c, -, rfl⟩ := List.mem_map.mp h
    exact hg

/-- **The glyphs of an escaped term say the word**, wildcards included. -/
theorem readsWord_termGlyphs (leadingWildcards : Bool) (cs : List Char) :
    ReadsWord leadingWildcards cs (termGlyphs leadingWildcards cs) := by
  constructor
  -- the run in front and the rest of the term are the term
  case chars => simp [termGlyphs, Function.comp_def]
  case wildcards =>
    intro i g hi hwild
    by_cases hlt : i < (cs.takeWhile isWildcard).length
    · -- in the run of wildcards at the start the option decides
      rw [termGlyphs, List.getElem?_append_left (by simpa using hlt), List.getElem?_map,
        Option.map_eq_some_iff] at hi
      obtain ⟨c, -, rfl⟩ := hi
      simp [hlt]
    · -- behind it only special characters are escaped
      rw [termGlyphs, List.getElem?_append_right (by simpa using hlt), List.getElem?_map,
        Option.map_eq_some_iff] at hi
      obtain ⟨c, -, rfl⟩ := hi
      simp [hlt, isSpecial_of_isWildcard hwild]
  case escaped =>
    intro g hg hliteral
    exact isSpecial_eq_false_iff.mp (literal_of_mem_termGlyphs hg hliteral)

/-! ## Clauses -/

/-- Whether a clause holds text for the backend: a word, or a phrase that is not empty. -/
def Clause.isText (c : Clause Node) : Bool :=
  match c.node with
  | .word _ _ => true
  | .phrase p _ => p.text ≠ ""
  | _ => false

/-- The backend understands a clause as it is meant: it takes part in the same way, and
has the same text. -/
inductive Renders (leadingWildcards : Bool) : Clause Node → Item → Prop where
  | word {occur : Occur} {explicit : Bool} {text : String} {s t : Span} {gs : List Glyph} :
      ReadsWord leadingWildcards text.toList gs →
      Renders leadingWildcards ⟨occur, explicit, .word text s, t⟩ ⟨occur, .word gs⟩
  | phrase {occur : Occur} {explicit : Bool} {p : Phrase} {s t : Span} :
      Renders leadingWildcards ⟨occur, explicit, .phrase p s, t⟩
        ⟨occur, .phrase p.text.toList p.slop⟩

section Compile

variable (registry : Registry) (options : QueryOptions)

/-- A text clause is written as the glyphs of an item. -/
def TextClause.SpellsItem (t : TextClause) (i : Item) : Prop :=
  Spells (t.occur.mark ++ t.query).toList i.glyphs

/-- The sign of a clause is read as it is. -/
theorem spells_mark (o : Occur) : Spells o.mark.toList (plainGlyphs o.mark.toList) := by
  refine Spells.of_plain ?_
  rintro c hc rfl
  cases o <;> simp [Occur.mark] at hc

/-- The text clause of a word is read as that word. -/
theorem spellsItem_term (o : Occur) (leadingWildcards : Bool) (text : String) :
    (TextClause.mk o (term leadingWildcards text)).SpellsItem
      ⟨o, .word (termGlyphs leadingWildcards text.toList)⟩ := by
  rw [TextClause.SpellsItem, term, String.toList_append, String.toList_ofList]
  exact Spells.append (spells_mark o) (spells_termChars leadingWildcards text.toList)

/-- The slop of a phrase is written behind it as a number. -/
theorem spells_slop (slop : Option Nat) :
    Spells (match slop with | some n => "~" ++ toString n | none => "").toList
      (slopGlyphs slop) := by
  cases slop with
  | none => exact Spells.nil
  | some n =>
    have hdigits : ∀ c ∈ '~' :: Nat.toDigits 10 n, c ≠ '\\' := by
      rintro c hc rfl
      rcases List.mem_cons.mp hc with hc | hc
      · contradiction
      · exact absurd ((toDigits_spec n).2.1 _ hc) (by decide)
    rw [String.toList_append, Nat.toString_eq_ofList_toDigits]
    simp only [String.toList_ofList]
    exact Spells.of_plain hdigits

/-- The text clause of a phrase is read as that phrase. -/
theorem spellsItem_phrase (o : Occur) (p : Phrase) :
    (TextClause.mk o (Parts.phraseText p)).SpellsItem ⟨o, .phrase p.text.toList p.slop⟩ := by
  rw [TextClause.SpellsItem, Parts.phraseText, phrase]
  simp only [String.toList_append, String.toList_ofList, List.append_assoc]
  have hquote : Spells "\"".toList [⟨'"', false⟩] := Spells.plain (by decide)
  exact (spells_mark o).append (hquote.append
    ((spells_phraseChars p.text.toList).append (hquote.append (spells_slop p.slop))))

/-- The glyphs of a term that is not empty make a word: what could be taken for syntax was escaped.
-/
theorem wellFormed_termGlyphs (leadingWildcards : Bool) {text : String} (h : text ≠ "") :
    (Body.word (termGlyphs leadingWildcards text.toList)).WellFormed := by
  have hchars := (readsWord_termGlyphs leadingWildcards text.toList).chars
  refine ⟨fun hnil => ?_, fun g hg c hc => ?_⟩
  · rw [hnil, List.map_nil, eq_comm, String.toList_eq_nil_iff] at hchars
    exact h hchars
  · -- a character with a meaning is special, and so it was escaped
    by_contra his
    simp only [Glyph.is, Bool.not_eq_false, Bool.and_eq_true, Bool.not_eq_true', beq_iff_eq] at his
    have hspecial := literal_of_mem_termGlyphs hg his.1
    rw [his.2] at hspecial
    simp only [List.mem_cons, List.not_mem_nil, or_false] at hc
    rcases hc with rfl | rfl | rfl | rfl <;> exact absurd hspecial (by decide)

/-- A directive gives no text. -/
theorem text_ofDirective (o : Occur) (d : Directive) (strict : Bool) :
    (Parts.ofDirective registry strict o d).text = [] := by
  unfold Parts.ofDirective
  split
  · rfl
  · split
    · rfl
    · split <;> rfl

/-- **One clause, at most one text clause.** A clause with text is written as an item that
says the same; any other clause is not written. -/
theorem text_ofNode {c : Clause Node} (h : c.node.IsLeaf) :
    (c.isText = false ∧ (Parts.ofNode registry options c.occur c.node).text = []) ∨
    (c.isText = true ∧ ∃ t item, (Parts.ofNode registry options c.occur c.node).text = [t] ∧
      t.SpellsItem item ∧ Renders options.leadingWildcards c item ∧ item.body.WellFormed) := by
  obtain ⟨occur, explicit, node, span⟩ := c
  -- words and phrases are written, directives are not
  cases h with
  | @word text s hne =>
    refine .inr ⟨rfl, _, _, ?_, spellsItem_term occur options.leadingWildcards text,
      .word (readsWord_termGlyphs options.leadingWildcards text.toList),
      wellFormed_termGlyphs options.leadingWildcards hne⟩
    simp [Parts.ofNode, hne]
  | phrase p s =>
    -- an empty phrase is dropped
    by_cases hempty : p.text = ""
    · exact .inl ⟨by simp [Clause.isText, hempty], by simp [Parts.ofNode, hempty]⟩
    · refine .inr ⟨by simp [Clause.isText, hempty], _, _, ?_, spellsItem_phrase occur p, .phrase,
        trivial⟩
      simp [Parts.ofNode, hempty]
  | directive d s => exact .inl ⟨rfl, text_ofDirective registry occur d options.strictMatching⟩

/-- The clauses of a flat query, one after the other. -/
theorem exists_items {clauses : List (Clause Node)} (h : ∀ c ∈ clauses, c.node.IsLeaf) :
    ∃ items,
      List.Forall₂ TextClause.SpellsItem (Parts.ofClauses registry options .must clauses).text
        items ∧
      List.Forall₂ (Renders options.leadingWildcards) (clauses.filter (·.isText)) items ∧
      ∀ i ∈ items, i.body.WellFormed := by
  induction clauses with
  | nil => exact ⟨[], .nil, .nil, nofun⟩
  | cons c clauses ih =>
    obtain ⟨items, hspells, hrenders, hitems⟩ := ih fun d hd => h d (List.mem_cons_of_mem _ hd)
    -- the first clause gives no text clause or one, and the others give theirs
    rcases text_ofNode registry options (h c (List.mem_cons_self ..)) with
      ⟨hc, hnone⟩ | ⟨hc, t, item, hone, hspell, hrender, hitem⟩
    · rw [Parts.ofClauses_cons, Parts.text_append, hnone, List.nil_append,
        List.filter_cons_of_neg (by simp [hc])]
      exact ⟨items, hspells, hrenders, hitems⟩
    · rw [Parts.ofClauses_cons, Parts.text_append, hone, List.singleton_append,
        List.filter_cons_of_pos hc]
      exact ⟨item :: items, .cons hspell hspells, .cons hrender hrenders,
        List.forall_mem_cons.mpr ⟨hitem, hitems⟩⟩

end Compile

namespace Query

/-- **The query string says what was asked.** Whatever the registered keywords and the
options are, the backend reads the query string of a query as its words and its phrases
that are not empty, in order and nothing else, each of which takes part as in the query
and has its text. -/
theorem readItems?_queryString {registry : Registry} {options : QueryOptions} {text : String}
    {q : Query} (h : parse registry options text = .ok q) :
    ∃ items, readItems? (q.compile registry options).queryString.toList = some items ∧
      List.Forall₂ (Renders options.leadingWildcards) (q.clauses.filter (·.isText)) items := by
  obtain ⟨items, hspells, hrenders, hitems⟩ := exists_items registry options (isLeaf_of_parse h)
  refine ⟨items, ?_, hrenders⟩
  -- the clauses are joined by blanks, each of them spelling an item
  rw [Compiled.queryString, String.toList_intercalate, List.map_map]
  exact readItems?_of_spells (List.forall₂_map_left_iff.mpr hspells) hitems

/-- A text whose words hold blanks, quotes, signs and wildcards is read, and so its query
string says what it says. -/
theorem readItems?_queryString_of_escapes :
    let options : QueryOptions := { leadingWildcards := false }
    let text := "*c+?+ -\"say \\\"hi\\\" \\\\\"~3 foo\\ -\\\"bar\\\" +\"\" pageid:7 ~x"
    ∃ q, parse (.builtin {}) options text = .ok q ∧
      ∃ items, readItems? (q.compile (.builtin {}) options).queryString.toList = some items ∧
        List.Forall₂ (Renders false) (q.clauses.filter (·.isText)) items := by
  have h := parse_of_length_le (.builtin {}) { leadingWildcards := false }
    "*c+?+ -\"say \\\"hi\\\" \\\\\"~3 foo\\ -\\\"bar\\\" +\"\" pageid:7 ~x" (by decide)
  exact ⟨_, h, readItems?_queryString h⟩

end Query

end WikiSearch
