import Mathlib.Data.List.Chain
import Mathlib.Tactic.ByContra
import WikiSearch.Proofs.Parsing
import WikiSearch.Proofs.Readers

/-!
# WikiSearch — how tokens and clauses lie over a query

Every part of a query knows where it was written, and these places can be relied
on: they follow one another, none of them is empty, and together they hold all of
the query but its blanks.

The reader moves from offset to offset through signs, escapes, quotes and words. What
all of these have in common is said once, by the judgment `Tiling`: a blank is
passed over, or a stretch is taken whose first character is not blank. Reading keeps
to that judgment (`scan_tiling`), and all that is said about places is an induction
over it.

Main results:

* `scan_tiling` — the spans of the tokens of a text tile the text.
* `Tiling.bounds`, `Tiling.ordered`, `Tiling.countP_eq_one`, `Tiling.eq_nil_iff` —
  what a tiling says about places.
* `parse_layout` — the layout of the clauses of a query that was read.
-/

namespace WikiSearch

open Text

namespace Span

/-- An offset lies in a stretch. -/
instance : Membership Nat Span := ⟨fun s i => s.start ≤ i ∧ i < s.stop⟩

theorem mem_iff {s : Span} {i : Nat} : i ∈ s ↔ s.start ≤ i ∧ i < s.stop := Iff.rfl

instance (s : Span) (i : Nat) : Decidable (i ∈ s) := decidable_of_iff _ mem_iff.symm

end Span

/-! ## Tilings -/

/-- The spans lie over the characters from offset `pos` on, one behind the other.
Each of them starts at a character that is not blank, and what lies between them is
blank. -/
inductive Tiling : Nat → List Char → List Span → Prop where
  | done {pos : Nat} : Tiling pos [] []
  | blank {pos : Nat} {c : Char} {cs : List Char} {spans : List Span} :
      isBlank c = true → Tiling (pos + 1) cs spans → Tiling pos (c :: cs) spans
  | take {pos : Nat} {c : Char} {source rest : List Char} {spans : List Span} :
      isBlank c = false → Tiling (pos + (c :: source).length) rest spans →
      Tiling pos (c :: source ++ rest) (⟨pos, pos + (c :: source).length⟩ :: spans)

namespace Tiling

variable {pos : Nat} {cs : List Char} {spans : List Span}

/-- The spans of a tiling are not empty and lie inside the text. -/
theorem bounds (h : Tiling pos cs spans) :
    ∀ s ∈ spans, pos ≤ s.start ∧ s.start < s.stop ∧ s.stop ≤ pos + cs.length := by
  -- along the tiling, where a blank takes one character and a stretch all of its own
  induction h with
  | done => simp
  | blank _ _ ih =>
    intro s hs
    have := ih s hs
    simp only [List.length_cons]
    omega
  | take _ _ ih =>
    intro s hs
    simp only [List.length_append, List.length_cons] at *
    rcases List.mem_cons.mp hs with rfl | hs
    · exact ⟨Nat.le_refl _, by simp, by simp⟩
    · have := ih s hs
      omega

/-- A span of a tiling ends before any later one starts. -/
theorem ordered (h : Tiling pos cs spans) : spans.Pairwise fun s t => s.stop ≤ t.start := by
  induction h with
  | done => exact List.Pairwise.nil
  | blank _ _ ih => exact ih
  | take _ hrest ih => exact List.pairwise_cons.mpr ⟨fun s hs => (hrest.bounds s hs).1, ih⟩

/-- Behind the offset where a tiling starts, none of its spans reaches back. -/
theorem countP_eq_zero (h : Tiling pos cs spans) {i : Nat} (hi : i < pos) :
    spans.countP (i ∈ ·) = 0 := by
  rw [List.countP_eq_zero]
  intro s hs
  have := (h.bounds s hs).1
  simp only [decide_eq_true_eq, Span.mem_iff]
  omega

/-- A character that is not blank lies in exactly one span. -/
theorem countP_eq_one (h : Tiling pos cs spans) {i : Nat} {c : Char} (hi : cs[i]? = some c)
    (hc : isBlank c = false) : spans.countP (pos + i ∈ ·) = 1 := by
  induction h generalizing i with
  | done => simp at hi
  | @blank pos d cs spans hd _ ih =>
    cases i with
    | zero =>
      -- the character is the blank
      rw [List.getElem?_cons_zero, Option.some.injEq] at hi
      rw [hi, hc] at hd
      contradiction
    | succ i =>
      have := ih (i := i) (by simpa using hi)
      rwa [show pos + 1 + i = pos + (i + 1) by omega] at this
  | @take pos d source rest spans _ hrest ih =>
    by_cases hlt : i < (d :: source).length
    · -- the character is part of the stretch, and the later ones lie behind it
      rw [List.countP_cons_of_pos (by simpa [Span.mem_iff] using hlt),
        hrest.countP_eq_zero (by omega)]
    · -- the character is behind the stretch
      rw [List.countP_cons_of_neg (by simp [Span.mem_iff] at hlt ⊢; omega)]
      have := ih (i := i - (d :: source).length)
        (by rwa [List.getElem?_append_right (by omega)] at hi)
      rwa [show pos + (d :: source).length + (i - (d :: source).length) = pos + i by omega] at this

/-- There are no spans exactly if all characters are blank. -/
theorem eq_nil_iff (h : Tiling pos cs spans) : spans = [] ↔ ∀ c ∈ cs, isBlank c = true := by
  induction h with
  | done => simp
  | blank hc _ ih => simp [hc, ih]
  | take hc _ _ => simp [hc]

end Tiling

/-! ## Tokens tile the text they were read from -/

namespace Token

/-- **Reading tiles the text.** Every step of the reader passes over a blank or takes
a token whose first character is not blank. -/
theorem scan_tiling (pos : Nat) (boundary : Bool) (cs : List Char) :
    Tiling pos cs ((scan pos boundary cs).map (·.span)) := by
  fun_induction scan pos boundary cs with
  | case1 => exact .done
  | case2 pos boundary c cs hc ih => exact .blank hc ih
  | case3 pos boundary c cs hc sign textStart lexeme stop ih =>
    -- sign and source make up one stretch, whatever reader took it
    obtain ⟨source, hsplit, hlength⟩ := readSigned_split boundary cs (by simpa using hc)
    have hstop : stop = pos + (c :: source).length := by
      rw [hlength, ← Nat.add_assoc]
    rw [List.map_cons, hstop]
    rw [hstop] at ih
    have htake := Tiling.take (by simpa using hc) ih
    rwa [← hsplit] at htake

/-- The text of a token stands behind its sign and is not empty. -/
structure Placed (t : Token) : Prop where
  textStart_eq : t.textStart = t.span.start + signLength t.sign
  textStart_lt : t.textStart < t.span.stop

/-- Every token that is read is placed so. -/
theorem placed_of_mem_scan {pos : Nat} {boundary : Bool} {cs : List Char} {t : Token}
    (h : t ∈ scan pos boundary cs) : t.Placed := by
  fun_induction scan pos boundary cs with
  | case1 => simp at h
  | case2 pos boundary c cs hc ih => exact ih h
  | case3 pos boundary c cs hc sign textStart lexeme stop ih =>
    rcases List.mem_cons.mp h with rfl | h
    · have hne := readSigned_source_ne_nil boundary cs (by simpa using hc)
      exact ⟨rfl, Nat.lt_add_of_pos_right (List.length_pos_iff.mpr hne)⟩
    · exact ih h

end Token

/-! ## The layout of a query -/

namespace Query

/-- How the clauses of a query lie over its characters. -/
structure Layout (cs : List Char) (q : Query) : Prop where
  /-- The tree is the empty node, at the origin, exactly for a blank text. -/
  root_blank : (q.root = .empty ∧ q.root.span = ⟨0, 0⟩) ↔ ∀ c ∈ cs, isBlank c = true
  /-- Else it is a group that reaches from its first clause to its last one. -/
  root_group : (∃ c ∈ cs, isBlank c = false) → ∃ first last,
    q.clauses.head? = some first ∧ q.clauses.getLast? = some last ∧
      q.root = .group q.clauses ⟨first.span.start, last.span.stop⟩
  /-- A clause is not empty and lies inside the text. -/
  bounds : ∀ c ∈ q.clauses, c.span.start < c.span.stop ∧ c.span.stop ≤ cs.length
  /-- A clause ends before the next one starts. -/
  ordered : q.clauses.IsChain fun a b => a.span.stop ≤ b.span.start
  /-- A character that is not blank lies in exactly one clause. -/
  covered : ∀ i c, cs[i]? = some c → isBlank c = false →
    q.clauses.countP (fun clause => i ∈ clause.span) = 1
  /-- A character that lies in no clause is blank. -/
  uncovered : ∀ i c, cs[i]? = some c → (∀ clause ∈ q.clauses, i ∉ clause.span) →
    isBlank c = true
  /-- A node is what its clause holds behind the sign, and it is not empty. -/
  nodes : ∀ c ∈ q.clauses, c.node.span.stop = c.span.stop ∧
    c.node.span.start = c.span.start + (if c.explicit then 1 else 0) ∧
    c.node.span.start < c.node.span.stop

variable {registry : Registry} {options : QueryOptions} {text : String} {q : Query}

/-- The spans of the clauses tile the text. -/
theorem tiling_of_parse (h : parse registry options text = .ok q) :
    Tiling 0 text.toList (q.clauses.map (·.span)) := by
  rw [clauses_of_parse h, List.map_map]
  exact Token.scan_tiling 0 true text.toList

theorem root_eq_empty_iff (q : Query) : q.root = .empty ↔ q.clauses = [] := by
  unfold root
  cases q.clauses <;> simp

/-- With a clause the tree is a group, from the first of them to the last. -/
theorem root_eq_group {q : Query} (h : q.clauses ≠ []) : ∃ first last,
    q.clauses.head? = some first ∧ q.clauses.getLast? = some last ∧
      q.root = .group q.clauses ⟨first.span.start, last.span.stop⟩ := by
  refine ⟨q.clauses.head h, q.clauses.getLast h, List.head?_eq_some_head h,
    List.getLast?_eq_some_getLast h, ?_⟩
  rw [root, if_neg (by simpa using h), clausesSpan, List.head?_eq_some_head h,
    List.getLast?_eq_some_getLast h]
  rfl

/-- **The layout of a query.** Whatever the registered keywords and the options are, a
query that was read is laid out over its text: its clauses are in order and apart,
they hold every character that is not blank exactly once, and their nodes stand
behind their signs. -/
theorem parse_layout (h : parse registry options text = .ok q) : q.Layout text.toList := by
  have htiling := tiling_of_parse h
  have hnil : q.clauses = [] ↔ ∀ c ∈ text.toList, isBlank c = true := by
    rw [← htiling.eq_nil_iff, List.map_eq_nil_iff]
  -- each part of the layout is one thing that a tiling says
  constructor
  case root_blank =>
    rw [← hnil, ← root_eq_empty_iff]
    exact and_iff_left_of_imp fun hroot => by rw [hroot]; rfl
  case root_group =>
    rintro ⟨c, hc, hblank⟩
    refine root_eq_group fun hempty => ?_
    rw [hnil.mp hempty c hc] at hblank
    contradiction
  case bounds =>
    intro c hc
    have hb := htiling.bounds c.span (List.mem_map_of_mem hc)
    exact ⟨hb.2.1, by omega⟩
  case ordered =>
    exact (List.pairwise_map.mp htiling.ordered).isChain
  case covered =>
    intro i c hi hblank
    have hcount := htiling.countP_eq_one hi hblank
    rwa [Nat.zero_add, List.countP_map] at hcount
  case uncovered =>
    -- a character that is not blank would be counted once
    intro i c hi hout
    by_contra hblank
    have hcount := htiling.countP_eq_one hi (by simpa using hblank)
    rw [Nat.zero_add, List.countP_map] at hcount
    have hzero : q.clauses.countP ((fun s : Span => decide (i ∈ s)) ∘ (·.span)) = 0 := by
      rw [List.countP_eq_zero]
      intro clause hclause
      simpa using hout clause hclause
    omega
  case nodes =>
    -- a clause keeps the places of its token
    intro c hc
    rw [clauses_of_parse h] at hc
    obtain ⟨t, ht, rfl⟩ := List.mem_map.mp hc
    have hplaced := Token.placed_of_mem_scan ht
    rw [nodeSpan_tokenClause, span_tokenClause, explicit_tokenClause]
    exact ⟨rfl, hplaced.textStart_eq, hplaced.textStart_lt⟩

/-- A text with signs, a phrase, a directive and escapes is read, and so it is laid out. -/
theorem parse_layout_of_signs : ∃ q,
    parse (.builtin {}) {} "  +rust -\"a b\"~2 incategory:Cats  x:y \\\\ é\\ x " = .ok q ∧
      q.Layout "  +rust -\"a b\"~2 incategory:Cats  x:y \\\\ é\\ x ".toList := by
  have h := parse_of_length_le (.builtin {}) {}
    "  +rust -\"a b\"~2 incategory:Cats  x:y \\\\ é\\ x " (by decide)
  exact ⟨_, h, parse_layout h⟩

end Query

end WikiSearch
