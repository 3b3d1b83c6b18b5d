import WikiSearch.Proofs.Parsing
import WikiSearch.Proofs.Token.Tokenization

/-!
# WikiSearch — candidates that become words

Whether a candidate is a directive is decided behind the reader of tokens, by the keywords that are
registered. One that is none becomes a word in its place, and the text of the candidate must still
be there: as it was typed if the value is in quotes, since the quotes and what stands behind them
belong to the text then, and otherwise as the word that would have been read in its place.

The parts of a candidate overlap, and each of them is cut out of the text in its own way, with
escapes or without. What ties them together is the source of the candidate: the rules for tokens say
how each kind of candidate is spelled (`Content.Says`), and everything here is read off the rules,
one case for each kind.

Main results:

* `Candidate.isWritten_of_says` — how the parts of a candidate make up its source.
* `Candidate.literal_of_says` — the literal is the word in place of a candidate.
* `Query.word_of_candidate` — what becomes of the candidates of a text.
-/

namespace WikiSearch

open Text Piece

namespace Candidate

/-- The parts of a candidate with a value in quotes, of which the quotes hold the pieces `ps`. -/
structure IsQuoted (c : Candidate) (source : List Char) (ps : List Piece) : Prop where
  delimiter : c.delimiter = some '"'
  /-- Key, colon, the value with its quotes and the suffix are all of the source. -/
  parts : c.key ++ ":" ++ c.quotedValue ++ c.suffix = .ofList source
  suffix : ∀ d ∈ c.suffix.toList, isBlank d = false
  /-- In the value, a pair of a backslash and a quote or another backslash is resolved, and nothing
  else is. -/
  value : c.value = .ofList (chars ps)
  /-- The quotes go on to the first quote that is no part of a pair. Without one they go on to the
  end, and nothing is left for a suffix. -/
  quotedValue : Spelling quotedEscaping ps ['"'] ∧
      c.quotedValue = .ofList ('"' :: (sources ps ++ ['"'])) ∨
    Spelling quotedEscaping ps [] ∧ c.quotedValue = .ofList ('"' :: sources ps) ∧ c.suffix = ""

/-- The parts of a candidate with a value without quotes. -/
structure IsBare (c : Candidate) (source : List Char) : Prop where
  delimiter : c.delimiter = none
  quotedValue : c.quotedValue = c.value
  suffix : c.suffix = ""
  literal : c.literal = c.key ++ ":" ++ c.value
  /-- The source is read as one word. -/
  word : readWord source = ⟨c.literal.toList, source, []⟩

/-- How a candidate is written. -/
def IsWritten (c : Candidate) (source : List Char) : Prop :=
  (∃ ps, c.IsQuoted source ps) ∨ c.IsBare source

/-- The word in place of a candidate: its source if the value is in quotes, and else the word that
its source is read as. -/
def asWord (c : Candidate) (source : List Char) : String :=
  match c.delimiter with
  | some _ => .ofList source
  | none => .ofList (readWord source).text

section Says

variable {c : Candidate} {source rest : List Char}

/-- **The parts of a candidate** make up its source. -/
theorem isWritten_of_says (h : (Content.keyword c).Says source rest) : c.IsWritten source := by
  cases h with
  | bareValue hkey hspelling hsources hquote hchars =>
    -- without quotes the literal is what the pieces stand for
    refine .inr ⟨rfl, rfl, rfl, ?_, ?_⟩
    · rw [hchars, ← String.toList_inj]
      simp
    · rw [readWord_sources hspelling, String.toList_ofList]
  | @unclosedValue ps key hkey hspelling =>
    refine .inl ⟨ps, rfl, ?_, by simp, rfl, .inr ⟨hspelling, rfl, rfl⟩⟩
    rw [← String.toList_inj]
    simp
  | @quotedValue ps key suffix rest hkey hspelling hsuffix =>
    -- of what stands behind the pieces only the closing quote matters
    refine .inl ⟨ps, rfl, ?_, ?_, rfl, .inl ⟨hspelling.congr_head rfl, rfl⟩⟩
    · rw [← String.toList_inj]
      simp
    · intro d hd
      rw [String.toList_ofList] at hd
      simpa using hsuffix.all d hd

/-- **The literal of a candidate** is the word that stands in its place. -/
theorem literal_of_says (h : (Content.keyword c).Says source rest) :
    c.literal = c.asWord source := by
  cases h with
  | bareValue hkey hspelling hsources hquote hchars => rw [asWord, readWord_sources hspelling]
  | unclosedValue hkey hspelling => rfl
  | quotedValue hkey hspelling hsuffix => rfl

end Says

end Candidate

/-- The characters of a token from behind its sign to its end. -/
def Token.source (full : List Char) (t : Token) : List Char :=
  (full.drop t.textStart).take (t.span.stop - t.textStart)

namespace Query

/-- What becomes of a candidate: a directive if it is recognized, and otherwise the word that
stands in its place. -/
theorem node_of_candidate (registry : Registry) (options : QueryOptions) {full : List Char}
    {t : Token} {c : Candidate} (ht : t ∈ Token.scan 0 true full) (hc : t.content = .keyword c) :
    (registry.recognizes c = true → ∃ parsed, (tokenClause registry options t).1.node =
      .directive ⟨c.toArgument, parsed, (tokenClause registry options t).1.occur = .mustNot⟩
        ⟨t.textStart, t.span.stop⟩) ∧
    (registry.recognizes c = false → (tokenClause registry options t).1.node =
      .word (c.asWord (t.source full)) ⟨t.textStart, t.span.stop⟩) := by
  have hliteral : c.literal = c.asWord (t.source full) :=
    Candidate.literal_of_says (Token.says_of_mem_scan ht hc)
  -- a candidate becomes a directive or its literal
  rw [node_tokenClause, tokenNode, hc, ← hliteral]
  exact ⟨fun h => resolve_of_recognizes h _ _, fun h => resolve_of_not_recognizes h _ _⟩

/-- **A candidate that is no directive loses nothing.** In every text, the parts of a candidate make
up the characters from behind its sign to its end. And in every query that is read from a text, a
candidate of which the keyword is not registered, does not take the quotes of the value or cannot
use the value becomes a word in its place: exactly those characters if the value is in quotes, and
else the word that they are read as. -/
theorem word_of_candidate (registry : Registry) (options : QueryOptions) (text : String) :
    (∀ t ∈ Token.scan 0 true text.toList, ∀ c, t.content = .keyword c →
      c.IsWritten (t.source text.toList)) ∧
    ∀ q, parse registry options text = .ok q →
      List.Forall₂ (fun t clause => ∀ c, t.content = .keyword c →
        (registry.recognizes c = true → ∃ parsed, clause.node =
          .directive ⟨c.toArgument, parsed, clause.occur = .mustNot⟩ ⟨t.textStart, t.span.stop⟩) ∧
        (registry.recognizes c = false → clause.node =
          .word (c.asWord (t.source text.toList)) ⟨t.textStart, t.span.stop⟩))
        (Token.scan 0 true text.toList) q.clauses := by
  constructor
  · intro t ht c hc
    exact Candidate.isWritten_of_says (Token.says_of_mem_scan ht hc)
  · intro q hparse
    rw [clauses_of_parse hparse, List.forall₂_map_right_iff, List.forall₂_same]
    intro t ht c hc
    exact node_of_candidate registry options ht hc

/-- Candidates with an escaped quote and a suffix, with an escaped blank, and without a closing
quote. -/
theorem word_of_candidate_of_escapes :
    ∃ q a b c, parse (.builtin {}) {} "+nope:\"a\\\"b\"c -x:d\\ e incategory:\"_" = .ok q ∧
      q.clauses = [a, b, c] ∧ a.node = .word "nope:\"a\\\"b\"c" ⟨1, 13⟩ ∧
      b.node = .word "x:d e" ⟨15, 21⟩ ∧ c.node = .word "incategory:\"_" ⟨22, 35⟩ ∧
      (⟨⟨"x", "d e", "d e", none, ""⟩, "x:d e"⟩ : Candidate).IsBare "x:d\\ e".toList := by
  have hscan : Token.scan 0 true "+nope:\"a\\\"b\"c -x:d\\ e incategory:\"_".toList =
      [⟨.keyword ⟨⟨"nope", "a\"b", "\"a\\\"b\"", some '"', "c"⟩, "nope:\"a\\\"b\"c"⟩,
          some .require, ⟨0, 13⟩, 1⟩,
        ⟨.keyword ⟨⟨"x", "d e", "d e", none, ""⟩, "x:d e"⟩, some .exclude, ⟨14, 21⟩, 15⟩,
        ⟨.keyword ⟨⟨"incategory", "_", "\"_", some '"', ""⟩, "incategory:\"_"⟩, none,
          ⟨22, 35⟩, 22⟩] := by
    decide +kernel
  obtain ⟨q, hparse⟩ : ∃ q, parse (.builtin {}) {}
      "+nope:\"a\\\"b\"c -x:d\\ e incategory:\"_" = .ok q :=
    ⟨_, parse_of_length_le _ _ _ (by decide)⟩
  obtain ⟨hwritten, hnodes⟩ := word_of_candidate (.builtin {}) {}
    "+nope:\"a\\\"b\"c -x:d\\ e incategory:\"_"
  have hclauses := hnodes q hparse
  rw [hscan] at hwritten hclauses
  -- one clause for each of the three candidates, none of which is recognized
  generalize hq : q.clauses = clauses at hclauses
  obtain _ | ⟨hnope, _ | ⟨hx, _ | ⟨hcategory, _ | _⟩⟩⟩ := hclauses
  have hnope := (hnope _ rfl).2 (by decide +kernel)
  have hx := (hx _ rfl).2 (by decide +kernel)
  have hcategory := (hcategory _ rfl).2 (by decide +kernel)
  refine ⟨q, _, _, _, hparse, hq, hnope.trans ?_, hx.trans ?_, hcategory.trans ?_, ?_⟩
  · exact congrArg (Node.word · ⟨1, 13⟩) (by decide +kernel)
  · exact congrArg (Node.word · ⟨15, 21⟩) (by decide +kernel)
  · exact congrArg (Node.word · ⟨22, 35⟩) (by decide +kernel)
  · rcases hwritten _ (List.mem_cons_of_mem _ (List.mem_cons_self ..)) _ rfl with ⟨ps, h⟩ | h
    · exact absurd h.delimiter (by decide)
    · exact h

end Query

end WikiSearch
