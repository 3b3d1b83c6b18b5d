import Mathlib.Algebra.GroupWithZero.Nat
import WikiSearch.Proofs.Readers
import WikiSearch.Query.Parser

/-!
# WikiSearch — what reading a query comes to

Reading a query checks two limits and then turns every token into a clause. The
lemmas here say so in one equation, and say what a clause keeps of its token, so
that no later proof opens the reader again.

* `parse_eq` — reading as two length checks in front of a query that is always there;
  `parse_eq_error_iff`, `parse_eq_ok_iff` — when it fails, and when it does not.
* `clauses_of_parse` — the clauses of a query that was read, token by token.
* `span_tokenClause`, `explicit_tokenClause`, `nodeSpan_tokenClause` — what a clause
  keeps of its token.
* `isLeaf_of_parse` — a query that was read is flat, and has no empty words.
-/

namespace WikiSearch

/-- Whether a candidate becomes a directive: its keyword is registered, the keyword
takes a quoted value if there is one, and the value can be read. -/
def Registry.recognizes (registry : Registry) (c : Candidate) : Bool :=
  match registry.find? c.key with
  | none => false
  | some feature =>
    (c.delimiter.isNone || feature.acceptsQuoted) && (feature.read c.toArgument).1.isSome

/-- The nodes that a token can become: words that are not empty, phrases and directives. -/
inductive Node.IsLeaf : Node → Prop where
  | word {text : String} (span : Span) : text ≠ "" → IsLeaf (.word text span)
  | phrase (phrase : Phrase) (span : Span) : IsLeaf (.phrase phrase span)
  | directive (directive : Directive) (span : Span) : IsLeaf (.directive directive span)

namespace Query

/-! ## Candidates -/

section Candidates

variable {registry : Registry} {c : Candidate}

/-- A candidate that is recognized becomes a directive. -/
theorem resolve_of_recognizes (h : registry.recognizes c = true) (negated : Bool) (span : Span) :
    ∃ parsed, (resolve registry c negated span).1 =
      .directive ⟨c.toArgument, parsed, negated⟩ span := by
  rw [Registry.recognizes] at h
  rw [resolve]
  cases hfind : registry.find? c.key with
  | none =>
    rw [hfind] at h
    contradiction
  | some feature =>
    rw [hfind] at h
    simp only [Bool.and_eq_true, Option.isSome_iff_exists] at h ⊢
    obtain ⟨hquoted, parsed, hparsed⟩ := h
    -- the value is not in quotes that the keyword refuses
    rw [if_neg (by cases hd : c.delimiter <;> simp_all)]
    rcases hread : feature.read c.toArgument with ⟨value, warnings⟩
    rw [hread] at hparsed
    exact ⟨parsed, by rw [show value = some parsed from hparsed]⟩

/-- Any other candidate becomes its literal. -/
theorem resolve_of_not_recognizes (h : registry.recognizes c = false) (negated : Bool)
    (span : Span) : (resolve registry c negated span).1 = .word c.literal span := by
  rw [Registry.recognizes] at h
  rw [resolve]
  cases hfind : registry.find? c.key with
  | none => rfl
  | some feature =>
    rw [hfind] at h
    simp only at h ⊢
    split
    · -- refused quotes
      rfl
    · -- then it is the value that cannot be read
      rename_i hquoted
      rcases hread : feature.read c.toArgument with ⟨value, warnings⟩
      cases value with
      | none => rfl
      | some parsed => cases hd : c.delimiter <;> simp_all

/-- A candidate becomes a directive or its literal. -/
theorem resolve_cases (registry : Registry) (c : Candidate) (negated : Bool) (span : Span) :
    (∃ parsed, (resolve registry c negated span).1 =
      .directive ⟨c.toArgument, parsed, negated⟩ span) ∨
    (resolve registry c negated span).1 = .word c.literal span := by
  cases hc : registry.recognizes c with
  | true => exact .inl (resolve_of_recognizes hc negated span)
  | false => exact .inr (resolve_of_not_recognizes hc negated span)

/-- A keyword that takes values in quotes decides by the value alone. -/
theorem resolve_of_find {feature : Feature} (hfind : registry.find? c.key = some feature)
    (hquoted : feature.acceptsQuoted = true) (negated : Bool) (span : Span) :
    resolve registry c negated span =
      (match (feature.read c.toArgument).1 with
        | none => .word c.literal span
        | some parsed => .directive ⟨c.toArgument, parsed, negated⟩ span,
        (feature.read c.toArgument).2) := by
  rw [resolve, hfind]
  simp only [hquoted, Bool.not_true, Bool.and_false, Bool.false_eq_true, if_false]
  rcases feature.read c.toArgument with ⟨value, warnings⟩
  cases value <;> rfl

/-- A warning about a candidate comes from the feature of its keyword. -/
theorem exists_feature_of_warning {negated : Bool} {span : Span} {w : Warning}
    (h : w ∈ (resolve registry c negated span).2) :
    ∃ feature, registry.find? c.key = some feature ∧ w ∈ (feature.read c.toArgument).2 := by
  rw [resolve] at h
  cases hfind : registry.find? c.key with
  | none => simp [hfind] at h
  | some feature =>
    rw [hfind] at h
    refine ⟨feature, rfl, ?_⟩
    simp only at h
    split at h
    · simp at h
    · rcases hread : feature.read c.toArgument with ⟨value, warnings⟩
      rw [hread] at h
      cases value <;> exact h

end Candidates

/-! ## Tokens and clauses -/

section Clauses

variable (registry : Registry) (options : QueryOptions) (t : Token)

@[simp]
theorem span_tokenClause : (tokenClause registry options t).1.span = t.span := rfl

@[simp]
theorem node_tokenClause :
    (tokenClause registry options t).1.node =
      (tokenNode registry ((t.occur options).1 = .mustNot) t).1 := rfl

/-- How a clause takes part is written in the query exactly if its token has a sign. -/
@[simp]
theorem explicit_tokenClause :
    (tokenClause registry options t).1.explicit = t.sign.isSome := by
  simp only [tokenClause, Token.occur]
  cases t.sign with
  | none => rfl
  | some s => cases s <;> rfl

/-- What becomes of a candidate stands where it stood. -/
@[simp]
theorem span_resolve (c : Candidate) (negated : Bool) (span : Span) :
    (resolve registry c negated span).1.span = span := by
  rcases resolve_cases registry c negated span with ⟨parsed, hresolve⟩ | hresolve
  · rw [hresolve]
    rfl
  · rw [hresolve]
    rfl

/-- A node stands behind the sign of its token. -/
theorem nodeSpan_tokenClause :
    (tokenClause registry options t).1.node.span = ⟨t.textStart, t.span.stop⟩ := by
  simp only [node_tokenClause, tokenNode]
  cases t.content with
  | word text => rfl
  | phrase p => rfl
  | keyword c => exact span_resolve registry c _ _

/-- What becomes a directive is a candidate. -/
theorem exists_candidate_of_node {registry : Registry} {options : QueryOptions} {t : Token}
    {k : Directive} {s : Span} (h : (tokenClause registry options t).1.node = .directive k s) :
    ∃ c, t.content = .keyword c ∧ (resolve registry c ((t.occur options).1 = .mustNot)
      ⟨t.textStart, t.span.stop⟩).1 = .directive k s := by
  rw [node_tokenClause, tokenNode] at h
  cases hcontent : t.content with
  | word text => simp [hcontent] at h
  | phrase p => simp [hcontent] at h
  | keyword c =>
    rw [hcontent] at h
    exact ⟨c, rfl, h⟩

/-- What becomes a phrase is one. -/
theorem content_of_phrase {registry : Registry} {options : QueryOptions} {t : Token} {p : Phrase}
    {s : Span} (h : (tokenClause registry options t).1.node = .phrase p s) :
    t.content = .phrase p := by
  rw [node_tokenClause, tokenNode] at h
  cases hcontent : t.content with
  | word text => simp [hcontent] at h
  | phrase p' =>
    rw [hcontent] at h
    rw [(Node.phrase.inj h).1]
  | keyword c =>
    rw [hcontent] at h
    simp only at h
    -- a candidate becomes a directive or a word
    rcases resolve_cases registry c ((t.occur options).1 = .mustNot) ⟨t.textStart, t.span.stop⟩
      with ⟨parsed, hresolve⟩ | hresolve
    · rw [hresolve] at h
      contradiction
    · rw [hresolve] at h
      contradiction

/-- A token with text becomes one of the three kinds of nodes. -/
theorem isLeaf_tokenNode {t : Token} (negated : Bool) (h : t.content.HasText) :
    (tokenNode registry negated t).1.IsLeaf := by
  unfold tokenNode
  cases hcontent : t.content with
  | word text =>
    rw [hcontent] at h
    exact .word _ h
  | phrase p => exact .phrase p _
  | keyword c =>
    rw [hcontent] at h
    simp only
    -- the literal of a candidate is not empty, which is all that a word needs
    rcases resolve_cases registry c negated ⟨t.textStart, t.span.stop⟩ with
      ⟨parsed, hresolve⟩ | hresolve
    · rw [hresolve]
      exact .directive _ _
    · rw [hresolve]
      exact .word _ h

end Clauses

end Query

/-! ## Exempt candidates -/

namespace Token

/-- Whether a token is a candidate whose keyword is exempt from the length limit. -/
def isExempt (options : QueryOptions) (t : Token) : Bool :=
  match t.content with
  | .keyword c => options.isExempt c.key
  | _ => false

/-- The length of the exempt candidates among some tokens, signs included. -/
def exemptTotal (options : QueryOptions) (tokens : List Token) : Nat :=
  ((tokens.filter (·.isExempt options)).map (·.span.length)).sum

/-- A token takes its length off if it is exempt, and nothing if it is not. -/
theorem exemptLength_eq (options : QueryOptions) (t : Token) :
    t.exemptLength options = if t.isExempt options then t.span.length else 0 := by
  rw [exemptLength, isExempt]
  cases t.content <;> rfl

/-- Adding up what the tokens take off one by one comes to the length of the exempt
candidates. -/
theorem foldl_exemptLength (options : QueryOptions) (n : Nat) (tokens : List Token) :
    tokens.foldl (fun n t => n + t.exemptLength options) n = n + exemptTotal options tokens := by
  -- on the tokens, from any length that was taken off so far
  induction tokens generalizing n with
  | nil => rfl
  | cons t ts ih =>
    rw [List.foldl_cons, ih, exemptLength_eq, exemptTotal, exemptTotal, List.filter_cons]
    split
    · rw [List.map_cons, List.sum_cons, Nat.add_assoc]
    · rfl

end Token

namespace Query

/-! ## Reading as one equation -/

/-- The query that is read from a text that is not too long. -/
def ofTokens (registry : Registry) (options : QueryOptions) (text : String)
    (tokens : List Token) : Query :=
  ⟨text, tokens.map fun t => (tokenClause registry options t).1,
    tokens.flatMap fun t => (tokenClause registry options t).2⟩

/-- The length is counted again without the exempt candidates, if it is too large with them. -/
theorem checkLength_eq (options : QueryOptions) (length : Nat) (tokens : List Token) :
    checkLength options length tokens =
      if length > options.effectiveLimit ∧
          length - Token.exemptTotal options tokens > options.effectiveLimit then
        .error ⟨length - Token.exemptTotal options tokens, options.effectiveLimit,
          Token.exemptTotal options tokens > 0⟩
      else .ok () := by
  rw [checkLength, Token.foldl_exemptLength, Nat.zero_add]
  split
  · rw [if_neg (by omega)]
  · rw [if_pos (by omega)]

/-- **Reading a query.** The hard limit comes first, then the soft limit on what the
exempt candidates leave; nothing else is refused. -/
theorem parse_eq (registry : Registry) (options : QueryOptions) (text : String) :
    parse registry options text =
      let n := text.toList.length
      let tokens := Token.scan 0 true text.toList
      let rest := n - Token.exemptTotal options tokens
      if n > hardLengthLimit then .error ⟨n, hardLengthLimit, false⟩
      else if n > options.effectiveLimit ∧ rest > options.effectiveLimit then
        .error ⟨rest, options.effectiveLimit, Token.exemptTotal options tokens > 0⟩
      else .ok (ofTokens registry options text tokens) := by
  simp only [parse, checkedChars_eq]
  -- the tokens are read only below the hard limit
  by_cases hhard : text.toList.length > hardLengthLimit
  · rw [if_pos hhard, if_pos hhard]
    rfl
  · rw [if_neg hhard, if_neg hhard]
    -- the characters are there, and the soft limit decides
    simp only [bind, Except.bind, checkLength_eq]
    by_cases hsoft : text.toList.length > options.effectiveLimit ∧
        text.toList.length - Token.exemptTotal options (Token.scan 0 true text.toList)
          > options.effectiveLimit
    · rw [if_pos hsoft, if_pos hsoft]
    · rw [if_neg hsoft, if_neg hsoft, ofTokens]
      simp [pure, Except.pure, List.map_map, List.flatMap_map, Function.comp_def]

theorem effectiveLimit_le (options : QueryOptions) :
    options.effectiveLimit ≤ hardLengthLimit := Nat.min_le_right _ _

section Outcome

variable {registry : Registry} {options : QueryOptions} {text : String} {q : Query} {e : TooLong}

/-- A text is refused by the hard limit, or else by the soft one. -/
theorem parse_eq_error_iff :
    parse registry options text = .error e ↔
      let n := text.toList.length
      let exempt := Token.exemptTotal options (Token.scan 0 true text.toList)
      (n > hardLengthLimit ∧ e = ⟨n, hardLengthLimit, false⟩) ∨
      (n ≤ hardLengthLimit ∧ n > options.effectiveLimit ∧ n - exempt > options.effectiveLimit ∧
        e = ⟨n - exempt, options.effectiveLimit, exempt > 0⟩) := by
  rw [parse_eq]
  simp only
  split
  case isTrue hhard =>
    -- above the hard limit nothing else is looked at
    rw [Except.error.injEq, eq_comm]
    simp only [hhard, Nat.not_le.mpr hhard, true_and, false_and, or_false]
  case isFalse hhard =>
    split
    case isTrue hsoft =>
      rw [Except.error.injEq, eq_comm]
      simp only [hhard, Nat.not_lt.mp hhard, hsoft, true_and, false_and, false_or]
    case isFalse hsoft =>
      constructor
      · intro h
        contradiction
      · rintro (⟨hlong, -⟩ | ⟨-, hlong, hrest, -⟩)
        · exact absurd hlong hhard
        · exact absurd ⟨hlong, hrest⟩ hsoft

/-- A text that neither limit refuses is read, and its tokens make up the query. -/
theorem parse_eq_ok_iff :
    parse registry options text = .ok q ↔
      let n := text.toList.length
      let tokens := Token.scan 0 true text.toList
      n ≤ hardLengthLimit ∧
      (n ≤ options.effectiveLimit ∨
        n - Token.exemptTotal options tokens ≤ options.effectiveLimit) ∧
      q = ofTokens registry options text tokens := by
  rw [parse_eq]
  simp only
  split
  case isTrue hhard =>
    simp only [Nat.not_le.mpr hhard, false_and, reduceCtorEq]
  -- below the hard limit only the soft one can refuse, with or without exempt candidates
  case isFalse hhard =>
    split
    case isTrue hsoft =>
      simp only [Nat.not_le.mpr hsoft.1, Nat.not_le.mpr hsoft.2, or_self, false_and, and_false,
        reduceCtorEq]
    case isFalse hsoft =>
      rw [Except.ok.injEq, eq_comm]
      constructor
      · intro h
        exact ⟨by omega, by omega, h⟩
      · rintro ⟨-, -, h⟩
        exact h

/-- A text within the soft limit is read, whatever it holds. -/
theorem parse_of_length_le (registry : Registry) (options : QueryOptions) (text : String)
    (h : text.toList.length ≤ options.effectiveLimit) :
    parse registry options text =
      .ok (ofTokens registry options text (Token.scan 0 true text.toList)) :=
  parse_eq_ok_iff.mpr ⟨Nat.le_trans h (effectiveLimit_le options), .inl h, rfl⟩

/-- A query that was read has a clause for each token. -/
theorem clauses_of_parse (h : parse registry options text = .ok q) :
    q.clauses =
      (Token.scan 0 true text.toList).map fun t => (tokenClause registry options t).1 := by
  rw [(parse_eq_ok_iff.mp h).2.2]
  rfl

/-- A query that was read holds words, phrases and directives, and no word is empty. -/
theorem isLeaf_of_parse (h : parse registry options text = .ok q) :
    ∀ c ∈ q.clauses, c.node.IsLeaf := by
  intro c hc
  rw [clauses_of_parse h] at hc
  obtain ⟨t, ht, rfl⟩ := List.mem_map.mp hc
  exact isLeaf_tokenNode registry _ (Token.hasText_of_mem_scan ht)

end Outcome

end Query

end WikiSearch
