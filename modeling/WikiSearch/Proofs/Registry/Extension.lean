import WikiSearch.Proofs.Parsing
import WikiSearch.Proofs.Registry.Building

/-!
# WikiSearch — extensions do not disturb each other

A source of further features can be added to those that make up a registry. All features share
one list in which keys are looked up and one list of warnings, so what has to be shown is that
the new ones cannot get in the way of the old ones: a key that was found before is found in the
same place, as no keyword is claimed twice, and what a token adds to a query hangs on the key
that is written in it and on nothing else.

So the two readings of a text, without the extension and with it, are compared token by token
(`Comparison`): what is not claimed by the extension stays as it is, and what is claimed was a
plain word before, about which there was nothing to warn.

Main results:

* `find?_extended` — a look-up in an extended registry.
* `isIsolated_compare` — the two readings of one token.
* `extension_isolated` — the two readings of a text.
-/

namespace WikiSearch

/-- Whether a token is a candidate for a directive with a keyword of one of some features, in any
case. -/
def Token.IsClaimed (features : List Feature) (t : Token) : Prop :=
  ∃ c, t.content = .keyword c ∧ ∃ f ∈ features, f.Has c.key

instance (features : List Feature) (t : Token) : Decidable (t.IsClaimed features) :=
  match h : t.content with
  | .keyword c => decidable_of_iff (∃ f ∈ features, f.Has c.key) (by simp [Token.IsClaimed, h])
  | .word text => isFalse (by simp [Token.IsClaimed, h])
  | .phrase p => isFalse (by simp [Token.IsClaimed, h])

namespace Registry

section Extended

variable {steps : List Step} {r r' : Registry} {name : String} {features : List Feature}

/-- An extended registry holds the features of the extension behind the others. -/
theorem features_extended (h : build steps = .ok r)
    (h' : build (steps ++ [.source name features]) = .ok r') :
    r'.features = r.features ++ features := by
  obtain ⟨-, rfl⟩ := build_eq_ok_iff.mp h
  obtain ⟨-, rfl⟩ := build_eq_ok_iff.mp h'
  show (retained (steps ++ [.source name features])).map (·.feature) =
    (retained steps).map (·.feature) ++ features
  rw [← foldl_apply_nil, ← foldl_apply_nil, List.foldl_append]
  show (steps.foldl Step.apply [] ++ registeredBy name features).map (·.feature) = _
  rw [List.map_append, map_feature_registeredBy]

/-- **A look-up in an extended registry** finds what was found before, and only otherwise a feature
of the extension. -/
theorem find?_extended (h : build steps = .ok r)
    (h' : build (steps ++ [.source name features]) = .ok r') (key : String) :
    r'.find? key = (r.find? key).or (features.find? (·.answersTo key)) := by
  rw [find?, features_extended h h', List.find?_append]
  rfl

/-- For a key of the extension, nothing was found before. -/
theorem find?_eq_none_of_has (h : build steps = .ok r)
    (h' : build (steps ++ [.source name features]) = .ok r') {f : Feature} (hf : f ∈ features)
    {key : String} (hkey : f.Has key) : r.find? key = none := by
  obtain ⟨hdistinct, hentries⟩ := build_eq_ok_iff.mp h'
  have hapart : r'.features.Pairwise fun f g =>
      f.answersTo key = true → g.answersTo key = false := by
    refine pairwise_answersTo ?_ key
    rw [hentries]
    exact hdistinct
  -- in the larger registry the features of the extension stand behind the others
  rw [features_extended h h', List.pairwise_append] at hapart
  rw [find?, List.find?_eq_none]
  intro g hg hanswers
  have hnot := hapart.2.2 g hg f hf hanswers
  rw [Feature.answersTo_iff.mpr hkey] at hnot
  contradiction

end Extended

end Registry

namespace Query

/-! ## Two readings of a token -/

/-- A token with its clauses in two readings, the warnings about it in the first one, and those
that the second one adds. -/
structure Comparison where
  token : Token
  before : Clause Node
  after : Clause Node
  own : List Warning
  added : List Warning

/-- What some features may do to a token between two readings. -/
structure Comparison.IsIsolated (features : List Feature) (x : Comparison) : Prop where
  span_eq : x.after.span = x.before.span
  nodeSpan_eq : x.after.node.span = x.before.node.span
  occur_eq : x.after.occur = x.before.occur
  explicit_eq : x.after.explicit = x.before.explicit
  /-- Tokens that the features do not claim stay as they are. -/
  eq_of_not_claimed : ¬ x.token.IsClaimed features → x.after = x.before ∧ x.added = []
  /-- Those that they claim were plain words, without warnings. -/
  word_of_claimed : x.token.IsClaimed features → x.own = [] ∧ ∃ c, x.token.content = .keyword c ∧
    x.before.node = .word c.literal ⟨x.token.textStart, x.token.span.stop⟩
  /-- Warnings that are added come from one of the features. -/
  raised : ∀ w ∈ x.added, ∃ c, x.token.content = .keyword c ∧
    ∃ f ∈ features, f.Has c.key ∧ w ∈ (f.read c.toArgument).2

/-- A token in the readings with two registries. -/
def compare (r r' : Registry) (options : QueryOptions) (t : Token) : Comparison where
  token := t
  before := (tokenClause r options t).1
  after := (tokenClause r' options t).1
  own := (tokenClause r options t).2
  added := (tokenClause r' options t).2.drop (tokenClause r options t).2.length

/-- What becomes of a candidate hangs on the feature of its key alone. -/
theorem resolve_congr {r r' : Registry} {c : Candidate} (h : r'.find? c.key = r.find? c.key)
    (negated : Bool) (span : Span) : resolve r' c negated span = resolve r c negated span := by
  rw [resolve, resolve, h]

/-- A candidate without a feature becomes a plain word, without warnings. -/
theorem resolve_of_find?_eq_none {r : Registry} {c : Candidate} (h : r.find? c.key = none)
    (negated : Bool) (span : Span) : resolve r c negated span = (.word c.literal span, []) := by
  rw [resolve, h]

/-- A token that is one adds a plain word to a query, and no warnings. -/
theorem tokenClause_of_find?_eq_none {r : Registry} {t : Token} {c : Candidate}
    (options : QueryOptions) (hcontent : t.content = .keyword c) (h : r.find? c.key = none) :
    (tokenClause r options t).2 = [] ∧
      (tokenClause r options t).1.node = .word c.literal ⟨t.textStart, t.span.stop⟩ := by
  unfold tokenClause tokenNode
  simp only [hcontent, resolve_of_find?_eq_none h, and_self]

section Tokens

variable {steps : List Registry.Step} {r r' : Registry} {name : String} {features : List Feature}
  (options : QueryOptions) {t : Token}

theorem tokenClause_of_not_claimed (h : Registry.build steps = .ok r)
    (h' : Registry.build (steps ++ [.source name features]) = .ok r')
    (hnot : ¬ t.IsClaimed features) : tokenClause r' options t = tokenClause r options t := by
  unfold tokenClause tokenNode
  cases hcontent : t.content with
  | word text => rfl
  | phrase p => rfl
  | keyword c =>
    have hnone : features.find? (·.answersTo c.key) = none := by
      rw [List.find?_eq_none]
      intro f hf hanswers
      exact hnot ⟨c, hcontent, f, hf, Feature.answersTo_iff.mp hanswers⟩
    -- no feature of the extension answers, so the look-up ends as it did before
    have hfind : r'.find? c.key = r.find? c.key := by
      rw [Registry.find?_extended h h', hnone, Option.or_none]
    simp only [resolve_congr hfind]

theorem tokenClause_of_claimed (h : Registry.build steps = .ok r)
    (h' : Registry.build (steps ++ [.source name features]) = .ok r')
    (hclaimed : t.IsClaimed features) :
    (tokenClause r options t).2 = [] ∧ ∃ c, t.content = .keyword c ∧
      (tokenClause r options t).1.node = .word c.literal ⟨t.textStart, t.span.stop⟩ := by
  obtain ⟨c, hcontent, f, hf, hkey⟩ := hclaimed
  have hnone := Registry.find?_eq_none_of_has h h' hf hkey
  obtain ⟨hsilent, hword⟩ := tokenClause_of_find?_eq_none options hcontent hnone
  exact ⟨hsilent, c, hcontent, hword⟩

/-- A warning about a token of the extension comes from a feature of the extension. -/
theorem raised_of_claimed (h : Registry.build steps = .ok r)
    (h' : Registry.build (steps ++ [.source name features]) = .ok r')
    (hclaimed : t.IsClaimed features) {w : Warning} (hw : w ∈ (tokenClause r' options t).2) :
    ∃ c, t.content = .keyword c ∧ ∃ f ∈ features, f.Has c.key ∧ w ∈ (f.read c.toArgument).2 := by
  obtain ⟨c, hcontent, f, hf, hkey⟩ := hclaimed
  have hnone := Registry.find?_eq_none_of_has h h' hf hkey
  unfold tokenClause tokenNode at hw
  simp only [hcontent] at hw
  obtain ⟨feature, hfind, hread⟩ := exists_feature_of_warning hw
  -- the key was not found before, so the feature is one of the extension
  rw [Registry.find?_extended h h', hnone, Option.none_or] at hfind
  have hanswers : feature.answersTo c.key = true :=
    List.find?_some (p := fun f : Feature => f.answersTo c.key) hfind
  exact ⟨c, hcontent, feature, List.mem_of_find?_eq_some hfind, Feature.answersTo_iff.mp hanswers,
    hread⟩

/-- **Two readings of one token.** The extension has no part in it, or it takes over a plain
word. -/
theorem isIsolated_compare (h : Registry.build steps = .ok r)
    (h' : Registry.build (steps ++ [.source name features]) = .ok r') :
    (compare r r' options t).IsIsolated features ∧
      (tokenClause r' options t).2 =
        (compare r r' options t).own ++ (compare r r' options t).added := by
  have hspan : (compare r r' options t).after.node.span =
      (compare r r' options t).before.node.span := by
    show (tokenClause r' options t).1.node.span = (tokenClause r options t).1.node.span
    rw [nodeSpan_tokenClause, nodeSpan_tokenClause]
  by_cases hclaimed : t.IsClaimed features
  · obtain ⟨hnone, hword⟩ := tokenClause_of_claimed options h h' hclaimed
    -- so all warnings of the second reading are added ones
    have hadded : (compare r r' options t).added = (tokenClause r' options t).2 := by
      show (tokenClause r' options t).2.drop (tokenClause r options t).2.length = _
      rw [hnone, List.length_nil, List.drop_zero]
    refine ⟨⟨rfl, hspan, rfl, rfl, fun hnot => absurd hclaimed hnot, fun _ => ⟨hnone, hword⟩, ?_⟩,
      ?_⟩
    · intro w hw
      rw [hadded] at hw
      exact raised_of_claimed options h h' hclaimed hw
    · rw [hadded]
      show _ = (tokenClause r options t).2 ++ _
      rw [hnone, List.nil_append]
  · have hsame := tokenClause_of_not_claimed options h h' hclaimed
    have hadded : (compare r r' options t).added = [] := by
      show (tokenClause r' options t).2.drop (tokenClause r options t).2.length = []
      rw [hsame, List.drop_length]
    have hafter : (compare r r' options t).after = (compare r r' options t).before :=
      congrArg Prod.fst hsame
    refine ⟨⟨rfl, hspan, rfl, rfl, fun _ => ⟨hafter, hadded⟩, fun hyes => absurd hyes hclaimed, ?_⟩,
      ?_⟩
    · intro w hw
      rw [hadded] at hw
      contradiction
    · rw [hadded, List.append_nil]
      exact congrArg Prod.snd hsame

end Tokens

/-! ## Main result -/

/-- **Extensions are isolated.** Let a registry be built, and let it still be built with a source
of further features added, whatever these are. Then a text is refused under both registries or
under none of them, and for the same reason. If it is read, both readings have a clause for each
token of the text, and these clauses stand in the same places and take part in the same way.
Where a token is no candidate with a keyword of the extension, they are the same; where it is
one, it was a plain word before. The warnings are those from before, and those that a feature of
the extension raises about such a token come in the place of that token. -/
theorem extension_isolated {steps : List Registry.Step} {r r' : Registry} {name : String}
    {features : List Feature} (h : Registry.build steps = .ok r)
    (h' : Registry.build (steps ++ [.source name features]) = .ok r') (options : QueryOptions)
    (text : String) :
    (∀ e, parse r options text = .error e ↔ parse r' options text = .error e) ∧
    ∀ q, parse r options text = .ok q → ∃ q', parse r' options text = .ok q' ∧
      ∃ rows : List Comparison, rows.map (·.token) = Token.scan 0 true text.toList ∧
        q.clauses = rows.map (·.before) ∧ q'.clauses = rows.map (·.after) ∧
        q.warnings = rows.flatMap (·.own) ∧
        q'.warnings = rows.flatMap (fun x => x.own ++ x.added) ∧
        ∀ x ∈ rows, x.IsIsolated features := by
  refine ⟨fun e => by rw [parse_eq_error_iff, parse_eq_error_iff], ?_⟩
  intro q hq
  obtain ⟨hhard, hsoft, rfl⟩ := parse_eq_ok_iff.mp hq
  -- the limits do not depend on the registry
  refine ⟨_, parse_eq_ok_iff.mpr ⟨hhard, hsoft, rfl⟩,
    (Token.scan 0 true text.toList).map (compare r r' options), ?_, ?_, ?_, ?_, ?_, ?_⟩
  · simp [compare, Function.comp_def]
  · simp [compare, ofTokens, Function.comp_def]
  · simp [compare, ofTokens, Function.comp_def]
  · simp [compare, ofTokens, List.flatMap_map]
  · rw [List.flatMap_map]
    exact List.flatMap_congr fun t _ => (isIsolated_compare options h h').2
  · rw [List.forall_mem_map]
    intro t _
    exact (isIsolated_compare options h h').1

/-- An extension that refuses every value adds its warnings around the one that was there. -/
theorem extension_isolated_of_refusals :
    let notes : Feature :=
      ⟨"notes", ["note"], true, fun arg => (none, [⟨"refused", [arg.value]⟩]), fun _ _ => none⟩
    ∃ r r', Registry.build [.builtins {}] = .ok r ∧
      Registry.build ([.builtins {}] ++ [.source "ext" [notes]]) = .ok r' ∧
      ∃ q q', parse r {} "NOTE:a pageid:x -note:b" = .ok q ∧
        parse r' {} "NOTE:a pageid:x -note:b" = .ok q' ∧
        q.warnings = [⟨Warning.invalidPageId, ["x", "1"]⟩] ∧
        q'.warnings =
          [⟨"refused", ["a"]⟩, ⟨Warning.invalidPageId, ["x", "1"]⟩, ⟨"refused", ["b"]⟩] ∧
        ∃ rows : List Comparison, q.clauses = rows.map (·.before) ∧
          q'.clauses = rows.map (·.after) ∧ ∀ x ∈ rows, x.IsIsolated [notes] := by
  intro notes
  have h : Registry.build [.builtins {}] = .ok ⟨Registry.retained [.builtins {}]⟩ :=
    Registry.build_eq_ok_iff.mpr ⟨by decide +kernel, rfl⟩
  have h' : Registry.build ([.builtins {}] ++ [.source "ext" [notes]]) =
      .ok ⟨Registry.retained ([.builtins {}] ++ [.source "ext" [notes]])⟩ :=
    Registry.build_eq_ok_iff.mpr ⟨by decide +kernel, rfl⟩
  have hq := parse_of_length_le ⟨Registry.retained [.builtins {}]⟩ {} "NOTE:a pageid:x -note:b"
    (by decide)
  -- the rows compare the clauses, and the warnings are looked at as they are
  obtain ⟨q', hq', rows, -, hbefore, hafter, -, -, hisolated⟩ :=
    (extension_isolated h h' {} "NOTE:a pageid:x -note:b").2 _ hq
  refine ⟨_, _, h, h', _, q', hq, hq', by decide +kernel, ?_, rows, hbefore, hafter, hisolated⟩
  rw [(parse_eq_ok_iff.mp hq').2.2]
  decide +kernel

end Query

end WikiSearch
