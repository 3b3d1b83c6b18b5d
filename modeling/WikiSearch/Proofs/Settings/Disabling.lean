import WikiSearch.Proofs.Keyword.Meaning
import WikiSearch.Proofs.Registry.Extension
import WikiSearch.Settings.Concern

/-!
# WikiSearch — disabled keywords

Names can be disabled in the settings, any names and in any case. A feature goes as a whole if one
of its keywords is disabled, so to disable one keyword of a feature is to disable its other ones.
Three parts of the program come to terms with this list, each in its own way: the registry is
built from the features that stay; a query is read by looking keys up in that registry; and
what is doubtful about the settings is decided with two registries, the one that was built and
the one that would be built if nothing were disabled.

All of it is said here of the list itself and of the keywords of the built-in features
(`Drops`), so that the three parts have to agree. The step that needs an argument is that a
keyword of a dropped feature is not answered by one that stays: built-in features have no keyword
in common (`eq_of_has`).

Main results:

* `registry_eq` — the registry is built, whatever is disabled.
* `Drops.find?_eq_none` — no keyword of a dropped feature is found.
* `concerns_eq` — what is reported.
* `registry_of_disabled` — what disabling comes to.
-/

namespace WikiSearch

/-! ## The built-in keywords -/

/-- All kinds of built-in keywords, in the order of registration. -/
def Builtin.all : List Builtin := [.category, .topic, .pageId, .recommendation, .fileProperty]

section Builtin

variable (caps : Caps)

/-- The caps have no part in which keywords there are. -/
theorem keywords_builtinFeatures :
    (builtinFeatures caps).map (·.keywords) = Builtin.all.map Builtin.keywords := by
  show (Builtin.all.map (·.feature caps)).map (·.keywords) = _
  simp only [List.map_map, Function.comp_def, Builtin.keywords_feature]

/-- Whether a built-in feature has a key can be told from the kinds alone. -/
theorem exists_has_iff {key : String} :
    (∃ f ∈ builtinFeatures caps, f.Has key) ↔
      ∃ kind ∈ Builtin.all, ∃ k ∈ kind.keywords, Text.SameUpToCase k key := by
  have hkeywords : (∃ f ∈ builtinFeatures caps, f.Has key) ↔
      ∃ keywords ∈ (builtinFeatures caps).map (·.keywords),
        ∃ k ∈ keywords, Text.SameUpToCase k key := by
    simp [Feature.Has]
  rw [hkeywords, keywords_builtinFeatures]
  simp

/-- No two built-in keywords have the same name, in any case. -/
theorem nodup_names_builtin : (Registry.names (Registry.builtin caps).entries).Nodup := by
  have hnames : Registry.names (Registry.builtin caps).entries =
      ((builtinFeatures caps).map (·.keywords)).flatMap (·.map Text.foldName) := by
    simp [Registry.names, Registry.builtin, registeredBy, List.flatMap_map]
  rw [hnames, keywords_builtinFeatures]
  decide +kernel

theorem features_builtin : (Registry.builtin caps).features = builtinFeatures caps :=
  Registry.map_feature_registeredBy ..

end Builtin

namespace Settings

/-! ## The registry -/

/-- A feature is dropped if one of its keywords is disabled, in any case. -/
def Drops (s : Settings) (f : Feature) : Prop := ∃ entry ∈ s.keywords.disabled, f.Has entry

instance (s : Settings) (f : Feature) : Decidable (s.Drops f) :=
  inferInstanceAs (Decidable (∃ entry ∈ s.keywords.disabled, f.Has entry))

/-- The built-in features that are dropped. -/
def dropped (s : Settings) : List Feature :=
  (builtinFeatures s.keywords.caps).filter fun f => s.Drops f

/-- The built-in features that stay. -/
def kept (s : Settings) : List Feature :=
  (builtinFeatures s.keywords.caps).filter fun f => ¬ s.Drops f

variable (s : Settings)

/-- A feature is kept exactly if it is not dropped. -/
theorem keeps_eq (f : Feature) : s.keeps f = decide (¬ s.Drops f) := by
  have hsame (d k : String) : Text.sameName d k = Text.sameName k d := by
    rw [Bool.eq_iff_iff, Text.sameName_iff, Text.sameName_iff, eq_comm]
  have hdrops : (f.keywords.any fun k => s.keywords.disabled.any (Text.sameName · k)) = true ↔
      s.Drops f := by
    simp only [List.any_eq_true, hsame, Text.sameName_iff_forall₂, Drops, Feature.Has]
    -- the two lists are searched in one order and in the other
    constructor
    · rintro ⟨k, hk, d, hd, hname⟩
      exact ⟨d, hd, k, hk, hname⟩
    · rintro ⟨d, hd, k, hk, hname⟩
      exact ⟨k, hk, d, hd, hname⟩
  rw [keeps, Bool.eq_iff_iff, Bool.not_eq_true', Bool.eq_false_iff, Ne, hdrops, decide_eq_true_iff]

/-- What is retained are the features that stay. -/
theorem retained_keeps :
    Registry.retained [.builtins s.keywords.caps, .retain s.keeps] =
      registeredBy builtinSource s.kept := by
  simp [Registry.retained, Registry.Step.added, Registry.Step.leaves, registeredBy, kept, keeps_eq,
    List.filter_map, Function.comp_def]

/-- The registry under some settings. -/
def keptRegistry : Registry := ⟨registeredBy builtinSource s.kept⟩

theorem features_keptRegistry : s.keptRegistry.features = s.kept :=
  Registry.map_feature_registeredBy ..

/-- **The registry is built**, whatever is disabled, and holds the features that stay. -/
theorem registry_eq : s.registry = .ok s.keptRegistry := by
  have hsub : (registeredBy builtinSource s.kept).Sublist
      (Registry.builtin s.keywords.caps).entries := List.filter_sublist.map _
  -- to drop features makes no two names the same
  have hdistinct := Registry.nodup_names_of_sublist (nodup_names_builtin _) hsub
  rw [← retained_keeps] at hdistinct
  rw [registry, Registry.build_eq_ok_iff]
  refine ⟨hdistinct, ?_⟩
  rw [retained_keeps, keptRegistry]

/-- A key is known exactly if a feature that stays has it. -/
theorem knows_keptRegistry_iff {key : String} :
    s.keptRegistry.knows key = true ↔
      ∃ f ∈ builtinFeatures s.keywords.caps, f.Has key ∧ ¬ s.Drops f := by
  rw [Registry.knows_iff, features_keptRegistry, kept]
  simp only [List.mem_filter, decide_eq_true_iff]
  constructor
  · rintro ⟨f, ⟨hf, hstays⟩, hkey⟩
    exact ⟨f, hf, hkey, hstays⟩
  · rintro ⟨f, hf, hkey, hstays⟩
    exact ⟨f, ⟨hf, hstays⟩, hkey⟩

/-- **No keyword of a dropped feature is found**: no other feature has it. -/
theorem Drops.find?_eq_none {s : Settings} {f : Feature} (h : s.Drops f)
    (hf : f ∈ builtinFeatures s.keywords.caps) {key : String} (hkey : f.Has key) :
    s.keptRegistry.find? key = none := by
  -- a feature that is found would have the key too, and then it is the dropped one
  have hunknown : ¬ s.keptRegistry.knows key = true := by
    rw [knows_keptRegistry_iff]
    rintro ⟨g, hg, hgkey, hstays⟩
    rw [← features_builtin] at hf hg
    have hsame : f = g := Registry.eq_of_has (nodup_names_builtin _) hf hg hkey hgkey
    rw [← hsame] at hstays
    exact hstays h
  rwa [Registry.knows, Option.not_isSome_iff_eq_none] at hunknown

/-! ## Queries -/

/-- A candidate with a keyword of a dropped feature stays a word, without warnings. -/
theorem tokenClause_of_dropped {t : Token} (options : QueryOptions)
    (h : t.IsClaimed s.dropped) :
    (Query.tokenClause s.keptRegistry options t).2 = [] ∧ ∃ c, t.content = .keyword c ∧
      (Query.tokenClause s.keptRegistry options t).1.node =
        .word c.literal ⟨t.textStart, t.span.stop⟩ := by
  obtain ⟨c, hcontent, f, hf, hkey⟩ := h
  rw [dropped, List.mem_filter, decide_eq_true_iff] at hf
  obtain ⟨hnone, hword⟩ :=
    Query.tokenClause_of_find?_eq_none options hcontent (hf.2.find?_eq_none hf.1 hkey)
  exact ⟨hnone, c, hcontent, hword⟩

/-! ## Concerns -/

/-- The registry without anything disabled knows the keys of all built-in features, whatever the
caps. -/
theorem knows_builtin_iff {key : String} :
    (Registry.builtin {}).knows key = true ↔
      ∃ f ∈ builtinFeatures s.keywords.caps, f.Has key := by
  rw [Registry.knows_iff, features_builtin, exists_has_iff, exists_has_iff]

/-- **What is reported** about the names in the settings. -/
theorem concerns_eq :
    s.concerns = s.limitConcerns ++
      (s.keywords.disabled.filter fun entry =>
        ¬ ∃ f ∈ builtinFeatures s.keywords.caps, f.Has entry).map .unknownDisabled ++
      (s.parser.exemptKeywords.filter (!s.keptRegistry.knows ·)).map .unregisteredExempt := by
  have hdisabled : s.disabledConcerns = (s.keywords.disabled.filter fun entry =>
      ¬ ∃ f ∈ builtinFeatures s.keywords.caps, f.Has entry).map .unknownDisabled := by
    unfold disabledConcerns
    congr 1
    refine List.filter_congr fun entry _ => ?_
    rw [Bool.eq_iff_iff, Bool.not_eq_true', Bool.eq_false_iff, Ne, s.knows_builtin_iff,
      decide_eq_true_iff]
  -- the exempt names are looked up in the registry that was built
  have hexempt : s.exemptConcerns =
      (s.parser.exemptKeywords.filter (!s.keptRegistry.knows ·)).map .unregisteredExempt := by
    rw [exemptConcerns, registry_eq]
  rw [concerns, hdisabled, hexempt]

/-! ## Main result -/

/-- **What disabling comes to.** Whatever names are disabled and whatever the caps are, the
registry is built. It holds the built-in features that are not dropped, in their order, and it
knows a key exactly if one of these has it for a keyword, in any case. A query that is read with
it has a clause for each token, and where a token is a candidate with a keyword of a dropped
feature, be it the one that is disabled or another one, this clause is a plain word and nothing is
warned about. Of the disabled names exactly those are reported that no built-in feature answers
to, and of the exempt ones exactly those that the registry does not know, each in their order. -/
theorem registry_of_disabled :
    ∃ r, s.registry = .ok r ∧
      r.entries = registeredBy builtinSource
        ((builtinFeatures s.keywords.caps).filter fun f => ¬ s.Drops f) ∧
      (∀ key, r.knows key = true ↔
        ∃ f ∈ builtinFeatures s.keywords.caps, f.Has key ∧ ¬ s.Drops f) ∧
      (∀ options text q, Query.parse r options text = .ok q →
        let tokens := Token.scan 0 true text.toList
        List.Forall₂ (fun t clause => t.IsClaimed s.dropped →
          ∃ c, t.content = .keyword c ∧
            clause.node = .word c.literal ⟨t.textStart, t.span.stop⟩) tokens q.clauses ∧
        q.warnings = tokens.flatMap fun t =>
          if t.IsClaimed s.dropped then [] else (Query.tokenClause r options t).2) ∧
      s.concerns = s.limitConcerns ++
        (s.keywords.disabled.filter fun entry =>
          ¬ ∃ f ∈ builtinFeatures s.keywords.caps, f.Has entry).map .unknownDisabled ++
        (s.parser.exemptKeywords.filter (!r.knows ·)).map .unregisteredExempt := by
  refine ⟨s.keptRegistry, s.registry_eq, rfl, fun key => s.knows_keptRegistry_iff, ?_,
    s.concerns_eq⟩
  intro options text q hq tokens
  obtain ⟨-, -, rfl⟩ := Query.parse_eq_ok_iff.mp hq
  -- the clauses and the warnings are those of the tokens, one after the other
  constructor
  · show List.Forall₂ _ tokens (tokens.map fun t => (Query.tokenClause _ options t).1)
    rw [List.forall₂_map_right_iff, List.forall₂_same]
    intro t _ hclaimed
    exact (s.tokenClause_of_dropped options hclaimed).2
  · show tokens.flatMap (fun t => (Query.tokenClause _ options t).2) = _
    refine List.flatMap_congr fun t _ => ?_
    by_cases hclaimed : t.IsClaimed s.dropped
    · rw [if_pos hclaimed, (s.tokenClause_of_dropped options hclaimed).1]
    · rw [if_neg hclaimed]

/-- Disabling one keyword of a feature also turns off another one, which is then no exempt keyword
either; the other feature still warns. -/
theorem registry_of_disabled_of_alias :
    let s : Settings :=
      { parser := { exemptKeywords := ["PageId", "filesize"] }
        keywords := { disabled := ["FileW", "nosuch"] } }
    ∃ r q a b, s.registry = .ok r ∧ r.knows "fileh" = false ∧
      Query.parse r {} "FileH:x pageid:x" = .ok q ∧ q.clauses = [a, b] ∧
      a.node = .word "FileH:x" ⟨0, 7⟩ ∧ q.warnings = [⟨Warning.invalidPageId, ["x", "1"]⟩] ∧
      s.concerns = [.unknownDisabled "nosuch", .unregisteredExempt "filesize"] := by
  intro s
  obtain ⟨r, hr, -, hknows, hqueries, hconcerns⟩ := registry_of_disabled s
  obtain rfl : s.keptRegistry = r := Except.ok.inj (s.registry_eq.symm.trans hr)
  have hscan : Token.scan 0 true "FileH:x pageid:x".toList =
      [⟨.keyword ⟨⟨"FileH", "x", "x", none, ""⟩, "FileH:x"⟩, none, ⟨0, 7⟩, 0⟩,
        ⟨.keyword ⟨⟨"pageid", "x", "x", none, ""⟩, "pageid:x"⟩, none, ⟨8, 16⟩, 8⟩] := by
    decide +kernel
  obtain ⟨q, hq⟩ : ∃ q, Query.parse s.keptRegistry {} "FileH:x pageid:x" = .ok q :=
    ⟨_, Query.parse_of_length_le _ _ _ (by decide)⟩
  obtain ⟨hnodes, hwarnings⟩ := hqueries {} _ q hq
  rw [hscan] at hnodes hwarnings
  generalize hclauses : q.clauses = clauses at hnodes
  obtain _ | ⟨hfile, _ | ⟨-, _ | _⟩⟩ := hnodes
  -- the first token is claimed by a dropped feature, and the second is not
  obtain ⟨c, hc, hword⟩ := hfile (by decide +kernel)
  obtain rfl := Content.keyword.inj hc
  refine ⟨_, q, _, _, hr, ?_, hq, hclauses, hword, hwarnings.trans (by decide +kernel),
    hconcerns.trans (by decide +kernel)⟩
  rw [Bool.eq_false_iff, Ne, hknows]
  decide +kernel

end Settings

end WikiSearch
