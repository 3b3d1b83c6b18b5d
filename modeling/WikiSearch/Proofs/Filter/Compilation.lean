import WikiSearch.Proofs.Filter.Meaning
import WikiSearch.Proofs.Parsing
import WikiSearch.Query.Compiled

/-!
# WikiSearch — the filter of a query means its directives

A query compiles to one filter, which takes three forms: nothing matches, a flattened
conjunction, or a filter of three lists. Whichever it is, it means what the directives of
the query say one by one.

The argument goes clause by clause. What a stretch of the query adds (`Parts`) is read as
a demand on documents (`Parts.Allows`) next to the flag that nothing can match; both are
taken apart along `++`, a clause adds what its directive says (`resolved_cases`), and
the three forms of the filter are looked at once (`holds_filter`).

Main results:

* `exists_feature_of_parse` — the keyword of every directive of a query is registered.
* `holds_filter` — what the filter of some parts means.
* `holds_filter_compile` — what the filter of a query means.
-/

namespace WikiSearch

/-- What the feature that answers to the keyword of a directive builds: a filter, or nothing
if the directive can match nothing. -/
def Directive.Builds (registry : Registry) (strict : Bool) (k : Directive)
    (built : Option Filter) : Prop :=
  ∃ feature, registry.find? k.key = some feature ∧ feature.filter? strict k.parsed = built

/-- A document does as the directive of a clause says, if there is one: it satisfies the
filter, or does not satisfy it if the clause is excluded. No document does so if there is no
filter. -/
def Clause.Admits {δ : Type*} (registry : Registry) (strict : Bool) (m : DocumentModel δ) (d : δ)
    (c : Clause Node) : Prop :=
  ∀ k s, c.node = .directive k s → ∃ f, k.Builds registry strict (some f) ∧
    if c.occur = .mustNot then ¬ f.Holds m d else f.Holds m d

/-- What is built for a directive is one thing or another, and not both. -/
theorem Directive.Builds.unique {registry : Registry} {strict : Bool} {k : Directive}
    {built built' : Option Filter} (h : k.Builds registry strict built)
    (h' : k.Builds registry strict built') : built = built' := by
  obtain ⟨feature, hfind, rfl⟩ := h
  obtain ⟨feature', hfind', rfl⟩ := h'
  rw [hfind, Option.some.injEq] at hfind'
  rw [hfind']

/-- A clause holds no other directive than its own. -/
theorem Clause.admits_iff {δ : Type*} {registry : Registry} {strict : Bool} {m : DocumentModel δ}
    {d : δ} {c : Clause Node} {k : Directive} {s : Span} (hnode : c.node = .directive k s) :
    c.Admits registry strict m d ↔ ∃ f, k.Builds registry strict (some f) ∧
      if c.occur = .mustNot then ¬ f.Holds m d else f.Holds m d := by
  constructor
  · intro h
    exact h k s hnode
  · intro h k' s' hnode'
    rw [hnode, Node.directive.injEq] at hnode'
    rwa [← hnode'.1]

/-! ## Directives are registered -/

namespace Query

/-- A candidate becomes a directive only if its keyword is registered. -/
theorem exists_feature_of_resolve {registry : Registry} {c : Candidate} {negated : Bool}
    {span s : Span} {k : Directive} (h : (resolve registry c negated span).1 = .directive k s) :
    ∃ feature, registry.find? k.key = some feature := by
  -- all ways but the last one lead to a word
  unfold resolve at h
  split at h
  · contradiction
  · rename_i feature hfind
    split at h
    · contradiction
    · split at h
      · contradiction
      · obtain ⟨rfl, -⟩ := Node.directive.inj h
        exact ⟨feature, hfind⟩

/-- A directive was recognized by the feature that its keyword still leads to. -/
theorem exists_feature_of_parse {registry : Registry} {options : QueryOptions} {text : String}
    {q : Query} (h : parse registry options text = .ok q) {c : Clause Node} (hc : c ∈ q.clauses)
    {k : Directive} {s : Span} (hnode : c.node = .directive k s) :
    ∃ feature, registry.find? k.key = some feature := by
  rw [clauses_of_parse h] at hc
  obtain ⟨t, -, rfl⟩ := List.mem_map.mp hc
  obtain ⟨c, -, hresolve⟩ := exists_candidate_of_node hnode
  exact exists_feature_of_resolve hresolve

end Query

/-! ## What some parts mean -/

namespace Parts

section Meaning

variable {δ : Type*} (m : DocumentModel δ) (d : δ)

/-- A document satisfies what must match and nothing that must not. -/
def Allows (p : Parts) : Prop :=
  (∀ f ∈ p.must, f.Holds m d) ∧ ∀ f ∈ p.mustNot, ¬ f.Holds m d

theorem allows_append (a b : Parts) : (a ++ b).Allows m d ↔ a.Allows m d ∧ b.Allows m d := by
  simp only [Allows, must_append, mustNot_append, List.forall_mem_append]
  exact and_and_and_comm

/-- **Three forms, one meaning.** -/
theorem holds_filter (p : Parts) :
    p.filter.Holds m d ↔ p.unsatisfiable = false ∧ p.Allows m d := by
  rw [filter]
  -- which of the three forms the filter has depends on the flag and on what must not match
  split
  · rename_i hunsat
    simp [hunsat, Filter.Holds]
  · rename_i hsat
    have hsat' : p.unsatisfiable = false := by simpa using hsat
    split
    · -- without exclusions it is a plain conjunction
      rename_i hnone
      rw [List.isEmpty_iff] at hnone
      simp [Filter.holds_allOf, Allows, hnone, hsat']
    · simp [Filter.holds_bool, Allows, hsat']

end Meaning

/-- Some parts without directives. -/
def IsTextual (p : Parts) : Prop := p.must = [] ∧ p.mustNot = [] ∧ p.unsatisfiable = false

/-- Text and more text is text. -/
theorem IsTextual.append {a b : Parts} (ha : a.IsTextual) (hb : b.IsTextual) :
    (a ++ b).IsTextual := by
  obtain ⟨hmust, hmustNot, hsat⟩ := ha
  obtain ⟨hmust', hmustNot', hsat'⟩ := hb
  exact ⟨by rw [must_append, hmust, hmust']; rfl, by rw [mustNot_append, hmustNot, hmustNot']; rfl,
    by rw [unsatisfiable_append, hsat, hsat']; rfl⟩

/-- Without directives everything is let through. -/
theorem IsTextual.filter_eq {p : Parts} (h : p.IsTextual) : p.filter = .matchAll := by
  obtain ⟨hmust, hmustNot, hsat⟩ := h
  rw [filter, hsat, hmustNot, hmust]
  rfl

section Clauses

variable {registry : Registry} {options : QueryOptions} {cs : List (Clause Node)}

/-! ## Clauses without a directive -/

/-- A word or a phrase adds nothing to the filter. -/
theorem isTextual_of_leaf (o : Occur) {n : Node} (h : n.IsLeaf)
    (hnode : ∀ k s, n ≠ .directive k s) : (ofNode registry options o n).IsTextual := by
  cases h with
  | word s hne =>
    rw [ofNode, if_neg hne]
    exact ⟨rfl, rfl, rfl⟩
  | phrase p s =>
    rw [ofNode]
    split <;> exact ⟨rfl, rfl, rfl⟩
  | directive k s => exact absurd rfl (hnode k s)

/-- Nor do clauses all of which are words and phrases. -/
theorem isTextual_of_clauses (hleaf : ∀ c ∈ cs, c.node.IsLeaf)
    (hnode : ∀ c ∈ cs, ∀ k s, c.node ≠ .directive k s) :
    (ofClauses registry options .must cs).IsTextual := by
  induction cs with
  | nil => exact ⟨rfl, rfl, rfl⟩
  | cons c cs ih =>
    rw [List.forall_mem_cons] at hleaf hnode
    rw [ofClauses_cons]
    exact (isTextual_of_leaf c.occur hleaf.1 hnode.1).append (ih hleaf.2 hnode.2)

/-! ## Clauses with a directive -/

section Directive

variable {k : Directive} {strict : Bool} (o : Occur)

/-- A directive without a filter makes results impossible. -/
theorem ofDirective_of_none (h : k.Builds registry strict none) :
    ofDirective registry strict o k = { unsatisfiable := true } := by
  obtain ⟨feature, hfind, hbuilt⟩ := h
  rw [ofDirective, hfind]
  simp only [hbuilt]

/-- A filter goes to one of the two sides. -/
theorem ofDirective_of_some {f : Filter} (h : k.Builds registry strict (some f)) :
    ofDirective registry strict o k =
      if o = .mustNot then { mustNot := [f] } else { must := [f] } := by
  obtain ⟨feature, hfind, hbuilt⟩ := h
  rw [ofDirective, hfind]
  simp only [hbuilt]

end Directive

/-- What the clauses of a query that was read are known to be: leaves, and registered ones
where they are directives. -/
def Resolved (registry : Registry) (c : Clause Node) : Prop :=
  c.node.IsLeaf ∧
    ∀ k s, c.node = .directive k s → ∃ feature, registry.find? k.key = some feature

/-- A clause adds nothing, a filter on one of the two sides, or the flag; which of them, its
directive says. -/
theorem resolved_cases (options : QueryOptions) {c : Clause Node} (h : Resolved registry c) :
    ((∀ k s, c.node ≠ .directive k s) ∧ (ofNode registry options c.occur c.node).IsTextual) ∨
    ∃ k s, c.node = .directive k s ∧ ∃ built, k.Builds registry options.strictMatching built ∧
      ofNode registry options c.occur c.node =
        ofDirective registry options.strictMatching c.occur k := by
  obtain ⟨hleaf, hregistered⟩ := h
  -- a directive has a feature, and that builds something or nothing
  by_cases hdirective : ∃ k s, c.node = .directive k s
  · obtain ⟨k, s, hnode⟩ := hdirective
    obtain ⟨feature, hfind⟩ := hregistered k s hnode
    exact .inr ⟨k, s, hnode, _, ⟨feature, hfind, rfl⟩, by rw [hnode, ofNode]⟩
  · simp only [not_exists] at hdirective
    exact .inl ⟨hdirective, isTextual_of_leaf c.occur hleaf hdirective⟩

variable {δ : Type*} (m : DocumentModel δ) (d : δ)

/-- **One clause.** What a clause adds asks of a document what its directive says. -/
theorem allows_of_clause {c : Clause Node} (h : Resolved registry c) :
    ((ofNode registry options c.occur c.node).unsatisfiable = false ∧
      (ofNode registry options c.occur c.node).Allows m d) ↔
    c.Admits registry options.strictMatching m d := by
  rcases resolved_cases options h with
    ⟨hnode, hmust, hmustNot, hsat⟩ | ⟨k, s, hnode, built, hbuilds, hparts⟩
  · -- text asks nothing of a document
    simp only [Allows, hmust, hmustNot, hsat, List.not_mem_nil, false_imp_iff, implies_true,
      and_self, true_iff]
    intro k s hk
    exact absurd hk (hnode k s)
  · rw [hparts, Clause.admits_iff hnode]
    cases built with
    | none =>
      -- nothing can match, and there is no filter that a document could satisfy
      rw [ofDirective_of_none c.occur hbuilds]
      simp only [Bool.true_eq_false, false_and, false_iff, not_exists, not_and]
      intro f hf
      exact absurd (hbuilds.unique hf) (by simp)
    | some f =>
      -- so the filter that a document has to satisfy is this one
      have hunique : ∀ g, k.Builds registry options.strictMatching (some g) ↔ g = f := by
        intro g
        constructor
        · intro hg
          exact Option.some.inj (hg.unique hbuilds)
        · rintro rfl
          exact hbuilds
      rw [ofDirective_of_some c.occur hbuilds]
      simp only [hunique, exists_eq_left]
      -- the filter is on the one side or on the other
      by_cases hoccur : c.occur = .mustNot
      · simp [hoccur, Allows]
      · simp [hoccur, Allows]

/-- A clause makes results impossible exactly if it is a directive without a filter, excluded or
not. -/
theorem unsatisfiable_of_clause {c : Clause Node} (h : Resolved registry c) :
    (ofNode registry options c.occur c.node).unsatisfiable = true ↔
      ∃ k s, c.node = .directive k s ∧ k.Builds registry options.strictMatching none := by
  rcases resolved_cases options h with
    ⟨hnode, -, -, hsat⟩ | ⟨k, s, hnode, built, hbuilds, hparts⟩
  · simp [hsat, hnode]
  · rw [hparts, hnode]
    -- a directive adds a filter or makes the query unsatisfiable, and not both
    cases built with
    | none =>
      rw [ofDirective_of_none c.occur hbuilds]
      exact ⟨fun _ => ⟨k, s, rfl, hbuilds⟩, fun _ => rfl⟩
    | some f =>
      rw [ofDirective_of_some c.occur hbuilds]
      constructor
      · intro hsat
        split at hsat <;> contradiction
      · rintro ⟨k', s', hk, hnone⟩
        obtain ⟨rfl, -⟩ := Node.directive.inj hk
        exact absurd (hbuilds.unique hnone) (by simp)

/-- **All clauses.** What they add asks of a document what their directives say, each of them. -/
theorem allows_of_clauses (h : ∀ c ∈ cs, Resolved registry c) :
    ((ofClauses registry options .must cs).unsatisfiable = false ∧
      (ofClauses registry options .must cs).Allows m d) ↔
    ∀ c ∈ cs, c.Admits registry options.strictMatching m d := by
  induction cs with
  | nil => simp [ofClauses, Allows]
  | cons c cs ih =>
    rw [List.forall_mem_cons] at h
    rw [ofClauses_cons, unsatisfiable_append, Bool.or_eq_false_iff, allows_append,
      List.forall_mem_cons, ← ih h.2, ← allows_of_clause m d h.1]
    exact and_and_and_comm

/-- One clause is enough to make results impossible. -/
theorem unsatisfiable_of_clauses (h : ∀ c ∈ cs, Resolved registry c) :
    (ofClauses registry options .must cs).unsatisfiable = true ↔
      ∃ c ∈ cs, ∃ k s, c.node = .directive k s ∧
        k.Builds registry options.strictMatching none := by
  induction cs with
  | nil => simp [ofClauses]
  | cons c cs ih =>
    rw [List.forall_mem_cons] at h
    rw [ofClauses_cons, unsatisfiable_append, Bool.or_eq_true, ih h.2,
      unsatisfiable_of_clause h.1]
    simp only [List.mem_cons, exists_eq_or_imp]

end Clauses

end Parts

namespace Query

/-- The clauses of a query that was read are as its compilation needs them. -/
theorem resolved_of_parse {registry : Registry} {options : QueryOptions} {text : String}
    {q : Query} (h : parse registry options text = .ok q) :
    ∀ c ∈ q.clauses, Parts.Resolved registry c := fun c hc =>
  ⟨isLeaf_of_parse h c hc, fun _ _ hnode => exists_feature_of_parse h hc hnode⟩

/-- **The filter of a query means its directives.** Whatever the features of the registry read
and build, whatever the options are that a query was read with and is compiled with, and whatever
a document is: the document satisfies the filter exactly if every directive has a filter, which
the document satisfies, or does not satisfy if the clause is excluded. Results are impossible
exactly if some directive has no filter, and then the filter lets nothing through, excluded or
not. A query without directives lets everything through. -/
theorem holds_filter_compile {registry : Registry} (options : QueryOptions)
    {readOptions : QueryOptions} {text : String} {q : Query}
    (h : parse registry readOptions text = .ok q) :
    (∀ (δ : Type*) (m : DocumentModel δ) (d : δ),
      (q.compile registry options).filter.Holds m d ↔
        ∀ c ∈ q.clauses, c.Admits registry options.strictMatching m d) ∧
    ((q.compile registry options).resultsPossible = false ↔
      ∃ c ∈ q.clauses, ∃ k s, c.node = .directive k s ∧
        k.Builds registry options.strictMatching none) ∧
    ((q.compile registry options).resultsPossible = false →
      (q.compile registry options).filter = .matchNone) ∧
    ((∀ c ∈ q.clauses, ∀ k s, c.node ≠ .directive k s) →
      (q.compile registry options).filter = .matchAll) := by
  have hresolved := resolved_of_parse h
  refine ⟨fun δ m d => ?_, ?_, fun hnone => ?_, fun htext => ?_⟩
  · rw [compile, Parts.holds_filter]
    exact Parts.allows_of_clauses m d hresolved
  · rw [compile, Bool.not_eq_false']
    exact Parts.unsatisfiable_of_clauses hresolved
  · -- the flag decides before the two sides are looked at
    rw [compile, Bool.not_eq_false'] at hnone
    rw [compile, Parts.filter, if_pos hnone]
  · exact (Parts.isTextual_of_clauses (isLeaf_of_parse h) htext).filter_eq

/-- A query with directives of both kinds, one of which knows no topic, is read, and so its
filter means what they say. -/
theorem holds_filter_compile_of_excluded :
    ∃ q, parse (.builtin {}) {}
        "cats pageid:1|2 -incategory:\"Old dogs\" -articletopic:cooking" = .ok q ∧
      (∀ (m : DocumentModel Nat) (d : Nat), (q.compile (.builtin {}) {}).filter.Holds m d ↔
        ∀ c ∈ q.clauses, c.Admits (.builtin {}) false m d) ∧
      ((q.compile (.builtin {}) {}).resultsPossible = false →
        (q.compile (.builtin {}) {}).filter = .matchNone) := by
  have h := parse_of_length_le (.builtin {}) {}
    "cats pageid:1|2 -incategory:\"Old dogs\" -articletopic:cooking" (by decide)
  have hmeans := holds_filter_compile {} h
  exact ⟨_, h, hmeans.1 Nat, hmeans.2.2.1⟩

end Query

end WikiSearch
