import Mathlib.Data.List.Forall2
import WikiSearch.Proofs.Filter.Compilation
import WikiSearch.Proofs.Keyword.Meaning

/-!
# WikiSearch — from a text to the pages that it asks for

With the built-in keywords, what a query filters by can be said without its filter: of its text,
which of the candidates in it are directives (`Token.Directs`), and of every directive, which
pages it asks for (`Argument.Asks`). Between the two stand the features, the values that they
read, the filters that they build and the filter of the query, and none of these is mentioned.

A token is looked at once (`directive_cases`): either it becomes no directive, or it becomes one
whose filter is as missing or as present as pages that it asks for.

Main results:

* `recognizes_builtin_iff` — which candidates become directives.
* `holds_filter_iff_asks` — which pages the filter of a query lets through.
-/

namespace WikiSearch

/-- Whether a candidate is a directive: its key is a keyword, its value can be read, and it is
not in quotes if the keyword is one of the file properties. -/
def Argument.IsDirective (caps : Caps) (arg : Argument) : Prop :=
  ∃ kind : Builtin, kind.Answers arg.key ∧ kind.Reads caps arg ∧
    (kind = .fileProperty → arg.delimiter = none)

/-- Whether a token is a directive, with the key and the value that it is written with. -/
def Token.Directs (caps : Caps) (arg : Argument) (t : Token) : Prop :=
  ∃ c, t.content = .keyword c ∧ c.toArgument = arg ∧ arg.IsDirective caps

/-! ## Which candidates become directives -/

section Candidates

variable {caps : Caps}

/-- File properties alone are not taken from quotes. -/
theorem acceptsQuoted_feature (caps : Caps) (kind : Builtin) :
    (kind.feature caps).acceptsQuoted = decide (kind ≠ .fileProperty) := by
  cases kind <;> rfl

/-- A candidate with a built-in keyword is a directive if its value can be read, and if it is not in
quotes where quotes are not taken. -/
theorem recognizes_iff_of_answers {kind : Builtin} {c : Candidate} (h : kind.Answers c.key) :
    (Registry.builtin caps).recognizes c = true ↔
      (kind = .fileProperty → c.delimiter = none) ∧ kind.Reads caps c.toArgument := by
  rw [Registry.recognizes, find?_builtin_iff.mpr ⟨kind, h, rfl⟩]
  simp only [Bool.and_eq_true, Bool.or_eq_true, Option.isNone_iff_eq_none,
    acceptsQuoted_feature, decide_eq_true_eq, reads_iff]
  rw [or_comm, ← Decidable.imp_iff_not_or]

/-- **Which candidates become directives.** -/
theorem recognizes_builtin_iff {c : Candidate} :
    (Registry.builtin caps).recognizes c = true ↔ c.toArgument.IsDirective caps := by
  constructor
  · intro h
    -- a candidate is recognized by the feature of its keyword, which is of some kind
    cases hfind : (Registry.builtin caps).find? c.key with
    | none => simp [Registry.recognizes, hfind] at h
    | some feature =>
      obtain ⟨kind, hkey, rfl⟩ := find?_builtin_iff.mp hfind
      obtain ⟨hquoted, hreads⟩ := (recognizes_iff_of_answers hkey).mp h
      exact ⟨kind, hkey, hreads, hquoted⟩
  · rintro ⟨kind, hkey, hreads, hquoted⟩
    exact (recognizes_iff_of_answers hkey).mpr ⟨hquoted, hreads⟩

/-- A directive asks for what its keyword asks for, as that is of one kind only. -/
theorem asks_iff_of_answers {kind : Builtin} {arg : Argument} (h : kind.Answers arg.key)
    (strict : Bool) (page : Page) :
    arg.Asks caps strict page ↔ kind.Asks caps strict arg page := by
  constructor
  · rintro ⟨kind', hkey', hasks⟩
    rwa [h.unique hkey']
  · intro hasks
    exact ⟨kind, h, hasks⟩

end Candidates

/-! ## Tokens -/

namespace Query

section Tokens

variable {registry : Registry} {c : Candidate}

/-- A directive carries what the feature of its keyword has read. -/
theorem parsed_of_resolve {feature : Feature} {negated : Bool} {span s : Span} {k : Directive}
    (hfind : registry.find? c.key = some feature)
    (h : (resolve registry c negated span).1 = .directive k s) :
    k.toArgument = c.toArgument ∧ (feature.read k.toArgument).1 = some k.parsed := by
  rw [resolve, hfind] at h
  simp only at h
  -- a value in quotes that the feature does not take is no directive, nor is one that it cannot
  -- read
  split at h
  · contradiction
  · rcases hread : feature.read c.toArgument with ⟨value, warnings⟩
    rw [hread] at h
    cases value with
    | none => contradiction
    | some parsed =>
      obtain ⟨rfl, -⟩ := Node.directive.inj h
      exact ⟨rfl, by rw [hread]⟩

variable {caps : Caps} {options : QueryOptions} {t : Token} {k : Directive} {s : Span}

/-- The clause of such a token holds the directive. -/
theorem node_of_directs {arg : Argument} (h : t.Directs caps arg) :
    ∃ k s, (tokenClause (.builtin caps) options t).1.node = .directive k s ∧
      k.toArgument = arg := by
  obtain ⟨c, hcontent, rfl, hdirective⟩ := h
  obtain ⟨parsed, hresolve⟩ := resolve_of_recognizes (recognizes_builtin_iff.mpr hdirective)
    ((t.occur options).1 = .mustNot) ⟨t.textStart, t.span.stop⟩
  rw [node_tokenClause, tokenNode, hcontent]
  exact ⟨_, _, hresolve, rfl⟩

/-- **One token.** What the clause of a token has for a directive is what the token is written
with; and its filter is missing if no page could be asked for, and otherwise it lets through
those that are. -/
theorem directive_cases (strict : Bool)
    (h : (tokenClause (.builtin caps) options t).1.node = .directive k s) :
    t.Directs caps k.toArgument ∧
      ((k.Builds (.builtin caps) strict none ∧ ∀ page, ¬ k.Asks caps strict page) ∨
        ∃ f, k.Builds (.builtin caps) strict (some f) ∧
          (∃ page, k.Asks caps strict page) ∧
          ∀ page, f.Holds Page.model page ↔ k.Asks caps strict page) := by
  -- what is no directive is resolved to a word
  obtain ⟨c, hcontent, hresolve⟩ := exists_candidate_of_node h
  have hrecognized : (Registry.builtin caps).recognizes c = true := by
    by_contra hnot
    rw [resolve_of_not_recognizes (Bool.eq_false_iff.mpr hnot)] at hresolve
    contradiction
  have hdirective := recognizes_builtin_iff.mp hrecognized
  obtain ⟨kind, hkey, -⟩ := id hdirective
  have hfind : (Registry.builtin caps).find? c.key = some (kind.feature caps) :=
    find?_builtin_iff.mpr ⟨kind, hkey, rfl⟩
  -- the clause carries the value that the feature of its keyword has read
  obtain ⟨harg, hread⟩ := parsed_of_resolve hfind hresolve
  rw [← harg] at hdirective hkey hfind
  refine ⟨⟨c, hcontent, harg.symm, hdirective⟩, ?_⟩
  simp only [asks_iff_of_answers hkey]
  rcases means_builtin strict k.toArgument caps kind k.parsed hread with
    ⟨hnone, hasks⟩ | ⟨f, hsome, hpage, hholds⟩
  · exact .inl ⟨⟨_, hfind, hnone⟩, hasks⟩
  · exact .inr ⟨f, ⟨_, hfind, hsome⟩, hpage, hholds⟩

/-- A token is a directive exactly if its clause holds one, with the same key and value. -/
theorem directs_iff {arg : Argument} :
    t.Directs caps arg ↔ ∃ k s,
      (tokenClause (.builtin caps) options t).1.node = .directive k s ∧ k.toArgument = arg := by
  constructor
  · exact node_of_directs
  · rintro ⟨k, s, hnode, rfl⟩
    exact (directive_cases false hnode).1

/-- What the clause of a token asks of a page: that there are pages which its directive asks for,
and that the page is one of them unless the clause is excluded. -/
theorem admits_tokenClause_iff (strict : Bool) (page : Page) :
    (tokenClause (.builtin caps) options t).1.Admits (.builtin caps) strict Page.model page ↔
      ∀ k s, (tokenClause (.builtin caps) options t).1.node = .directive k s →
        (∃ p, k.Asks caps strict p) ∧
        if (tokenClause (.builtin caps) options t).1.occur = .mustNot
          then ¬ k.Asks caps strict page
          else k.Asks caps strict page := by
  refine forall_congr' fun k => forall_congr' fun s => forall_congr' fun hnode => ?_
  rcases (directive_cases strict hnode).2 with ⟨hnone, hasks⟩ | ⟨f, hsome, hpage, hholds⟩
  · -- there is neither a filter nor a page
    constructor
    · rintro ⟨f, hf, -⟩
      exact absurd (hnone.unique hf) (by simp)
    · rintro ⟨⟨p, hp⟩, -⟩
      exact absurd hp (hasks p)
  · constructor
    · -- there is one filter, and it lets through the pages that are asked for
      rintro ⟨g, hg, hadmits⟩
      obtain rfl := Option.some.inj (hsome.unique hg)
      simp only [hholds] at hadmits
      exact ⟨hpage, hadmits⟩
    · rintro ⟨-, hadmits⟩
      simp only [← hholds] at hadmits
      exact ⟨f, hsome, hadmits⟩

/-- There is no filter exactly if no page could be asked for. -/
theorem builds_none_iff (strict : Bool)
    (h : (tokenClause (.builtin caps) options t).1.node = .directive k s) :
    k.Builds (.builtin caps) strict none ↔ ∀ page, ¬ k.Asks caps strict page := by
  rcases (directive_cases strict h).2 with ⟨hnone, hasks⟩ | ⟨f, hsome, ⟨page, hpage⟩, -⟩
  · exact iff_of_true hnone hasks
  · refine iff_of_false ?_ fun hasks => hasks page hpage
    intro hnone
    exact absurd (hnone.unique hsome) (by simp)

end Tokens

/-! ## Queries -/

/-- **The filter of a query lets through the pages that its text asks for.** Whatever the caps
and the options are: the clauses of a query stand for the tokens of its text one by one, and the
directives among them are the candidates with a built-in keyword and a value that can be read.
A page satisfies the filter exactly if every directive asks for some pages, and the page is one
of them, or none of them if the clause is excluded. Results are possible exactly if every
directive asks for some pages. -/
theorem holds_filter_iff_asks (caps : Caps) (options : QueryOptions) {readOptions : QueryOptions}
    {text : String} {q : Query} (h : parse (.builtin caps) readOptions text = .ok q) :
    List.Forall₂ (fun t c => c.occur = (t.occur readOptions).1 ∧ ∀ arg,
      Token.Directs caps arg t ↔ ∃ k s, c.node = .directive k s ∧ k.toArgument = arg)
      (Token.scan 0 true text.toList) q.clauses ∧
    (∀ page, (q.compile (.builtin caps) options).filter.Holds Page.model page ↔
      ∀ c ∈ q.clauses, ∀ k s, c.node = .directive k s →
        (∃ p, k.Asks caps options.strictMatching p) ∧
        if c.occur = .mustNot then ¬ k.Asks caps options.strictMatching page
        else k.Asks caps options.strictMatching page) ∧
    ((q.compile (.builtin caps) options).resultsPossible = true ↔
      ∀ c ∈ q.clauses, ∀ k s, c.node = .directive k s →
        ∃ p, k.Asks caps options.strictMatching p) := by
  have hresolved := resolved_of_parse h
  have hclauses := clauses_of_parse h
  refine ⟨?_, ?_, ?_⟩
  · -- a clause is made of its token alone
    rw [hclauses, List.forall₂_map_right_iff, List.forall₂_same]
    intro t _
    exact ⟨rfl, fun arg => directs_iff⟩
  · intro page
    rw [compile, Parts.holds_filter]
    refine (Parts.allows_of_clauses Page.model page hresolved).trans ?_
    simp only [hclauses, List.forall_mem_map, admits_tokenClause_iff]
  · rw [compile, Bool.not_eq_true', ← Bool.not_eq_true, Parts.unsatisfiable_of_clauses hresolved]
    simp only [not_exists, not_and, hclauses, List.forall_mem_map]
    refine forall₂_congr fun t _ => forall_congr' fun k => forall_congr' fun s =>
      forall_congr' fun hnode => ?_
    rw [builds_none_iff _ hnode, not_forall_not]

/-- A query with listed ids, an excluded category and a range of sizes is read, and so its filter
lets through what its text asks for. -/
theorem holds_filter_iff_asks_of_excluded :
    ∃ q, parse (.builtin {}) {} "pageid:1|2 -incategory:Old_dogs filesize:>10" = .ok q ∧
      ∀ page, (q.compile (.builtin {}) {}).filter.Holds Page.model page ↔
        ∀ c ∈ q.clauses, ∀ k s, c.node = .directive k s →
          (∃ p, k.Asks {} false p) ∧
          if c.occur = .mustNot then ¬ k.Asks {} false page else k.Asks {} false page := by
  have h := parse_of_length_le (.builtin {}) {}
    "pageid:1|2 -incategory:Old_dogs filesize:>10" (by decide)
  exact ⟨_, h, (holds_filter_iff_asks {} {} h).2.1⟩

end Query

end WikiSearch
