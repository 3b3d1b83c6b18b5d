import WikiSearch.Proofs.Keyword.Lists
import WikiSearch.Proofs.Parsing

/-!
# WikiSearch — lists above their cap

A list with more entries than its cap is cut off at the cap, and a warning says so. The directive
should stay one: it is the list that is too long, not the value that cannot be read. With the
built-in keywords this is so for every cap but zero. A cap of zero leaves no entry; page ids and
topics then are an empty list, but flags and categories are asked whether there is an entry only
when the list has been cut off, so that their directive is taken for a word although its value is
fine, and the warning speaks of a list that is not there.

Main results:

* `Query.tokenClause_of_list` — the clause of a candidate with a list, and its warnings.
* `Query.truncated_or_cancelled` — what a warning about a cap says of its clause.
* `Query.truncates_iff` — for which caps the directive always stays.
-/

namespace WikiSearch

open Text

/-- The number of entries of a value that is a list. -/
def KeywordValue.size? : KeywordValue → Option Nat
  | pageIds ids => some ids.length
  | categories names => some names.length
  | recommendationFlags flags => some flags.length
  | topics ts => some ts.length
  | terms ts => some ts.length
  | numericRange _ => none
  | text _ => none

/-- Whether a warning says that a list was above its cap. -/
def Warning.isTruncation (w : Warning) : Bool := w.key = "feature-too-many-conditions"

/-- What a warning about a cap says of its clause: that it is a directive with the keyword of the
warning, whose list has as many entries as the cap of the warning. -/
def Clause.Truncated (c : Clause Node) (w : Warning) : Prop :=
  ∃ d s n, c.node = .directive d s ∧ w.args = [d.key, toString n] ∧ d.parsed.size? = some n

/-- A word in place of a directive for flags or categories, of which the cap is zero. -/
def Clause.Cancelled (caps : Caps) (c : Clause Node) (w : Warning) : Prop :=
  ∃ text s key, c.node = .word text s ∧ w.args = [key, "0"] ∧
    (Builtin.recommendation.Answers key ∧ caps.recommendationFlags = 0 ∨
      Builtin.category.Answers key ∧ caps.categories = 0)

namespace ListKeyword

/-- A keyword with a list as one of the built-in keywords. -/
def builtin : ListKeyword → Builtin
  | pageId => .pageId
  | recommendation => .recommendation
  | category => .category
  | topic => .topic

/-- The cap of a keyword. -/
def cap (caps : Caps) : ListKeyword → Nat
  | pageId => caps.pageIds
  | recommendation => caps.recommendationFlags
  | category => caps.categories
  | topic => caps.topics

theorem feature_builtin (kind : ListKeyword) (caps : Caps) :
    kind.builtin.feature caps = kind.feature (kind.cap caps) := by
  cases kind <;> rfl

theorem acceptsQuoted_feature (kind : ListKeyword) (cap : Nat) :
    (kind.feature cap).acceptsQuoted = true := by
  cases kind <;> rfl

theorem size?_holding (kind : ListKeyword) (entries : List String) :
    (kind.holding entries).size? = some entries.length := by
  cases kind <;> simp [holding, KeywordValue.size?]

/-! ## Reports on caps -/

/-- The report on entries that cannot be used says nothing of a cap. -/
theorem filter_isTruncation_refusals (kind : ListKeyword) (unusable : List String) :
    (kind.refusals unusable).filter Warning.isTruncation = [] := by
  rw [refusals]
  split
  · rfl
  · rw [List.filter_eq_nil_iff, List.forall_mem_map]
    intro key hkey
    cases kind <;> simp_all [refusalKey?, Warning.isTruncation]

/-- Of the reports on a list only the last one is about the cap. -/
theorem filter_isTruncation_reports (kind : ListKeyword) (key : String) (cap : Nat)
    (entries : List String) :
    (kind.reports key cap entries).filter Warning.isTruncation =
      if (entries.filter kind.isUsable).length > cap
        then [⟨"feature-too-many-conditions", [key, toString cap]⟩] else [] := by
  rw [reports, List.filter_append, filter_isTruncation_refusals, List.nil_append]
  split
  · rw [List.filter_cons_of_pos (by simp [Warning.isTruncation]), List.filter_nil]
  · rfl

/-- Above its cap a list is declined only if the cap is zero, and only by flags and categories. -/
theorem cap_eq_zero_of_declines {kind : ListKeyword} {cap : Nat} {entries : List String}
    (hdeclines : kind.declines cap entries = true)
    (habove : (entries.filter kind.isUsable).length > cap) :
    cap = 0 ∧ (kind = .recommendation ∨ kind = .category) := by
  -- a list above its cap is not empty
  have hne : entries ≠ [] := by
    rintro rfl
    contradiction
  cases kind <;> simp_all [declines]

end ListKeyword

/-- A built-in keyword takes a list, or it is one for file properties. -/
theorem Builtin.cases_list (kind : Builtin) :
    (∃ list : ListKeyword, kind = list.builtin) ∨ kind = .fileProperty := by
  cases kind with
  | category => exact .inl ⟨.category, rfl⟩
  | topic => exact .inl ⟨.topic, rfl⟩
  | pageId => exact .inl ⟨.pageId, rfl⟩
  | recommendation => exact .inl ⟨.recommendation, rfl⟩
  | fileProperty => exact .inr rfl

/-- File properties know no cap. -/
theorem not_isTruncation_of_fileProperty {arg : Argument} {w : Warning}
    (h : w ∈ (Feature.fileProperty.read arg).2) : w.isTruncation = false := by
  simp only [Feature.fileProperty] at h
  split at h
  · simp at h
  · split at h
    · obtain rfl := List.mem_singleton.mp h
      simp [Warning.isTruncation, Warning.notANumber]
    · simp at h

namespace Query

/-- The clauses of a text in order, each with the warnings that came up when it was read. -/
def readings (registry : Registry) (options : QueryOptions) (text : String) :
    List (Clause Node × List Warning) :=
  (Token.scan 0 true text.toList).map (tokenClause registry options)

/-- A query that was read is made of the readings of its text. -/
theorem readings_of_parse {registry : Registry} {options : QueryOptions} {text : String}
    {q : Query} (h : parse registry options text = .ok q) :
    q.clauses = (readings registry options text).map (·.1) ∧
      q.warnings = (readings registry options text).flatMap (·.2) := by
  rw [(parse_eq_ok_iff.mp h).2.2, ofTokens, readings, List.map_map, List.flatMap_map]
  exact ⟨rfl, rfl⟩

section Clauses

variable (caps : Caps) (options : QueryOptions) {t : Token}

/-- **The clause of a candidate with a list**, and its warnings. -/
theorem tokenClause_of_list {kind : ListKeyword} {c : Candidate} {entries : List String}
    (hcontent : t.content = .keyword c) (hkey : kind.builtin.Answers c.key)
    (hlists : kind.Lists c.value entries) :
    (tokenClause (.builtin caps) options t).1.node =
        (if kind.declines (kind.cap caps) entries then
          .word c.literal ⟨t.textStart, t.span.stop⟩
        else
          .directive ⟨c.toArgument,
            kind.holding ((entries.filter kind.isUsable).take (kind.cap caps)),
            (t.occur options).1 = .mustNot⟩ ⟨t.textStart, t.span.stop⟩) ∧
      (tokenClause (.builtin caps) options t).2 = kind.reports c.key (kind.cap caps) entries := by
  -- the registry knows the keyword, so the value is read by its feature
  have hfind : (Registry.builtin caps).find? c.key = some (kind.feature (kind.cap caps)) :=
    find?_builtin_iff.mpr ⟨kind.builtin, hkey, (kind.feature_builtin caps).symm⟩
  have hread := ListKeyword.read_eq c.toArgument (kind.cap caps) hlists
  simp only [tokenClause, tokenNode, hcontent,
    resolve_of_find hfind (kind.acceptsQuoted_feature _), hread]
  refine ⟨?_, trivial⟩
  cases kind.declines (kind.cap caps) entries <;> rfl

variable {caps options}

/-- A warning about a cap comes from a candidate with a list. -/
theorem exists_list_of_isTruncation {w : Warning}
    (hw : w ∈ (tokenClause (.builtin caps) options t).2) (htruncation : w.isTruncation = true) :
    ∃ c, ∃ kind : ListKeyword, t.content = .keyword c ∧ kind.builtin.Answers c.key := by
  simp only [tokenClause, tokenNode] at hw
  cases hcontent : t.content with
  | word text => simp [hcontent] at hw
  | phrase p => simp [hcontent] at hw
  | keyword c =>
    rw [hcontent] at hw
    obtain ⟨feature, hfind, hw⟩ := exists_feature_of_warning hw
    obtain ⟨kind, hkey, rfl⟩ := find?_builtin_iff.mp hfind
    rcases kind.cases_list with ⟨list, rfl⟩ | rfl
    · exact ⟨c, list, rfl, hkey⟩
    · rw [not_isTruncation_of_fileProperty hw] at htruncation
      contradiction

/-- A clause warns about a cap at most once. -/
theorem countP_isTruncation_le_one :
    (tokenClause (.builtin caps) options t).2.countP Warning.isTruncation ≤ 1 := by
  -- without any such warning there is nothing to count, and with one there is a list
  by_cases hnone : ∀ w ∈ (tokenClause (.builtin caps) options t).2, w.isTruncation = false
  · rw [List.countP_eq_zero.mpr (by simpa using hnone)]
    exact Nat.zero_le 1
  · push Not at hnone
    obtain ⟨w, hw, htruncation⟩ := hnone
    obtain ⟨c, kind, hcontent, hkey⟩ := exists_list_of_isTruncation hw (by simpa using htruncation)
    obtain ⟨entries, hentries⟩ := kind.exists_lists_iff c.value
    rw [(tokenClause_of_list caps options hcontent hkey ((hentries entries).mpr rfl)).2,
      List.countP_eq_length_filter, kind.filter_isTruncation_reports]
    split <;> simp

/-- **What a warning about a cap says.** The list of its clause has as many entries as the cap, or
the directive is gone, as flags and categories are if their cap is zero. -/
theorem truncated_or_cancelled {w : Warning}
    (hw : w ∈ (tokenClause (.builtin caps) options t).2) (htruncation : w.isTruncation = true) :
    (tokenClause (.builtin caps) options t).1.Truncated w ∨
      (tokenClause (.builtin caps) options t).1.Cancelled caps w := by
  obtain ⟨c, kind, hcontent, hkey⟩ := exists_list_of_isTruncation hw htruncation
  obtain ⟨entries, hentries⟩ := kind.exists_lists_iff c.value
  obtain ⟨hnode, hwarnings⟩ := tokenClause_of_list caps options hcontent hkey
    ((hentries entries).mpr rfl)
  -- the warning is the one report about the cap
  have hmem := List.mem_filter.mpr ⟨hw, htruncation⟩
  rw [hwarnings, kind.filter_isTruncation_reports] at hmem
  split at hmem
  case isFalse hwithin => simp at hmem
  case isTrue habove =>
    obtain rfl := List.mem_singleton.mp hmem
    cases hdeclines : kind.declines (kind.cap caps) entries with
    | false =>
      rw [hdeclines] at hnode
      refine .inl ⟨_, _, kind.cap caps, hnode, rfl, ?_⟩
      rw [kind.size?_holding, List.length_take, Nat.min_eq_left (Nat.le_of_lt habove)]
    | true =>
      rw [hdeclines] at hnode
      obtain ⟨hzero, hkind⟩ := ListKeyword.cap_eq_zero_of_declines hdeclines habove
      refine .inr ⟨_, _, c.key, hnode, by rw [hzero]; rfl, ?_⟩
      rcases hkind with rfl | rfl
      · exact .inl ⟨hkey, hzero⟩
      · exact .inr ⟨hkey, hzero⟩

variable (options t) in
/-- With a cap of zero a single entry is too many, and its directive is gone. -/
theorem cancelled_of_cap_eq_zero {kind : ListKeyword} {c : Candidate} {entries : List String}
    (hcontent : t.content = .keyword c) (hkey : kind.builtin.Answers c.key)
    (hlists : kind.Lists c.value entries) (hne : entries ≠ [])
    (hkind : kind = .recommendation ∨ kind = .category) (hzero : kind.cap caps = 0) :
    ∃ w ∈ (tokenClause (.builtin caps) options t).2, w.isTruncation = true ∧
      (tokenClause (.builtin caps) options t).1.Cancelled caps w := by
  obtain ⟨hnode, hwarnings⟩ := tokenClause_of_list caps options hcontent hkey hlists
  have hdeclines : kind.declines (kind.cap caps) entries = true := by
    rw [hzero]
    rcases hkind with rfl | rfl <;> rfl
  -- every entry of these can be used, and already one of them is above the cap
  have habove : (entries.filter kind.isUsable).length > kind.cap caps := by
    have husable : ∀ e, kind.isUsable e = true := by
      rcases hkind with rfl | rfl <;> exact fun e => rfl
    rw [hzero, ListKeyword.filter_of_usable husable]
    exact List.length_pos_iff.mpr hne
  have hmem : (⟨"feature-too-many-conditions", [c.key, toString (kind.cap caps)]⟩ : Warning) ∈
      (kind.reports c.key (kind.cap caps) entries).filter Warning.isTruncation := by
    rw [kind.filter_isTruncation_reports, if_pos habove]
    exact List.mem_singleton_self _
  obtain ⟨hw, htruncation⟩ := List.mem_filter.mp hmem
  rw [hdeclines] at hnode
  refine ⟨_, by rwa [hwarnings], htruncation, _, _, c.key, hnode, by rw [hzero]; rfl, ?_⟩
  rcases hkind with rfl | rfl
  · exact .inl ⟨hkey, hzero⟩
  · exact .inr ⟨hkey, hzero⟩

end Clauses

/-! ## Main results -/

/-- A word in place of a directive is no directive. -/
theorem not_truncated_of_cancelled {caps : Caps} {c : Clause Node} {w : Warning}
    (h : c.Cancelled caps w) : ¬ c.Truncated w := by
  obtain ⟨text, s, -, hword, -⟩ := h
  rintro ⟨d, s', -, hdirective, -⟩
  rw [hword] at hdirective
  contradiction

/-- One entry is enough, so with a cap of zero the directive of a short text is gone. -/
theorem exists_cancelled {caps : Caps} (kind : ListKeyword)
    (hkind : kind = .recommendation ∨ kind = .category) (hzero : kind.cap caps = 0)
    {key : String} (hkey : key ∈ kind.builtin.keywords) :
    ∃ q, parse (.builtin caps) {} (key ++ ":a") = .ok q ∧
      ∃ r ∈ readings (.builtin caps) {} (key ++ ":a"), ∃ w ∈ r.2,
        w.isTruncation = true ∧ r.1.Cancelled caps w := by
  have hanswers : kind.builtin.Answers key := by
    rwa [Builtin.Answers, kind.builtin.foldName_keywords key hkey]
  have hlists : kind.Lists "a" ["a"] := by
    rcases hkind with rfl | rfl
    · exact listEntries_eq_iff.mp (by decide +kernel)
    · exact listEntries_eq_iff.mp (by decide +kernel)
  -- the keywords of the two kinds are known, and they are short
  have hlength : (key ++ ":a").toList.length ≤ ({} : QueryOptions).effectiveLimit := by
    rcases hkind with rfl | rfl
    · obtain rfl := List.mem_singleton.mp hkey
      decide
    · obtain rfl := List.mem_singleton.mp hkey
      decide
  -- the text is one candidate
  have htext : (key ++ ":a").toList = key.toList ++ ':' :: ['a'] := by simp
  have hscan : Token.scan 0 true (key.toList ++ ':' :: ['a']) = _ :=
    scan_directive hanswers.isKey ⟨'a', rfl, by decide⟩ (List.forall_mem_singleton.mpr (by decide))
  rw [← htext, String.ofList_toList] at hscan
  obtain ⟨w, hw, htruncation, hcancelled⟩ := cancelled_of_cap_eq_zero {}
    ⟨.keyword ⟨⟨key, "a", "a", none, ""⟩, .ofList (key ++ ":a").toList⟩, none,
      ⟨0, (key ++ ":a").toList.length⟩, 0⟩ rfl hanswers hlists (by simp) hkind hzero
  refine ⟨_, parse_of_length_le _ _ _ hlength, _, ?_, w, hw, htruncation, hcancelled⟩
  rw [readings, hscan]
  exact List.mem_singleton_self _

/-- **Where a list above its cap is cut off and nothing else.** With the built-in keywords, that
every warning about a cap speaks of a directive whose list has as many entries as the cap, and that
no clause has two such warnings, is true of all texts and options exactly if the caps for flags and
for categories are not zero. And whatever the caps are: the clauses and the warnings of a query
are those of its readings, none of which warns about a cap more than once; and a warning about a
cap is about such a directive, or about a word that stands for flags or categories of which the
cap is zero. -/
theorem truncates_iff (caps : Caps) :
    ((∀ options text q, parse (.builtin caps) options text = .ok q →
        ∀ r ∈ readings (.builtin caps) options text,
          (∀ w ∈ r.2, w.isTruncation = true → r.1.Truncated w) ∧
            r.2.countP Warning.isTruncation ≤ 1) ↔
      caps.recommendationFlags ≠ 0 ∧ caps.categories ≠ 0) ∧
    ∀ options text q, parse (.builtin caps) options text = .ok q →
      q.clauses = (readings (.builtin caps) options text).map (·.1) ∧
      q.warnings = (readings (.builtin caps) options text).flatMap (·.2) ∧
      ∀ r ∈ readings (.builtin caps) options text,
        r.2.countP Warning.isTruncation ≤ 1 ∧
        ∀ w ∈ r.2, w.isTruncation = true → r.1.Truncated w ∨ r.1.Cancelled caps w := by
  have hreadings : ∀ options text, ∀ r ∈ readings (.builtin caps) options text,
      r.2.countP Warning.isTruncation ≤ 1 ∧
        ∀ w ∈ r.2, w.isTruncation = true → r.1.Truncated w ∨ r.1.Cancelled caps w := by
    intro options text r hr
    obtain ⟨t, -, rfl⟩ := List.mem_map.mp hr
    exact ⟨countP_isTruncation_le_one, fun w hw => truncated_or_cancelled hw⟩
  refine ⟨⟨fun hkept => ⟨fun hzero => ?_, fun hzero => ?_⟩, ?_⟩, ?_⟩
  · -- if a cap is zero, a text of one directive shows that its list is not cut off but gone
    obtain ⟨q, hparse, r, hr, w, hw, htruncation, hcancelled⟩ :=
      exists_cancelled .recommendation (.inl rfl) hzero (List.mem_singleton_self _)
    exact not_truncated_of_cancelled hcancelled ((hkept _ _ q hparse r hr).1 w hw htruncation)
  · obtain ⟨q, hparse, r, hr, w, hw, htruncation, hcancelled⟩ :=
      exists_cancelled .category (.inr rfl) hzero (List.mem_singleton_self _)
    exact not_truncated_of_cancelled hcancelled ((hkept _ _ q hparse r hr).1 w hw htruncation)
  · -- otherwise no directive is gone, so that every list is cut off
    rintro ⟨hflags, hcategories⟩ options text q - r hr
    obtain ⟨honce, hcases⟩ := hreadings options text r hr
    refine ⟨fun w hw htruncation => ?_, honce⟩
    rcases hcases w hw htruncation with htruncated | ⟨-, -, -, -, -, ⟨-, hzero⟩ | ⟨-, hzero⟩⟩
    · exact htruncated
    · exact absurd hzero hflags
    · exact absurd hzero hcategories
  · intro options text q hparse
    obtain ⟨hclauses, hwarnings⟩ := readings_of_parse hparse
    exact ⟨hclauses, hwarnings, hreadings options text⟩

/-- A category above a cap of zero is read as a word, though the warning speaks of a list. -/
theorem exists_cancelled_category :
    ∃ q, parse (.builtin { categories := 0 }) {} "incategory:a" = .ok q ∧
      q.clauses.map (·.node) = [.word "incategory:a" ⟨0, 12⟩] ∧
      q.warnings = [⟨"feature-too-many-conditions", ["incategory", "0"]⟩] ∧
      ¬ ∀ r ∈ readings (.builtin { categories := 0 }) {} "incategory:a",
        ∀ w ∈ r.2, w.isTruncation = true → r.1.Truncated w := by
  have hscan : Token.scan 0 true "incategory:a".toList =
      [⟨.keyword ⟨⟨"incategory", "a", "a", none, ""⟩, "incategory:a"⟩, none, ⟨0, 12⟩, 0⟩] := by
    decide +kernel
  have hreading : tokenClause (.builtin { categories := 0 }) {}
      ⟨.keyword ⟨⟨"incategory", "a", "a", none, ""⟩, "incategory:a"⟩, none, ⟨0, 12⟩, 0⟩ =
        (⟨.must, false, .word "incategory:a" ⟨0, 12⟩, ⟨0, 12⟩⟩,
          [⟨"feature-too-many-conditions", ["incategory", "0"]⟩]) := rfl
  refine ⟨_, parse_of_length_le _ _ _ (by decide), ?_, ?_, fun hkept => ?_⟩
  · rw [ofTokens, hscan, List.map_singleton, hreading]
    rfl
  · rw [ofTokens, hscan, List.flatMap_singleton, hreading]
  · -- the warning speaks of a directive, and its clause is a word
    rw [readings, hscan, List.map_singleton, hreading] at hkept
    obtain ⟨d, s, n, hnode, -⟩ :=
      hkept _ (List.mem_singleton_self _) _ (List.mem_singleton_self _) (by decide)
    cases hnode

end Query

end WikiSearch
