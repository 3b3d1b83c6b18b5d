import Mathlib.Algebra.GroupWithZero.Nat
import WikiSearch.Proofs.Keyword.Meaning

/-!
# WikiSearch — what is made of a list value

Four of the built-in keywords take a list. Each of them reads its list in its own way: underscores
and capitals are seen to before the entries are cut out or after, an entry may have to be a number
or a known name, and whether a list is too short to be used is asked before the cap is applied or
after. What comes out is the same for all four: of the entries that can be used the first ones, as
many as the cap allows, and a report on the entries that cannot be used and on the cap. No entry is
left out without a report.

The entries of a value are those that its grammar gives (`ListKeyword.Lists`), and which of them
can be used is said of one entry at a time (`ListKeyword.isUsable`).

Main results:

* `ListKeyword.read_eq` — the outcome for any cap, in terms of the entries.
* `ListKeyword.read_accounts` — with a cap that allows an entry, every entry is accounted for.
-/

namespace WikiSearch

open Text

/-- The keywords whose value is a list. -/
inductive ListKeyword where
  | pageId
  | recommendation
  | category
  | topic
deriving DecidableEq

namespace ListKeyword

/-- The feature behind a keyword. -/
def feature (cap : Nat) : ListKeyword → Feature
  | pageId => .pageId cap
  | recommendation => .recommendation cap
  | category => .category cap
  | topic => .topic cap

/-- The entries that are written in a value. An underscore in a category is a space, and topics
are in lower case. -/
def Lists : ListKeyword → String → List String → Prop
  | pageId, value, entries => Entries value.toList entries
  | recommendation, value, entries => Entries value.toList entries
  | category, value, entries => Entries (spaced value).toList entries
  | topic, value, entries => ∃ written, Entries value.toList written ∧ entries = written.map lowercase

/-- Whether an entry can be used: as a page id if it is a number that can be stored, as a topic if
it is known, and as a flag or a category in any case. -/
def isUsable : ListKeyword → String → Bool
  | pageId, e => e.toList.all isDigit && decide (digitsValue e.toList < 2 ^ 64)
  | recommendation, _ => true
  | category, _ => true
  | topic, e => decide (e ∈ knownTopics)

/-- A value that holds some entries. -/
def holding : ListKeyword → List String → KeywordValue
  | pageId, entries => .pageIds (entries.map fun e => digitsValue e.toList)
  | recommendation, entries => .recommendationFlags entries
  | category, entries => .categories entries
  | topic, entries => .topics entries

/-- The key of the report on entries that cannot be used, for the keywords that have such. -/
def refusalKey? : ListKeyword → Option String
  | pageId => some "feature-pageid-invalid-id"
  | topic => some "feature-articletopic-invalid-topic"
  | _ => none

/-- The report on the entries that cannot be used, if there are any. -/
def refusals (kind : ListKeyword) (unusable : List String) : List Warning :=
  if unusable = [] then []
  else kind.refusalKey?.toList.map
    (⟨·, [", ".intercalate unusable, toString unusable.length]⟩)

/-- The reports on a list: behind that on the entries that cannot be used stands one on the cap, if
more entries can be used than it allows. -/
def reports (kind : ListKeyword) (key : String) (cap : Nat) (entries : List String) :
    List Warning :=
  kind.refusals (entries.filter fun e => !kind.isUsable e) ++
    if (entries.filter kind.isUsable).length > cap
      then [⟨"feature-too-many-conditions", [key, toString cap]⟩] else []

@[simp]
theorem refusals_nil (kind : ListKeyword) : kind.refusals [] = [] := if_pos rfl

/-- An empty list is not reported. -/
@[simp]
theorem reports_nil (kind : ListKeyword) (key : String) (cap : Nat) :
    kind.reports key cap [] = [] := by
  simp [reports]

/-- Whether a list is declined. Flags and categories are counted behind the cap. -/
def declines : ListKeyword → Nat → List String → Bool
  | pageId, _, _ => false
  | recommendation, cap, entries => (entries.take cap).isEmpty
  | category, cap, entries => (entries.take cap).isEmpty
  | topic, _, entries => entries.isEmpty

end ListKeyword

/-! ## Entries -/

/-- What stands between two bars gives an entry that is not empty, or none. -/
theorem ne_empty_of_entryPiece {cs : List Char} {es : List String} (h : EntryPiece cs es) :
    ∀ e ∈ es, e ≠ "" := by
  cases h with
  | blank hblank => simp
  | entry hfront hback htrim hne => simpa using hne

/-- No entry is empty. -/
theorem ne_empty_of_entries {cs : List Char} {es : List String} (h : Entries cs es) :
    ∀ e ∈ es, e ≠ "" := by
  induction h with
  | last hbar hpiece => exact ne_empty_of_entryPiece hpiece
  | cons hbar hpiece hrest ih =>
    intro e he
    rcases List.mem_append.mp he with he | he
    · exact ne_empty_of_entryPiece hpiece e he
    · exact ih e he

namespace ListKeyword

/-- A value has entries, in one way only. -/
theorem exists_lists_iff (kind : ListKeyword) (value : String) :
    ∃ entries, ∀ es, kind.Lists value es ↔ es = entries := by
  cases kind with
  | pageId => exact ⟨listEntries value, fun es => listEntries_eq_iff.symm.trans eq_comm⟩
  | recommendation => exact ⟨listEntries value, fun es => listEntries_eq_iff.symm.trans eq_comm⟩
  | category =>
    exact ⟨listEntries (spaced value), fun es => listEntries_eq_iff.symm.trans eq_comm⟩
  | topic =>
    refine ⟨(listEntries value).map lowercase, fun es => ?_⟩
    simp only [Lists, ← listEntries_eq_iff, exists_eq_left']

/-- An entry is read as a page id if it can be used as one. -/
theorem pageId?_eq {e : String} (h : e ≠ "") :
    WikiSearch.pageId? e = if pageId.isUsable e then some (digitsValue e.toList) else none := by
  have hne : e.toList ≠ [] := mt String.toList_eq_nil_iff.mp h
  -- the bound is given as the largest number in one place, and as the first that is too large in
  -- the other
  have hmax : digitsValue e.toList ≤ maxStored ↔ digitsValue e.toList < 2 ^ 64 := by
    rw [maxStored, UInt64.size]
    omega
  simp only [WikiSearch.pageId?, stored?, isUsable, hmax, Bool.and_eq_true, decide_eq_true_eq]
  simp only [ne_eq, hne, not_false_eq_true, true_and]

/-- The page ids that are read are those of the entries that can be used. -/
theorem filterMap_pageId? {es : List String} (h : ∀ e ∈ es, e ≠ "") :
    es.filterMap WikiSearch.pageId? =
      (es.filter pageId.isUsable).map fun e => digitsValue e.toList := by
  induction es with
  | nil => rfl
  | cons e es ih =>
    rw [List.forall_mem_cons] at h
    rw [List.filterMap_cons, pageId?_eq h.1, ih h.2, List.filter_cons]
    cases pageId.isUsable e <;> rfl

/-- The entries that are refused as page ids are those that cannot be used. -/
theorem filter_pageId?_isNone {es : List String} (h : ∀ e ∈ es, e ≠ "") :
    (es.filter fun e => (WikiSearch.pageId? e).isNone) = es.filter fun e => !pageId.isUsable e := by
  refine List.filter_congr fun e he => ?_
  rw [pageId?_eq (h e he)]
  cases pageId.isUsable e <;> rfl

/-! ## Reading a list -/

section Reading

variable (arg : Argument) (cap : Nat) {entries : List String}

/-- Page ids are never declined, and entries that are no ids do not count against the cap. -/
theorem read_pageId (h : pageId.Lists arg.value entries) :
    (pageId.feature cap).read arg =
      (some (pageId.holding ((entries.filter pageId.isUsable).take cap)),
        pageId.reports arg.key cap entries) := by
  have hentries : listEntries arg.value = entries := listEntries_eq_iff.mpr h
  -- the reader refuses an empty entry, too, but there is none
  have hne := ne_empty_of_entries h
  simp only [feature, Feature.pageId_read, hentries, filterMap_pageId? hne,
    filter_pageId?_isNone hne, List.length_map, ← List.map_take]
  rfl

/-- Topics are declined if there is no entry at all, known or not. -/
theorem read_topic (h : topic.Lists arg.value entries) :
    (topic.feature cap).read arg =
      (if entries = [] then none
        else some (topic.holding ((entries.filter topic.isUsable).take cap)),
        topic.reports arg.key cap entries) := by
  obtain ⟨written, hwritten, rfl⟩ := h
  have hentries : listEntries arg.value = written := listEntries_eq_iff.mpr hwritten
  -- the topics that can be used are those of the table
  have hknown : topic.isUsable = isKnownTopic := by
    funext e
    rw [isKnownTopic, List.contains_eq_mem]
    rfl
  rw [feature, Feature.topic_read, hentries, reports, hknown]
  rfl

section Usable

variable {kind : ListKeyword} (h : ∀ e, kind.isUsable e = true)
include h

theorem filter_of_usable (entries : List String) : entries.filter kind.isUsable = entries :=
  List.filter_eq_self.mpr fun e _ => h e

/-- Where every entry can be used, the cap is all there is to report. -/
theorem reports_of_usable (key : String) (cap : Nat) (entries : List String) :
    kind.reports key cap entries =
      if entries.length > cap then [⟨"feature-too-many-conditions", [key, toString cap]⟩]
        else [] := by
  simp only [reports, filter_of_usable h, h, Bool.not_true, List.filter_false, refusals_nil,
    List.nil_append]

end Usable

/-- Flags are declined if the cap leaves none. -/
theorem read_recommendation (h : recommendation.Lists arg.value entries) :
    (recommendation.feature cap).read arg =
      (if entries.take cap = [] then none else some (recommendation.holding (entries.take cap)),
        recommendation.reports arg.key cap entries) := by
  have hentries : listEntries arg.value = entries := listEntries_eq_iff.mpr h
  rw [reports_of_usable fun _ => rfl, feature, Feature.recommendation_read, hentries]
  rfl

/-- Categories are declined if the cap leaves none. -/
theorem read_category (h : category.Lists arg.value entries) :
    (category.feature cap).read arg =
      (if entries.take cap = [] then none else some (category.holding (entries.take cap)),
        category.reports arg.key cap entries) := by
  have hentries : listEntries (spaced arg.value) = entries := listEntries_eq_iff.mpr h
  rw [reports_of_usable fun _ => rfl, feature, Feature.category_read, hentries]
  rfl

/-- **What is made of a list**, whatever the cap is: the report depends on the entries alone, and
if the list is not declined, the first entries that can be used are kept. -/
theorem read_eq {kind : ListKeyword} (h : kind.Lists arg.value entries) :
    (kind.feature cap).read arg =
      (if kind.declines cap entries then none
        else some (kind.holding ((entries.filter kind.isUsable).take cap)),
        kind.reports arg.key cap entries) := by
  cases kind with
  | pageId => simp [read_pageId arg cap h, declines]
  | recommendation =>
    rw [filter_of_usable fun _ => rfl, read_recommendation arg cap h]
    simp [declines]
  | category =>
    rw [filter_of_usable fun _ => rfl, read_category arg cap h]
    simp [declines]
  | topic => simp [read_topic arg cap h, declines]

/-- A cap that allows an entry declines no entries. -/
theorem declines_iff (kind : ListKeyword) {cap : Nat} (hcap : 1 ≤ cap) (entries : List String) :
    kind.declines cap entries = true ↔ entries = [] ∧ kind ≠ .pageId := by
  -- so it makes no difference whether entries are counted behind the cap
  have htake : entries.take cap = [] ↔ entries = [] := by
    rw [List.take_eq_nil_iff, or_iff_right (by omega)]
  cases kind with
  | pageId => simp [declines]
  | recommendation => simp only [declines, List.isEmpty_iff, htake]; simp
  | category => simp only [declines, List.isEmpty_iff, htake]; simp
  | topic => simp [declines]

/-- **No entry is left out without a report.** For every keyword with a list, every argument and
every cap that allows an entry: the value has entries in one way only. If there are none, then
nothing is made of it and nothing is reported, unless the keyword is that for page ids. Otherwise
the first entries that can be used are kept, as many as the cap allows, all in order; the other
entries are reported together with their number; and behind that the cap is reported exactly if
more entries can be used than it allows. -/
theorem read_accounts (kind : ListKeyword) (arg : Argument) (cap : Nat) (hcap : 1 ≤ cap) :
    ∃ entries, (∀ es, kind.Lists arg.value es ↔ es = entries) ∧
      let usable := entries.filter kind.isUsable
      let unusable := entries.filter fun e => !kind.isUsable e
      (kind.feature cap).read arg =
        if entries = [] ∧ kind ≠ .pageId then (none, [])
        else (some (kind.holding (usable.take (min cap usable.length))),
          (if unusable = [] then []
            else kind.refusalKey?.toList.map
              (⟨·, [", ".intercalate unusable, toString unusable.length]⟩)) ++
          if usable.length > cap then [⟨"feature-too-many-conditions", [arg.key, toString cap]⟩]
            else []) := by
  obtain ⟨entries, hentries⟩ := kind.exists_lists_iff arg.value
  refine ⟨entries, hentries, ?_⟩
  simp only [read_eq arg cap ((hentries entries).mpr rfl), declines_iff kind hcap,
    ← List.take_eq_take_min]
  split
  case isTrue hnone =>
    -- without entries there is nothing to report
    rw [hnone.1, reports_nil]
  case isFalse hsome => rfl

/-- A list of page ids with an empty entry, a word, a number that cannot be stored and a page id
above the cap. -/
theorem read_accounts_of_pageIds :
    1 ≤ 2 ∧ (pageId.feature 2).read ⟨"PageID", "07 ||x|18446744073709551616|8|9", "", none, ""⟩ =
      (some (.pageIds [7, 8]),
        [⟨"feature-pageid-invalid-id", ["x, 18446744073709551616", "2"]⟩,
          ⟨"feature-too-many-conditions", ["PageID", "2"]⟩]) := by
  refine ⟨by decide, ?_⟩
  obtain ⟨entries, hentries, hread⟩ := read_accounts pageId
    ⟨"PageID", "07 ||x|18446744073709551616|8|9", "", none, ""⟩ 2 (by decide)
  obtain rfl : ["07", "x", "18446744073709551616", "8", "9"] = entries :=
    (hentries _).mp (listEntries_eq_iff.mp (by decide +kernel))
  rw [hread]
  decide +kernel

end Reading

end ListKeyword

end WikiSearch
