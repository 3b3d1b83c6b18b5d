import WikiSearch.Keyword.Registry
import WikiSearch.Proofs.Filter.Meaning
import WikiSearch.Proofs.Keyword.FileProperty

/-!
# WikiSearch — what the built-in directives ask for

A directive of one of the built-in keywords asks for certain pages. Which ones is said here of
the directive as it was written (`Argument.Asks`), for each kind of keyword by itself, and of
pages as the backend holds them: an id, some texts in every text field and a number in every
numeric field. The entries of a list and the bounds of a range are those that are written by
the grammars in the modules in front (`listEntries_eq_iff`, `bounds?_eq_some_iff`).

A feature reads the value first and builds a filter later, and each of the two may give up. What
the two steps have to come to is stated once, for any feature (`Feature.Means`): the filter lets
through the pages that are asked for, and it is missing exactly if no page could ever be.

Main results:

* `reads_iff` — which values can be read at all.
* `means_builtin` — what is read and built means what the directive asks for.
* `find?_builtin_iff` — the registry of the built-in features knows the built-in keywords alone.
-/

namespace WikiSearch

open Text

/-! ## Pages -/

/-- A page as the backend holds it. A text field holds any number of texts, a numeric field one
number. -/
structure Page where
  id : Nat
  texts : String → List String
  number : String → Nat

/-- Which pages satisfy the restrictions that filters are made of. -/
def Page.model : DocumentModel Page where
  ids values page := page.id ∈ values
  term field value page := value ∈ page.texts field
  terms field values page := ∃ value ∈ values, value ∈ page.texts field
  range field low high page :=
    (∀ n ∈ low, n ≤ page.number field) ∧ ∀ n ∈ high, page.number field ≤ n

/-! ## Directives -/

/-- The kinds of built-in keywords. -/
inductive Builtin where
  | category
  | topic
  | pageId
  | recommendation
  | fileProperty
deriving DecidableEq

namespace Builtin

/-- The keywords of a kind. -/
def keywords : Builtin → List String
  | category => ["incategory"]
  | topic => ["articletopic"]
  | pageId => ["pageid"]
  | recommendation => ["hasrecommendation"]
  | fileProperty => filePropertyKeywords

/-- Whether a key is a keyword of a kind. Case does not count. -/
def Answers (kind : Builtin) (key : String) : Prop := foldName key ∈ kind.keywords

/-- Whether a value can be read. A list needs an entry that its cap leaves; unknown topics and
entries that are no page ids count as entries. -/
def Reads (caps : Caps) (arg : Argument) : Builtin → Prop
  | category => (listEntries (spaced arg.value)).take caps.categories ≠ []
  | topic => listEntries arg.value ≠ []
  | pageId => True
  | recommendation => (listEntries arg.value).take caps.recommendationFlags ≠ []
  | fileProperty => ∃ field bounds, fileField? arg.key = some field ∧
      WrittenBounds (field = "file_size") arg.value.toList bounds

/-- Whether a page is asked for by a directive of a kind. The caps count what can be used. -/
def Asks (caps : Caps) (strict : Bool) (arg : Argument) (kind : Builtin) (page : Page) : Prop :=
  match kind with
  | category => ∃ name ∈ (listEntries (spaced arg.value)).take caps.categories,
      if strict then name ∈ page.texts "category"
      else lowercase name ∈ page.texts "category.lowercase_keyword"
  | topic => ∃ t ∈ (((listEntries arg.value).map lowercase).filter isKnownTopic).take caps.topics,
      "classification.articletopic/" ++ t ∈ page.texts "weighted_tags"
  | pageId => page.id ∈ ((listEntries arg.value).filterMap pageId?).take caps.pageIds
  | recommendation => ∃ flag ∈ (listEntries arg.value).take caps.recommendationFlags,
      "recommendation." ++ flag ++ "/exists" ∈ page.texts "weighted_tags" ∨
      flag ++ "/exists" ∈ page.texts "recommendation_tags"
  | fileProperty => ∃ field low high, fileField? arg.key = some field ∧
      WrittenBounds (field = "file_size") arg.value.toList (low, high) ∧
      -- sizes are written in kilobytes
      let scale := if field = "file_size" then kilobytes else id
      (∀ n ∈ low, scale n ≤ page.number field) ∧ ∀ n ∈ high, page.number field ≤ scale n

/-- The feature behind a kind of keywords. -/
def feature (caps : Caps) : Builtin → Feature
  | category => .category caps.categories
  | topic => .topic caps.topics
  | pageId => .pageId caps.pageIds
  | recommendation => .recommendation caps.recommendationFlags
  | fileProperty => .fileProperty

end Builtin

/-- Whether a page is asked for by a directive as it was written. -/
def Argument.Asks (caps : Caps) (strict : Bool) (arg : Argument) (page : Page) : Prop :=
  ∃ kind : Builtin, kind.Answers arg.key ∧ kind.Asks caps strict arg page

/-- Of a value that it can read, a feature makes a filter for the pages that are asked for, or
none if no page could be. -/
def Feature.Means (f : Feature) (strict : Bool) (arg : Argument) (asks : Page → Prop) : Prop :=
  ∀ v, (f.read arg).1 = some v →
    (f.filter? strict v = none ∧ ∀ page, ¬ asks page) ∨
    ∃ g, f.filter? strict v = some g ∧ (∃ page, asks page) ∧
      ∀ page, g.Holds Page.model page ↔ asks page

/-! ## The features one by one -/

section Features

variable (strict : Bool) (arg : Argument)

/-! ### What can be read -/

/-- The field is looked up by the key, and the bounds are scaled if sizes are written. -/
theorem read_fileProperty :
    (Feature.fileProperty.read arg).1 = (fileField? arg.key).bind fun field =>
      (bounds? (field = "file_size") arg.value.toList).map fun bounds =>
        let scale := if field = "file_size" then kilobytes else id
        .numericRange ⟨field, bounds.1.map scale, bounds.2.map scale⟩ := by
  simp only [Feature.fileProperty]
  cases fileField? arg.key with
  | none => rfl
  | some field =>
    simp only [Option.bind_some]
    cases bounds? (field = "file_size") arg.value.toList with
    | none => rfl
    | some bounds => simp

/-- **Which values can be read.** -/
theorem reads_iff (caps : Caps) (kind : Builtin) :
    ((kind.feature caps).read arg).1.isSome = true ↔ kind.Reads caps arg := by
  cases kind with
  | category => simp [Builtin.feature, Feature.category_read, Builtin.Reads]
  | topic => simp [Builtin.feature, Feature.topic_read, Builtin.Reads]
  | pageId => simp [Builtin.feature, Feature.pageId_read, Builtin.Reads]
  | recommendation => simp [Builtin.feature, Feature.recommendation_read, Builtin.Reads]
  | fileProperty =>
    -- here the grammar says whether there are bounds
    simp only [Builtin.feature, read_fileProperty, Option.isSome_iff_exists,
      Option.bind_eq_some_iff, Option.map_eq_some_iff, bounds?_eq_some_iff, Builtin.Reads]
    constructor
    · rintro ⟨_, field, hfield, bounds, hwritten, -⟩
      exact ⟨field, bounds, hfield, hwritten⟩
    · rintro ⟨field, bounds, hfield, hwritten⟩
      exact ⟨_, field, hfield, bounds, hwritten, rfl⟩

/-! ### What is built -/

section Built

variable (caps : Caps)

/-- A list of page ids asks for the pages that have one of them. -/
theorem means_pageId :
    (Builtin.pageId.feature caps).Means strict arg (Builtin.pageId.Asks caps strict arg) := by
  intro v hread
  simp only [Builtin.feature, Feature.pageId_read, Option.some.injEq] at hread
  obtain rfl := hread
  simp only [Builtin.Asks]
  -- without a page id that can be read nothing is asked for, and there is no filter
  cases ((listEntries arg.value).filterMap pageId?).take caps.pageIds with
  | nil => exact .inl ⟨rfl, fun page => List.not_mem_nil⟩
  | cons id ids =>
    refine .inr ⟨.ids (id :: ids), rfl, ?_, fun page => Iff.rfl⟩
    exact ⟨⟨id, fun _ => [], fun _ => 0⟩, List.mem_cons_self ..⟩

/-- A list of terms in one field: there is a page that has the first of them. -/
theorem means_terms {α : Type} (field : String) (term : α → String) (a : α) (as : List α) :
    (∃ page : Page, ∃ b ∈ a :: as, term b ∈ page.texts field) ∧
      ∀ page, (Filter.terms field ((a :: as).map term)).Holds Page.model page ↔
        ∃ b ∈ a :: as, term b ∈ page.texts field := by
  constructor
  · exact ⟨⟨0, fun _ => [term a], fun _ => 0⟩, a, List.mem_cons_self ..,
      List.mem_singleton.mpr rfl⟩
  · intro page
    show (∃ value ∈ (a :: as).map term, value ∈ page.texts field) ↔ _
    simp only [List.mem_map, exists_exists_and_eq_and]

/-- A list of categories asks for the pages in one of them. -/
theorem means_category :
    (Builtin.category.feature caps).Means strict arg (Builtin.category.Asks caps strict arg) := by
  intro v hread
  simp only [Builtin.feature, Feature.category_read, Option.ite_none_left_eq_some,
    Option.some.injEq] at hread
  obtain ⟨hne, rfl⟩ := hread
  obtain ⟨name, names, hnames⟩ := List.exists_cons_of_ne_nil hne
  simp only [Builtin.Asks, hnames]
  -- loosely the names are matched in lower case, and in another field
  cases strict with
  | false =>
    exact .inr ⟨_, rfl, means_terms "category.lowercase_keyword" lowercase name names⟩
  | true =>
    have hterms := means_terms "category" id name names
    rw [List.map_id] at hterms
    exact .inr ⟨_, rfl, hterms⟩

/-- A list of topics asks for the pages that are tagged with one of them. -/
theorem means_topic :
    (Builtin.topic.feature caps).Means strict arg (Builtin.topic.Asks caps strict arg) := by
  intro v hread
  simp only [Builtin.feature, Feature.topic_read, Option.ite_none_left_eq_some,
    Option.some.injEq] at hread
  obtain ⟨-, rfl⟩ := hread
  simp only [Builtin.Asks]
  cases (((listEntries arg.value).map lowercase).filter isKnownTopic).take caps.topics with
  | nil =>
    -- entries there are, but no topic among them is known
    refine .inl ⟨rfl, ?_⟩
    rintro page ⟨t, ht, -⟩
    exact absurd ht List.not_mem_nil
  | cons t ts =>
    exact .inr ⟨_, rfl, means_terms "weighted_tags" ("classification.articletopic/" ++ ·) t ts⟩

/-- A flag is looked for in both of the fields that it can stand in. -/
theorem holds_flagFilter (flag : String) (page : Page) :
    (flagFilter flag).Holds Page.model page ↔
      "recommendation." ++ flag ++ "/exists" ∈ page.texts "weighted_tags" ∨
      flag ++ "/exists" ∈ page.texts "recommendation_tags" := by
  rw [flagFilter, Filter.holds_anyOf _ _ (by simp)]
  simp [Filter.Holds, Page.model]

/-- A list of flags asks for the pages that have a recommendation of one of them. -/
theorem means_recommendation :
    (Builtin.recommendation.feature caps).Means strict arg
      (Builtin.recommendation.Asks caps strict arg) := by
  intro v hread
  simp only [Builtin.feature, Feature.recommendation_read, Option.ite_none_left_eq_some,
    Option.some.injEq] at hread
  obtain ⟨hne, rfl⟩ := hread
  obtain ⟨flag, flags, hflags⟩ := List.exists_cons_of_ne_nil hne
  simp only [Builtin.Asks, hflags]
  refine .inr ⟨_, rfl, ?_, ?_⟩
  · -- a page that holds the first flag
    exact ⟨⟨0, fun _ => [flag ++ "/exists"], fun _ => 0⟩, flag, List.mem_cons_self ..,
      .inr (List.mem_singleton.mpr rfl)⟩
  · -- the filter of a flag makes demands, so a disjunction of such filters means one of them
    intro page
    have hdisjunction : ∀ f ∈ (flag :: flags).map flagFilter, f ≠ .bool [] [] [] := by
      intro f hf
      obtain ⟨flag', -, rfl⟩ := List.mem_map.mp hf
      simp [flagFilter, Filter.anyOf, Filter.disjuncts]
    rw [Filter.holds_anyOf _ _ hdisjunction]
    simp only [List.mem_map, exists_exists_and_eq_and, holds_flagFilter]

/-- Bounds that are not the wrong way round have a number between them, namely the lower one. -/
theorem inverted_eq_false_iff {low high : Option Nat} :
    inverted low high = false ↔ ∃ n, (∀ a ∈ low, a ≤ n) ∧ ∀ b ∈ high, n ≤ b := by
  constructor
  · intro h
    refine ⟨low.getD 0, ?_⟩
    cases low <;> cases high <;> simp_all [inverted]
  · -- with both bounds open or one of them nothing can be inverted
    rintro ⟨n, hlow, hhigh⟩
    cases low with
    | none => rfl
    | some a =>
      cases high with
      | none => rfl
      | some b =>
        have ha := hlow a rfl
        have hb := hhigh b rfl
        exact decide_eq_false (by omega)

/-- A value has one reading, so a page is measured by its bounds and no others. -/
theorem asks_fileProperty_iff {field : String} {low high : Option Nat}
    (hfield : fileField? arg.key = some field)
    (hbounds : bounds? (field = "file_size") arg.value.toList = some (low, high)) (page : Page) :
    Builtin.fileProperty.Asks caps strict arg page ↔
      let scale := if field = "file_size" then kilobytes else id
      (∀ n ∈ low.map scale, n ≤ page.number field) ∧
        ∀ n ∈ high.map scale, page.number field ≤ n := by
  simp only [Option.mem_def, Option.map_eq_some_iff, forall_exists_index, and_imp,
    forall_apply_eq_imp_iff₂]
  constructor
  · -- the grammar allows of one field and of one pair of bounds
    rintro ⟨field', low', high', hfield', hwritten, hpage⟩
    rw [hfield, Option.some.injEq] at hfield'
    subst hfield'
    rw [← bounds?_eq_some_iff, hbounds, Option.some.injEq, Prod.mk.injEq] at hwritten
    obtain ⟨rfl, rfl⟩ := hwritten
    exact hpage
  · intro hpage
    exact ⟨field, low, high, hfield, bounds?_eq_some_iff.mp hbounds, hpage⟩

/-- Bounds ask for the pages whose number lies between them. -/
theorem means_fileProperty :
    (Builtin.fileProperty.feature caps).Means strict arg
      (Builtin.fileProperty.Asks caps strict arg) := by
  intro v hread
  rw [Builtin.feature, read_fileProperty, Option.bind_eq_some_iff] at hread
  obtain ⟨field, hfield, hread⟩ := hread
  obtain ⟨⟨low, high⟩, hbounds, rfl⟩ := Option.map_eq_some_iff.mp hread
  simp only [asks_fileProperty_iff strict arg caps hfield hbounds]
  generalize (if field = "file_size" then kilobytes else id) = scale
  have hfilter : Feature.fileProperty.filter? strict
      (.numericRange ⟨field, low.map scale, high.map scale⟩) =
        if inverted (low.map scale) (high.map scale) then none
        else some (.range field (low.map scale) (high.map scale)) := rfl
  rw [Builtin.feature, hfilter]
  cases hinverted : inverted (low.map scale) (high.map scale) with
  | true =>
    -- a page between the bounds would show that they are the right way round
    refine .inl ⟨rfl, ?_⟩
    intro page hpage
    rw [inverted_eq_false_iff.mpr ⟨page.number field, hpage⟩] at hinverted
    contradiction
  | false =>
    obtain ⟨n, hn⟩ := inverted_eq_false_iff.mp hinverted
    exact .inr ⟨_, rfl, ⟨⟨0, fun _ => [], fun _ => n⟩, hn⟩, fun page => Iff.rfl⟩

/-- **What is read and built means what the directive asks for.** -/
theorem means_builtin (kind : Builtin) :
    (kind.feature caps).Means strict arg (kind.Asks caps strict arg) := by
  cases kind with
  | category => exact means_category strict arg caps
  | topic => exact means_topic strict arg caps
  | pageId => exact means_pageId strict arg caps
  | recommendation => exact means_recommendation strict arg caps
  | fileProperty => exact means_fileProperty strict arg caps

end Built

end Features

/-! ## The registry of the built-in features -/

/-- A key can hold the letters from `a` to `z`, in any case. -/
theorem isKeyChar_of_isLower {c : Char} (h : c.toLower.isLower = true) : isKeyChar c = true := by
  have hletters : ∀ n < 26, inRanges alphanumericRanges (0x41 + n) = true ∧
      inRanges alphanumericRanges (0x61 + n) = true := by decide +kernel
  -- a letter that becomes a small one is a capital letter or a small one itself
  by_cases hupper : c.val ≥ 'A'.val ∧ c.val ≤ 'Z'.val
  · have hlow : 0x41 ≤ c.toNat := UInt32.le_iff_toNat_le.mp hupper.1
    have hhigh : c.toNat ≤ 0x5A := UInt32.le_iff_toNat_le.mp hupper.2
    have hletter := (hletters (c.toNat - 0x41) (by omega)).1
    rw [Nat.add_sub_cancel' hlow] at hletter
    rw [isKeyChar, isAlphanumeric, hletter, Bool.true_or]
  · have hsame : c.toLower = c := dif_neg hupper
    have hlower : (decide (c.val ≥ 'a'.val) && decide (c.val ≤ 'z'.val)) = true := hsame ▸ h
    rw [Bool.and_eq_true, decide_eq_true_eq, decide_eq_true_eq] at hlower
    have hlow : 0x61 ≤ c.toNat := UInt32.le_iff_toNat_le.mp hlower.1
    have hhigh : c.toNat ≤ 0x7A := UInt32.le_iff_toNat_le.mp hlower.2
    have hletter := (hletters (c.toNat - 0x61) (by omega)).2
    rw [Nat.add_sub_cancel' hlow] at hletter
    rw [isKeyChar, isAlphanumeric, hletter, Bool.true_or]

/-- A feature whose keywords are in lower case answers to them in any case. -/
theorem answersTo_eq {f : Feature} (h : ∀ k ∈ f.keywords, foldName k = k) (key : String) :
    f.answersTo key = decide (foldName key ∈ f.keywords) := by
  rw [Bool.eq_iff_iff, Feature.answersTo, List.any_eq_true, decide_eq_true_eq]
  constructor
  · rintro ⟨k, hk, hsame⟩
    rw [sameName_iff, h k hk] at hsame
    rwa [← hsame]
  · intro hmem
    exact ⟨foldName key, hmem, sameName_iff.mpr (h _ hmem)⟩

namespace Builtin

theorem foldName_keywords (kind : Builtin) : ∀ k ∈ kind.keywords, foldName k = k := by
  cases kind <;> decide

/-- A keyword in any case is made of the characters that a key can have. -/
theorem Answers.isKey {kind : Builtin} {key : String} (h : kind.Answers key) :
    IsKey key.toList := by
  have hkeywords : ∀ k ∈ kind.keywords, k.toList ≠ [] ∧ k.toList.all Char.isLower = true := by
    cases kind <;> decide
  obtain ⟨hne, hchars⟩ := hkeywords _ h
  rw [foldName, String.toList_ofList] at hne hchars
  rw [List.all_eq_true] at hchars
  refine ⟨fun hnil => hne (by rw [hnil]; rfl), fun c hc => ?_⟩
  exact isKeyChar_of_isLower (hchars _ (List.mem_map_of_mem hc))

theorem keywords_feature (caps : Caps) (kind : Builtin) :
    (kind.feature caps).keywords = kind.keywords := by
  cases kind <;> rfl

/-- No keyword is of two kinds. -/
theorem Answers.unique {kind kind' : Builtin} {key : String} (h : kind.Answers key)
    (h' : kind'.Answers key) : kind = kind' := by
  have hdisjoint : ∀ k ∈ kind.keywords, k ∈ kind'.keywords → kind = kind' := by
    cases kind <;> cases kind' <;> decide
  exact hdisjoint _ h h'

/-- A feature answers to the keywords of its kind, in any case. -/
theorem answersTo_iff (caps : Caps) (kind : Builtin) (key : String) :
    (kind.feature caps).answersTo key = true ↔ kind.Answers key := by
  rw [answersTo_eq, decide_eq_true_eq, keywords_feature]
  · exact Iff.rfl
  · rw [keywords_feature]
    exact foldName_keywords kind

end Builtin

/-- **The registry of the built-in features** knows the built-in keywords, and no others. -/
theorem find?_builtin_iff {caps : Caps} {key : String} {f : Feature} :
    (Registry.builtin caps).find? key = some f ↔
      ∃ kind : Builtin, kind.Answers key ∧ f = kind.feature caps := by
  have hfeatures : (Registry.builtin caps).features =
      [Builtin.category, .topic, .pageId, .recommendation, .fileProperty].map (·.feature caps) :=
    rfl
  have hfound : ∀ f, (Registry.builtin caps).find? key = some f →
      ∃ kind : Builtin, kind.Answers key ∧ f = kind.feature caps := by
    intro f hf
    have hmem := List.mem_of_find?_eq_some hf
    rw [hfeatures] at hmem
    obtain ⟨kind, -, rfl⟩ := List.mem_map.mp hmem
    have hanswers : (kind.feature caps).answersTo key = true := by
      rw [Registry.find?] at hf
      exact List.find?_some (p := fun f : Feature => f.answersTo key) hf
    exact ⟨kind, (Builtin.answersTo_iff caps kind key).mp hanswers, rfl⟩
  refine ⟨hfound f, ?_⟩
  -- some feature is found, as one of them answers, and only one kind has the keyword
  rintro ⟨kind, hkey, rfl⟩
  cases hfind : (Registry.builtin caps).find? key with
  | none =>
    have hmem : kind.feature caps ∈ (Registry.builtin caps).features := by
      rw [hfeatures]
      exact List.mem_map_of_mem (by cases kind <;> decide)
    exact absurd ((Builtin.answersTo_iff caps kind key).mpr hkey)
      (List.find?_eq_none.mp hfind _ hmem)
  | some f =>
    obtain ⟨kind', hkey', rfl⟩ := hfound f hfind
    rw [hkey.unique hkey']

end WikiSearch
