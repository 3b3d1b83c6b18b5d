import Mathlib.Data.List.Forall2
import Mathlib.Data.List.Nodup
import WikiSearch.Keyword.Registry

/-!
# WikiSearch — no two features share a keyword

A registry is built from steps that add features and drop them again, and building it fails if a
keyword is claimed twice. This is decided by comparing keywords in lower case, one after the
other; a look-up compares a key with keywords letter by letter, and takes the first feature that
answers. Three things have to come together before a look-up has no choice:

* **Steps vs features** — what a step drops was added before it, so which features are left, and
  in which order, is said from the last step backwards (`retained`).
* **Lower case vs letters** — two names have the same lower case exactly if they agree letter by
  letter up to the case of `A` to `Z` (`sameName_iff_forall₂`).
* **Keywords vs features** — if all keywords are apart, then so are the features that answer to
  a key, and looking one up does not depend on their order.

Main results:

* `foldl_apply` — the features that a row of steps leaves.
* `duplicate?_eq_some_iff` — the claim that the scan stops at.
* `filter_answersTo_eq` — a look-up finds all features that answer, of which there is at most one.
* `build_iff_distinct` — when a registry is built, and what is found in it.
-/

namespace WikiSearch

/-! ## Names up to case -/

namespace Text

/-- A letter from `A` to `Z`, and the same letter in lower case. -/
def IsCapitalOf (capital small : Char) : Prop :=
  0x41 ≤ capital.toNat ∧ capital.toNat ≤ 0x5A ∧ small.toNat = capital.toNat + 0x20

/-- The same character, up to the case of the letters from `A` to `Z`. -/
def SameLetter (c d : Char) : Prop := c = d ∨ IsCapitalOf c d ∨ IsCapitalOf d c

/-- Names that agree letter by letter, up to the case of the letters from `A` to `Z`. -/
def SameUpToCase (a b : String) : Prop := List.Forall₂ SameLetter a.toList b.toList

/-- The lower case of a letter has its number, 32 further on. -/
theorem toNat_toLower (c : Char) :
    c.toLower.toNat =
      if 0x41 ≤ c.toNat ∧ c.toNat ≤ 0x5A then c.toNat + 0x20 else c.toNat := by
  by_cases hupper : c.val ≥ 'A'.val ∧ c.val ≤ 'Z'.val
  · have hlow : 0x41 ≤ c.toNat := UInt32.le_iff_toNat_le.mp hupper.1
    have hhigh : c.toNat ≤ 0x5A := UInt32.le_iff_toNat_le.mp hupper.2
    have hlower : c.toLower.val = c.val + 0x20 := congrArg Char.val (dif_pos hupper)
    rw [if_pos ⟨hlow, hhigh⟩]
    show c.toLower.val.toNat = c.val.toNat + 0x20
    -- the sum stays far below what overflows
    rw [hlower, UInt32.toNat_add]
    show (c.toNat + 0x20) % UInt32.size = c.toNat + 0x20
    exact Nat.mod_eq_of_lt (by simp only [UInt32.size]; omega)
  · have hsame : c.toLower = c := dif_neg hupper
    have hrange : ¬ (0x41 ≤ c.toNat ∧ c.toNat ≤ 0x5A) := by
      intro h
      exact hupper ⟨UInt32.le_iff_toNat_le.mpr h.1, UInt32.le_iff_toNat_le.mpr h.2⟩
    rw [if_neg hrange, hsame]

/-- Two characters have the same lower case exactly if they are the same letter. -/
theorem toLower_eq_iff {c d : Char} : c.toLower = d.toLower ↔ SameLetter c d := by
  unfold SameLetter IsCapitalOf
  rw [← Char.toNat_inj, ← Char.toNat_inj, toNat_toLower, toNat_toLower]
  -- four cases, as each of the two is a capital or is none
  split <;> split <;> omega

/-- Names are the same if they are letter by letter. -/
theorem sameName_iff_forall₂ {a b : String} : sameName a b = true ↔ SameUpToCase a b := by
  rw [sameName_iff, foldName, foldName, String.ofList_inj, SameUpToCase, ← List.forall₂_eq_eq_eq,
    List.forall₂_map_left_iff, List.forall₂_map_right_iff]
  simp only [toLower_eq_iff]

instance (a b : String) : Decidable (SameUpToCase a b) := decidable_of_iff _ sameName_iff_forall₂

end Text

/-- Whether a key is one of the keywords of a feature, in any case. -/
def Feature.Has (f : Feature) (key : String) : Prop :=
  ∃ keyword ∈ f.keywords, Text.SameUpToCase keyword key

theorem Feature.answersTo_iff {f : Feature} {key : String} :
    f.answersTo key = true ↔ f.Has key := by
  simp only [answersTo, List.any_eq_true, Text.sameName_iff_forall₂, Has]

instance (f : Feature) (key : String) : Decidable (f.Has key) :=
  decidable_of_iff _ Feature.answersTo_iff

namespace Registry

/-! ## The features that are left -/

@[simp]
theorem map_feature_registeredBy (name : String) (features : List Feature) :
    (registeredBy name features).map (·.feature) = features := by
  simp only [registeredBy, List.map_map, Function.comp_def, List.map_id']

/-- The features that a step adds. -/
def Step.added : Step → List Registered
  | .builtins caps => registeredBy builtinSource (builtinFeatures caps)
  | .source name features => registeredBy name features
  | .retain _ => []

/-- Whether a step leaves a feature that was added before it. -/
def Step.leaves (e : Registered) : Step → Bool
  | .retain keep => keep e.feature
  | _ => true

/-- The features that some steps leave, in the order in which they are registered: those that a
step adds and all later steps leave. -/
def retained : List Step → List Registered
  | [] => []
  | step :: later => step.added.filter (fun e => later.all (·.leaves e)) ++ retained later

/-- A step leaves some features and adds others behind them. -/
theorem Step.apply_eq (added : List Registered) (step : Step) :
    step.apply added = added.filter step.leaves ++ step.added := by
  cases step with
  | builtins caps => simp [Step.apply, Step.leaves, Step.added]
  | source name features => simp [Step.apply, Step.leaves, Step.added]
  | retain keep => simp [Step.apply, Step.leaves, Step.added]

/-- **The features that a row of steps leaves.** Of those that were there before, all steps must
leave them. -/
theorem foldl_apply (added : List Registered) (steps : List Step) :
    steps.foldl Step.apply added =
      added.filter (fun e => steps.all (·.leaves e)) ++ retained steps := by
  induction steps generalizing added with
  | nil => simp [retained]
  | cons step later ih =>
    -- what is left of the first step has the later ones in front of it as well
    rw [List.foldl_cons, ih, Step.apply_eq, List.filter_append, List.filter_filter, retained,
      List.append_assoc]
    simp only [List.all_cons, Bool.and_comm]

theorem foldl_apply_nil (steps : List Step) : steps.foldl Step.apply [] = retained steps := by
  rw [foldl_apply, List.filter_nil, List.nil_append]

/-! ## Keywords that are claimed twice -/

/-- The keywords of some features in lower case, in order. -/
def names (added : List Registered) : List String :=
  added.flatMap fun e => e.feature.keywords.map Text.foldName

/-- The first claim of a keyword that is claimed before, told with the earlier claim. In front of
it no keyword is claimed twice, so there is one such claim. -/
def IsFirstRepeat (cs : List Claim) (d : Duplicate) : Prop :=
  ∃ seen repeater rest, ∃ first ∈ seen, cs = seen ++ repeater :: rest ∧
    (seen.map (·.keyword)).Nodup ∧ first.keyword = repeater.keyword ∧
    d = ⟨repeater.keyword, first.source, repeater.source⟩

theorem keywords_claims (added : List Registered) :
    (claims added).map (·.keyword) = names added := by
  simp only [claims, names, List.map_flatMap, List.map_map, Function.comp_def]

section Scan

variable {cs : List Claim} {d : Duplicate}

/-- The scan passes over keywords that are claimed once. -/
theorem duplicate?_append (earlier seen cs : List Claim)
    (h : ((earlier ++ seen).map (·.keyword)).Nodup) :
    duplicate? earlier (seen ++ cs) = duplicate? (earlier ++ seen) cs := by
  induction seen generalizing earlier with
  | nil => rw [List.nil_append, List.append_nil]
  | cons c seen ih =>
    have hnone : earlier.find? (·.keyword == c.keyword) = none := by
      rw [List.find?_eq_none]
      intro e he heq
      rw [List.map_append, List.map_cons, List.nodup_append] at h
      exact h.2.2 _ (List.mem_map_of_mem he) _ (List.mem_cons_self ..) (beq_iff_eq.mp heq)
    rw [List.append_cons] at h ⊢
    rw [List.cons_append, duplicate?, hnone]
    exact ih _ h

/-- The scan goes through if nothing repeats, and stops at the first repeat if something does. -/
theorem duplicate?_cases (seen cs : List Claim) (hseen : (seen.map (·.keyword)).Nodup) :
    (duplicate? seen cs = none ∧ ((seen ++ cs).map (·.keyword)).Nodup) ∨
      ∃ d, duplicate? seen cs = some d ∧ IsFirstRepeat (seen ++ cs) d := by
  -- on the claims that are still to come, behind any row of claims without a repeat
  induction cs generalizing seen with
  | nil =>
    rw [List.append_nil]
    exact .inl ⟨rfl, hseen⟩
  | cons c cs ih =>
    rw [duplicate?]
    cases hfind : seen.find? (·.keyword == c.keyword) with
    | some first =>
      have hname : (first.keyword == c.keyword) = true :=
        List.find?_some (p := fun e : Claim => e.keyword == c.keyword) hfind
      exact .inr ⟨_, rfl, seen, c, cs, first, List.mem_of_find?_eq_some hfind, rfl, hseen,
        beq_iff_eq.mp hname, rfl⟩
    | none =>
      -- the claim is new, so it goes to those that were seen
      have hnew : ((seen ++ [c]).map (·.keyword)).Nodup := by
        rw [List.map_append, List.map_singleton, List.nodup_append]
        refine ⟨hseen, List.nodup_singleton _, ?_⟩
        rintro k hk _ hc rfl
        obtain ⟨e, he, rfl⟩ := List.mem_map.mp hk
        exact List.find?_eq_none.mp hfind e he (beq_iff_eq.mpr (List.mem_singleton.mp hc))
      have happend : seen ++ c :: cs = seen ++ [c] ++ cs := List.append_cons ..
      rw [happend]
      exact ih _ hnew

/-- The scan goes through exactly if every keyword is claimed once. -/
theorem duplicate?_eq_none_iff : duplicate? [] cs = none ↔ (cs.map (·.keyword)).Nodup := by
  constructor
  · intro h
    rcases duplicate?_cases [] cs List.nodup_nil with ⟨-, hdistinct⟩ | ⟨d, hd, -⟩
    · exact hdistinct
    · rw [h] at hd
      contradiction
  · intro h
    have hscan := duplicate?_append [] cs [] h
    rwa [List.append_nil] at hscan

/-- **Where the scan stops**: at the first claim that repeats another one. -/
theorem duplicate?_eq_some_iff : duplicate? [] cs = some d ↔ IsFirstRepeat cs d := by
  constructor
  · intro h
    rcases duplicate?_cases [] cs List.nodup_nil with ⟨hnone, -⟩ | ⟨d', hd, hrepeat⟩
    · rw [h] at hnone
      contradiction
    · rw [h, Option.some.injEq] at hd
      rw [hd]
      exact hrepeat
  · rintro ⟨seen, repeater, rest, first, hfirst, rfl, hseen, hname, rfl⟩
    rw [duplicate?_append _ _ _ (by rwa [List.nil_append]), List.nil_append, duplicate?]
    cases hfind : seen.find? (·.keyword == repeater.keyword) with
    | none => exact absurd (beq_iff_eq.mpr hname) (List.find?_eq_none.mp hfind first hfirst)
    | some found =>
      -- a keyword that is claimed once has one claimant
      have hfound : (found.keyword == repeater.keyword) = true :=
        List.find?_some (p := fun e : Claim => e.keyword == repeater.keyword) hfind
      have hsame : found = first := List.inj_on_of_nodup_map hseen
        (List.mem_of_find?_eq_some hfind) hfirst ((beq_iff_eq.mp hfound).trans hname.symm)
      rw [hsame]

end Scan

/-! ## Looking up -/

/-- What excludes itself is found all by itself. -/
theorem filter_eq_toList_find? {α : Type} {p : α → Bool} {xs : List α}
    (h : xs.Pairwise fun a b => p a = true → p b = false) : xs.filter p = (xs.find? p).toList := by
  induction xs with
  | nil => rfl
  | cons a xs ih =>
    rw [List.pairwise_cons] at h
    -- the first that is found excludes all that follow
    by_cases hp : p a = true
    · have hnone : xs.filter p = [] := by
        rw [List.filter_eq_nil_iff]
        intro b hb hpb
        rw [h.1 b hb hp] at hpb
        contradiction
      rw [List.filter_cons_of_pos hp, List.find?_cons_of_pos hp, hnone]
      rfl
    · rw [List.filter_cons_of_neg hp, List.find?_cons_of_neg hp, ih h.2]

section Entries

variable {r r' : Registry}

/-- Of features with keywords that are all apart, one at most answers to a key. -/
theorem pairwise_answersTo (h : (names r.entries).Nodup) (key : String) :
    r.features.Pairwise fun f g => f.answersTo key = true → g.answersTo key = false := by
  rw [features, List.pairwise_map]
  refine (List.nodup_flatMap.mp h).2.imp fun {a b} hapart hf => ?_
  rw [Bool.eq_false_iff]
  intro hg
  simp only [Feature.answersTo, List.any_eq_true, Text.sameName_iff] at hf hg
  obtain ⟨k, hk, hkey⟩ := hf
  obtain ⟨l, hl, hkey'⟩ := hg
  -- both keywords are the key in lower case
  refine hapart (List.mem_map_of_mem hk) ?_
  rw [hkey, ← hkey']
  exact List.mem_map_of_mem hl

/-- **A look-up has no choice**: what it finds is all that answers. -/
theorem filter_answersTo_eq (h : (names r.entries).Nodup) (key : String) :
    r.features.filter (·.answersTo key) = (r.find? key).toList :=
  filter_eq_toList_find? (pairwise_answersTo h key)

/-- Features that have one key in common are one feature. -/
theorem eq_of_has (h : (names r.entries).Nodup) {f g : Feature} (hf : f ∈ r.features)
    (hg : g ∈ r.features) {key : String} (hfkey : f.Has key) (hgkey : g.Has key) : f = g := by
  have hfmem : f ∈ r.features.filter (·.answersTo key) :=
    List.mem_filter.mpr ⟨hf, Feature.answersTo_iff.mpr hfkey⟩
  have hgmem : g ∈ r.features.filter (·.answersTo key) :=
    List.mem_filter.mpr ⟨hg, Feature.answersTo_iff.mpr hgkey⟩
  rw [filter_answersTo_eq h, Option.mem_toList] at hfmem hgmem
  exact Option.mem_unique hfmem hgmem

theorem nodup_names_of_perm {added added' : List Registered} (h : (names added).Nodup)
    (hperm : added'.Perm added) : (names added').Nodup :=
  (hperm.flatMap_right _).nodup_iff.mpr h

theorem nodup_names_of_sublist {added added' : List Registered} (h : (names added).Nodup)
    (hsub : added'.Sublist added) : (names added').Nodup := by
  rw [names, List.nodup_flatMap] at h ⊢
  exact ⟨fun e he => h.1 e (hsub.subset he), h.2.sublist hsub⟩

/-- A registry knows the keywords of its features, in any case. -/
theorem knows_iff {key : String} : r.knows key = true ↔ ∃ f ∈ r.features, f.Has key := by
  rw [knows, find?, List.find?_isSome]
  simp only [Feature.answersTo_iff]

/-- So the order of the features does not matter. -/
theorem find?_eq_of_perm (h : (names r.entries).Nodup) (hperm : r'.entries.Perm r.entries)
    (key : String) : r'.find? key = r.find? key := by
  have h' := nodup_names_of_perm h hperm
  have hfound : (r'.find? key).toList.Perm (r.find? key).toList := by
    rw [← filter_answersTo_eq h, ← filter_answersTo_eq h']
    exact (hperm.map _).filter _
  -- lists of one element at most have one order
  cases hr' : r'.find? key <;> cases hr : r.find? key <;> simp_all

end Entries

/-! ## Main result -/

section Build

variable {steps : List Step} {r : Registry} {d : Duplicate}

theorem build_of_none (h : duplicate? [] (claims (retained steps)) = none) :
    build steps = .ok ⟨retained steps⟩ := by
  simp only [build, foldl_apply_nil, h]

theorem build_of_some (h : duplicate? [] (claims (retained steps)) = some d) :
    build steps = .error d := by
  simp only [build, foldl_apply_nil, h]

/-- A registry is built if no keyword is claimed twice, and it holds the features that are left. -/
theorem build_eq_ok_iff :
    build steps = .ok r ↔ (names (retained steps)).Nodup ∧ r = ⟨retained steps⟩ := by
  rw [← keywords_claims, ← duplicate?_eq_none_iff]
  cases hscan : duplicate? [] (claims (retained steps)) with
  | some d =>
    rw [build_of_some hscan]
    simp
  | none =>
    rw [build_of_none hscan, Except.ok.injEq, eq_comm]
    simp

/-- Otherwise the first claim that repeats another one is reported. -/
theorem build_eq_error_iff :
    build steps = .error d ↔ IsFirstRepeat (claims (retained steps)) d := by
  rw [← duplicate?_eq_some_iff]
  cases hscan : duplicate? [] (claims (retained steps)) with
  | some d' =>
    rw [build_of_some hscan, Except.error.injEq, Option.some.injEq]
  | none =>
    rw [build_of_none hscan]
    simp

end Build

/-- **A registry is built exactly if no keyword is claimed twice.** Whatever steps there are and
whatever features they add: the keywords that count are those of the features that are left, in
lower case and in the order of registration. If they are distinct, a registry is built, and it
holds these features. Otherwise the first claim that repeats an earlier one is reported, with the
sources of both. In a registry that was built at most one feature has a given key for a keyword,
in any case, and that feature is found; so in any other order the same features are registered as
well, and the same one is found. -/
theorem build_iff_distinct (steps : List Step) :
    ((∃ r, build steps = .ok r) ↔ (names (retained steps)).Nodup) ∧
    (∀ d, build steps = .error d ↔ IsFirstRepeat (claims (retained steps)) d) ∧
    ∀ r, build steps = .ok r → r.entries = retained steps ∧
      (∀ key, r.features.filter (·.Has key) = (r.find? key).toList) ∧
      ∀ steps', (retained steps').Perm (retained steps) →
        ∃ r', build steps' = .ok r' ∧ ∀ key, r'.find? key = r.find? key := by
  refine ⟨?_, fun d => build_eq_error_iff, ?_⟩
  · simp only [build_eq_ok_iff, exists_and_left, exists_eq, and_true]
  · intro r hr
    obtain ⟨hdistinct, rfl⟩ := build_eq_ok_iff.mp hr
    refine ⟨rfl, ?_, ?_⟩
    · intro key
      simp only [← Feature.answersTo_iff, Bool.decide_eq_true]
      exact filter_answersTo_eq hdistinct key
    · -- other steps that leave the same features have the same names, so they too can be built from
      intro steps' hperm
      have hdistinct' := nodup_names_of_perm hdistinct hperm
      exact ⟨_, build_eq_ok_iff.mpr ⟨hdistinct', rfl⟩, find?_eq_of_perm hdistinct hperm⟩

/-- The keyword of a built-in feature that is dropped can be claimed again, in another case, and
the feature that claims it is found wherever it is registered. -/
theorem build_iff_distinct_of_replaced :
    let notes : Feature :=
      ⟨"notes", ["note", "PageID"], true, fun arg => (some (.text arg.value), []), fun _ _ => none⟩
    ∃ r, build [.builtins {}, .retain (!·.answersTo "pageid"), .source "ext" [notes]] = .ok r ∧
      r.features.filter (·.Has "PAGEid") = (r.find? "PAGEid").toList ∧
      ∃ r', build [.source "ext" [notes], .builtins {}, .retain (·.keywords ≠ ["pageid"])] =
        .ok r' ∧ ∀ key, r'.find? key = r.find? key := by
  intro notes
  obtain ⟨hbuilt, -, hfound⟩ :=
    build_iff_distinct [.builtins {}, .retain (!·.answersTo "pageid"), .source "ext" [notes]]
  obtain ⟨r, hr⟩ := hbuilt.mpr (by decide +kernel)
  obtain ⟨-, hhas, hreordered⟩ := hfound r hr
  refine ⟨r, hr, hhas "PAGEid", hreordered _ ?_⟩
  -- four of the built-in features are left, behind the other one or in front of it
  have hleft : registeredBy builtinSource ((builtinFeatures {}).filter (!·.answersTo "pageid")) =
      registeredBy builtinSource ((builtinFeatures {}).filter (·.keywords ≠ ["pageid"])) := rfl
  show (registeredBy "ext" [notes] ++ registeredBy builtinSource
    ((builtinFeatures {}).filter (·.keywords ≠ ["pageid"]))).Perm (registeredBy builtinSource
      ((builtinFeatures {}).filter (!·.answersTo "pageid")) ++ registeredBy "ext" [notes])
  rw [hleft]
  exact List.perm_append_comm

end Registry

end WikiSearch
