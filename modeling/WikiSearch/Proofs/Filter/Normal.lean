import Mathlib.Data.List.Basic
import WikiSearch.Filter

/-!
# WikiSearch — filters in normal form

A conjunction among the members of a conjunction is replaced by its own members, and a disjunction
among those of a disjunction likewise, but only one level deep: the members that come in are not
looked at again. That is enough for filters that are put together by `anyOf` and `allOf` alone,
since what the two have made before is flat already, whichever of them made it. So all that they
make is flat at every depth (`IsNormal`), the cases with no member and with one member left
included, and nothing else is: a filter that is flat at every depth can be made by them.

The two are one operation (`ofMembers`) on members that are found in different ways; that the
filter which everything satisfies counts as no member at all is a matter of how they are found.

Main results:

* `members_ofMembers` — what was put together has the members that it was made of.
* `isNormal_anyOf`, `isNormal_allOf` — putting together keeps the normal form.
* `built_iff_isNormal` — what can be put together is what is in normal form.
* `built_flattens` — this, and that nesting makes no difference.
-/

namespace WikiSearch.Filter

/-! ## Shapes -/

/-- Whether a filter is made of three lists. -/
def IsBool (f : Filter) : Prop := ∃ must should mustNot, f = bool must should mustNot

/-- Whether a filter is made of three lists, of which `must` alone can have members. -/
def IsConjunction (f : Filter) : Prop := ∃ must, f = bool must [] []

/-- Whether a filter is made of three lists, of which `should` alone can have members. -/
def IsDisjunction (f : Filter) : Prop := ∃ should, f = bool [] should []

/-- What `anyOf` and `allOf` make, to any depth, of filters that are not made of lists. -/
inductive Built : Filter → Prop where
  | single {f : Filter} : ¬ f.IsBool → Built f
  | anyOf {fs : List Filter} : (∀ f ∈ fs, Built f) → Built (Filter.anyOf fs)
  | allOf {fs : List Filter} : (∀ f ∈ fs, Built f) → Built (Filter.allOf fs)

/-- A filter stands in another one, at any depth. -/
inductive IsPart (g : Filter) : Filter → Prop where
  | self : IsPart g g
  | must {f : Filter} {must should mustNot : List Filter} : f ∈ must → IsPart g f →
      IsPart g (bool must should mustNot)
  | should {f : Filter} {must should mustNot : List Filter} : f ∈ should → IsPart g f →
      IsPart g (bool must should mustNot)
  | mustNot {f : Filter} {must should mustNot : List Filter} : f ∈ mustNot → IsPart g f →
      IsPart g (bool must should mustNot)

/-- A filter that is not made of lists, or is made of one list with at least two members, none of
which could be replaced by its own members. -/
inductive IsFlat : Filter → Prop where
  | single {f : Filter} : ¬ f.IsBool → IsFlat f
  | conjunction {must : List Filter} : 2 ≤ must.length →
      (∀ f ∈ must, f ≠ matchAll ∧ ¬ f.IsConjunction) → IsFlat (bool must [] [])
  | disjunction {should : List Filter} : 2 ≤ should.length →
      (∀ f ∈ should, ¬ f.IsDisjunction) → IsFlat (bool [] should [])

/-- Whether a filter is flat at every depth. -/
def IsNormal (f : Filter) : Prop := ∀ g : Filter, g.IsPart f → g.IsFlat

section Shapes

variable {f : Filter} {must should mustNot : List Filter}

theorem not_isBool_matchAll : ¬ matchAll.IsBool := by
  rintro ⟨_, _, _, h⟩
  contradiction

theorem not_isBool_matchNone : ¬ matchNone.IsBool := by
  rintro ⟨_, _, _, h⟩
  contradiction

/-- Nothing stands in a filter that is not made of lists. -/
theorem isNormal_of_not_isBool (h : ¬ f.IsBool) : f.IsNormal := by
  intro g hg
  cases hg with
  | self => exact .single h
  | must => exact absurd ⟨_, _, _, rfl⟩ h
  | should => exact absurd ⟨_, _, _, rfl⟩ h
  | mustNot => exact absurd ⟨_, _, _, rfl⟩ h

/-- A filter made of lists is in normal form if it is flat and its members are in normal form. -/
theorem isNormal_bool_iff :
    (bool must should mustNot).IsNormal ↔ (bool must should mustNot).IsFlat ∧
      (∀ f ∈ must, f.IsNormal) ∧ (∀ f ∈ should, f.IsNormal) ∧ ∀ f ∈ mustNot, f.IsNormal := by
  constructor
  · intro h
    refine ⟨h _ .self, ?_, ?_, ?_⟩
    · exact fun f hf g hg => h g (.must hf hg)
    · exact fun f hf g hg => h g (.should hf hg)
    · exact fun f hf g hg => h g (.mustNot hf hg)
  · rintro ⟨hflat, hmust, hshould, hmustNot⟩ g hg
    -- a filter within is the whole, or within one of its members
    cases hg with
    | self => exact hflat
    | must hf hg => exact hmust _ hf g hg
    | should hf hg => exact hshould _ hf g hg
    | mustNot hf hg => exact hmustNot _ hf g hg

end Shapes

/-! ## Members of a filter -/

section Members

variable {f : Filter}

/-- A filter that is no conjunction is its own and only conjunct. -/
theorem conjuncts_eq_singleton (hall : f ≠ matchAll) (hnot : ¬ f.IsConjunction) :
    f.conjuncts = [f] := by
  unfold conjuncts
  split
  · contradiction
  · exact absurd ⟨_, rfl⟩ hnot
  · rfl

/-- A filter that is no disjunction is its own and only disjunct. -/
theorem disjuncts_eq_singleton (hnot : ¬ f.IsDisjunction) : f.disjuncts = [f] := by
  unfold disjuncts
  split
  · exact absurd ⟨_, rfl⟩ hnot
  · rfl

/-- The members of a conjunction in normal form are no conjunctions. -/
theorem isNormal_of_mem_conjuncts (h : f.IsNormal) :
    ∀ g ∈ f.conjuncts, g.IsNormal ∧ g ≠ matchAll ∧ ¬ g.IsConjunction := by
  intro g hg
  unfold conjuncts at hg
  split at hg
  · -- what matches everything has no conjuncts
    contradiction
  · -- of the lists only `must` has members, so `f` is flat as a conjunction
    rename_i must
    obtain ⟨hflat, hmust, -⟩ := isNormal_bool_iff.mp h
    cases hflat with
    | single hnot => exact absurd ⟨_, _, _, rfl⟩ hnot
    | conjunction _ hmembers => exact ⟨hmust g hg, hmembers g hg⟩
    | disjunction hlength => contradiction
  · -- any other filter is its own conjunct
    rename_i hall hnot
    obtain rfl := List.mem_singleton.mp hg
    exact ⟨h, hall, fun ⟨must, hf⟩ => hnot must hf⟩

/-- The members of a disjunction in normal form are no disjunctions. -/
theorem isNormal_of_mem_disjuncts (h : f.IsNormal) :
    ∀ g ∈ f.disjuncts, g.IsNormal ∧ ¬ g.IsDisjunction := by
  intro g hg
  unfold disjuncts at hg
  split at hg
  · -- of the lists only `should` has members, so the filter is flat as a disjunction
    rename_i should
    obtain ⟨hflat, -, hshould, -⟩ := isNormal_bool_iff.mp h
    cases hflat with
    | single hnot => exact absurd ⟨_, _, _, rfl⟩ hnot
    | conjunction hlength => contradiction
    | disjunction _ hmembers => exact ⟨hshould g hg, hmembers g hg⟩
  · rename_i hnot
    obtain rfl := List.mem_singleton.mp hg
    exact ⟨h, fun ⟨should, hf⟩ => hnot should hf⟩

/-- A disjunction in normal form has a member. -/
theorem disjuncts_ne_nil (h : f.IsNormal) : f.disjuncts ≠ [] := by
  unfold disjuncts
  split
  · rename_i should
    intro hnil
    subst hnil
    -- the filter without demands is not flat: it is made of lists, and none has two members
    cases h _ .self with
    | single hnot => exact absurd ⟨_, _, _, rfl⟩ hnot
    | conjunction hlength => contradiction
    | disjunction hlength => contradiction
  · exact List.cons_ne_nil _ _

end Members

/-! ## Putting members together -/

/-- The filter of some members: a single one stands for itself. -/
def ofMembers (empty : Filter) (wrap : List Filter → Filter) : List Filter → Filter
  | [] => empty
  | [f] => f
  | fs => wrap fs

theorem anyOf_eq (fs : List Filter) :
    anyOf fs = ofMembers matchNone (bool [] · []) (fs.flatMap disjuncts) := rfl

theorem allOf_eq (fs : List Filter) :
    allOf fs = ofMembers matchAll (bool · [] []) (fs.flatMap conjuncts) := rfl

section OfMembers

variable {empty : Filter} {wrap : List Filter → Filter} {fs : List Filter}

theorem ofMembers_of_two_le (h : 2 ≤ fs.length) : ofMembers empty wrap fs = wrap fs := by
  match fs, h with
  | _ :: _ :: _, _ => rfl

/-- The three forms of a filter of members. -/
theorem ofMembers_cases (empty : Filter) (wrap : List Filter → Filter) (fs : List Filter) :
    (fs = [] ∧ ofMembers empty wrap fs = empty) ∨
      (∃ f, fs = [f] ∧ ofMembers empty wrap fs = f) ∨
      (2 ≤ fs.length ∧ ofMembers empty wrap fs = wrap fs) := by
  match fs with
  | [] => exact .inl ⟨rfl, rfl⟩
  | [f] => exact .inr (.inl ⟨f, rfl, rfl⟩)
  | _ :: _ :: _ => exact .inr (.inr ⟨by simp, rfl⟩)

variable {members : Filter → List Filter}

/-- **What was put together has the members that it was made of**, if none of them has members of
its own. -/
theorem members_ofMembers (hwrap : members (wrap fs) = fs) (hempty : fs = [] → members empty = [])
    (hsingle : ∀ f ∈ fs, members f = [f]) : members (ofMembers empty wrap fs) = fs := by
  rcases ofMembers_cases empty wrap fs with ⟨hfs, heq⟩ | ⟨f, hfs, heq⟩ | ⟨-, heq⟩
  · rw [heq, hempty hfs, hfs]
  · rw [heq, hfs, hsingle f (by simp [hfs])]
  · rw [heq, hwrap]

/-- Members without members of their own are all the members of a list. -/
theorem flatMap_members (hsingle : ∀ f ∈ fs, members f = [f]) : fs.flatMap members = fs := by
  induction fs with
  | nil => rfl
  | cons f fs ih =>
    rw [List.forall_mem_cons] at hsingle
    rw [List.flatMap_cons, hsingle.1, ih hsingle.2, List.singleton_append]

end OfMembers

/-! ## The normal form is kept -/

section Normal

variable {fs : List Filter} (h : ∀ f ∈ fs, f.IsNormal)
include h

/-- So it is for the conjuncts of several filters. -/
theorem isNormal_of_mem_flatMap_conjuncts :
    ∀ g ∈ fs.flatMap conjuncts, g.IsNormal ∧ g ≠ matchAll ∧ ¬ g.IsConjunction := by
  intro g hg
  obtain ⟨f, hf, hg⟩ := List.mem_flatMap.mp hg
  exact isNormal_of_mem_conjuncts (h f hf) g hg

/-- So it is for the disjuncts of several filters. -/
theorem isNormal_of_mem_flatMap_disjuncts :
    ∀ g ∈ fs.flatMap disjuncts, g.IsNormal ∧ ¬ g.IsDisjunction := by
  intro g hg
  obtain ⟨f, hf, hg⟩ := List.mem_flatMap.mp hg
  exact isNormal_of_mem_disjuncts (h f hf) g hg

/-- **A conjunction of filters in normal form is in normal form.** -/
theorem isNormal_allOf : (allOf fs).IsNormal := by
  have hmembers := isNormal_of_mem_flatMap_conjuncts h
  rw [allOf_eq]
  -- no conjunct is left, or one, or a list of them that is flat
  rcases ofMembers_cases matchAll (bool · [] []) (fs.flatMap conjuncts) with
    ⟨-, heq⟩ | ⟨f, hfs, heq⟩ | ⟨hlength, heq⟩
  · rw [heq]
    exact isNormal_of_not_isBool not_isBool_matchAll
  · rw [heq]
    exact (hmembers f (by simp [hfs])).1
  · rw [heq]
    refine isNormal_bool_iff.mpr ⟨.conjunction hlength fun f hf => (hmembers f hf).2, ?_, ?_, ?_⟩
    · exact fun f hf => (hmembers f hf).1
    · simp
    · simp

/-- **A disjunction of filters in normal form is in normal form.** -/
theorem isNormal_anyOf : (anyOf fs).IsNormal := by
  have hmembers := isNormal_of_mem_flatMap_disjuncts h
  rw [anyOf_eq]
  -- no disjunct, one of them, or a list of more
  rcases ofMembers_cases matchNone (bool [] · []) (fs.flatMap disjuncts) with
    ⟨-, heq⟩ | ⟨f, hfs, heq⟩ | ⟨hlength, heq⟩
  · rw [heq]
    exact isNormal_of_not_isBool not_isBool_matchNone
  · rw [heq]
    exact (hmembers f (by simp [hfs])).1
  · rw [heq]
    refine isNormal_bool_iff.mpr ⟨.disjunction hlength fun f hf => (hmembers f hf).2, ?_, ?_, ?_⟩
    · simp
    · exact fun f hf => (hmembers f hf).1
    · simp

/-- A conjunction has the conjuncts of its members. -/
theorem conjuncts_allOf : (allOf fs).conjuncts = fs.flatMap conjuncts := by
  rw [allOf_eq]
  refine members_ofMembers ?_ (fun _ => rfl) fun g hg => ?_
  · -- a list of members alone is a conjunction of them
    cases fs.flatMap conjuncts <;> rfl
  · obtain ⟨-, hall, hnot⟩ := isNormal_of_mem_flatMap_conjuncts h g hg
    exact conjuncts_eq_singleton hall hnot

/-- A disjunction of no filters is a filter by itself, and so its own member. -/
theorem disjuncts_anyOf (hne : fs ≠ []) : (anyOf fs).disjuncts = fs.flatMap disjuncts := by
  rw [anyOf_eq]
  refine members_ofMembers rfl (fun hnil => ?_) fun g hg => ?_
  · obtain ⟨f, fs, rfl⟩ := List.exists_cons_of_ne_nil hne
    rw [List.flatMap_eq_nil_iff] at hnil
    have hf := List.mem_cons_self (a := f) (l := fs)
    exact absurd (hnil f hf) (disjuncts_ne_nil (h f hf))
  · exact disjuncts_eq_singleton (isNormal_of_mem_flatMap_disjuncts h g hg).2

end Normal

/-! ## What can be put together -/

/-- **What is put together is in normal form**, to any depth. -/
theorem isNormal_of_built {f : Filter} (h : f.Built) : f.IsNormal := by
  induction h with
  | single hnot => exact isNormal_of_not_isBool hnot
  | anyOf _ ih => exact isNormal_anyOf ih
  | allOf _ ih => exact isNormal_allOf ih

/-- A filter that is flat is put together from its members. -/
theorem built_of_isNormal {f : Filter} (h : f.IsNormal) : f.Built := by
  -- members are smaller; those of a flat list are its own members, so nothing is flattened
  induction hn : sizeOf f using Nat.strongRecOn generalizing f with
  | ind n ih =>
    by_cases hbool : f.IsBool
    · obtain ⟨must, should, mustNot, rfl⟩ := hbool
      obtain ⟨hflat, hmust, hshould, -⟩ := isNormal_bool_iff.mp h
      cases hflat with
      | single hnot => exact absurd ⟨_, _, _, rfl⟩ hnot
      | conjunction hlength hmembers =>
        have hall : allOf must = bool must [] [] := by
          rw [allOf_eq, flatMap_members fun g hg =>
            conjuncts_eq_singleton (hmembers g hg).1 (hmembers g hg).2, ofMembers_of_two_le hlength]
        rw [← hall]
        refine .allOf fun g hg => ih (sizeOf g) ?_ (hmust g hg) rfl
        -- a member is smaller than the list that it stands in
        have hsize := List.sizeOf_lt_of_mem hg
        simp only [bool.sizeOf_spec] at hn
        omega
      | disjunction hlength hmembers =>
        have hany : anyOf should = bool [] should [] := by
          rw [anyOf_eq, flatMap_members fun g hg => disjuncts_eq_singleton (hmembers g hg),
            ofMembers_of_two_le hlength]
        rw [← hany]
        refine .anyOf fun g hg => ih (sizeOf g) ?_ (hshould g hg) rfl
        have hsize := List.sizeOf_lt_of_mem hg
        simp only [bool.sizeOf_spec] at hn
        omega
    · exact .single hbool

/-- **What can be put together is what is in normal form.** -/
theorem built_iff_isNormal {f : Filter} : f.Built ↔ f.IsNormal :=
  ⟨isNormal_of_built, built_of_isNormal⟩

/-- **Flattening is complete.** The filters that `anyOf` and `allOf` can make, to any depth, of
filters that are not made of lists are those in normal form: whatever is made of lists in them is
made of one list, with at least two members, and no member of `must` matches everything or is itself
a list of `must` alone, and no member of `should` is a list of `should` alone. And it makes no
difference whether such filters are put together before they become members or with the other
members, whatever these are; only a disjunction of none is not the same as no member. -/
theorem built_flattens :
    (∀ f : Filter, f.Built ↔ f.IsNormal) ∧
    (∀ xs ys zs : List Filter, (∀ f ∈ ys, f.Built) →
      allOf (xs ++ [allOf ys] ++ zs) = allOf (xs ++ ys ++ zs)) ∧
    ∀ xs ys zs : List Filter, (∀ f ∈ ys, f.Built) → ys ≠ [] →
      anyOf (xs ++ [anyOf ys] ++ zs) = anyOf (xs ++ ys ++ zs) := by
  refine ⟨fun f => built_iff_isNormal, fun xs ys zs hys => ?_, fun xs ys zs hys hne => ?_⟩
  · -- both sides are made of the same conjuncts
    have hmembers := conjuncts_allOf fun f hf => isNormal_of_built (hys f hf)
    simp only [allOf_eq (_ ++ _), List.flatMap_append, List.flatMap_singleton, hmembers]
  · have hmembers := disjuncts_anyOf (fun f hf => isNormal_of_built (hys f hf)) hne
    simp only [anyOf_eq (_ ++ _), List.flatMap_append, List.flatMap_singleton, hmembers]

/-- Alternatives among alternatives, next to a member that matches everything. -/
theorem built_flattens_of_nested :
    (allOf [matchAll, ids [1], anyOf [ids [2], anyOf [matchNone, ids [3]]]]).IsNormal ∧
      allOf ([matchAll] ++ [allOf [ids [1], anyOf [ids [2], matchNone]]] ++ []) =
        allOf [matchAll, ids [1], anyOf [ids [2], matchNone]] ∧
      anyOf ([ids [2]] ++ [anyOf [matchNone, ids [3]]] ++ []) =
        anyOf [ids [2], matchNone, ids [3]] := by
  obtain ⟨hnormal, hall, hany⟩ := built_flattens
  have hnone : matchNone.Built := .single not_isBool_matchNone
  have hids (values : List Nat) : (ids values).Built := by
    refine .single ?_
    rintro ⟨_, _, _, h⟩
    contradiction
  have hinner : (anyOf [matchNone, ids [3]]).Built := .anyOf (by simp [hnone, hids])
  have houter : (anyOf [ids [2], anyOf [matchNone, ids [3]]]).Built :=
    .anyOf (by simp [hinner, hids])
  have hchoice : (anyOf [ids [2], matchNone]).Built := .anyOf (by simp [hnone, hids])
  -- what is built from built filters is built, and the parts were built above
  refine ⟨(hnormal _).mp (.allOf ?_), hall _ _ [] ?_, hany _ _ [] ?_ (by simp)⟩
  · simp [Built.single not_isBool_matchAll, hids, houter]
  · simp [hids, hchoice]
  · simp [hids, hnone]

end WikiSearch.Filter
