import Mathlib.Tactic.TypeStar
import WikiSearch.Filter

/-!
# WikiSearch — what filters mean

Which documents a filter lets through. Of the documents nothing is known but which of
the restrictions that are not put together they satisfy (`DocumentModel`); the rest
follows from how a filter is put together (`Filter.Holds`).

Main results:

* `holds_bool` — a filter of three lists, as its parts say it.
* `holds_allOf` — a conjunction holds exactly if all of its members do, however they are
  flattened.
* `holds_anyOf_iff`, `holds_anyOf` — a disjunction holds exactly if one of its members does, but
  for the filter of three empty lists.
* `holds_combined` — the two together, for members of any shape.
-/

namespace WikiSearch

/-- A kind of documents: which of them satisfy the restrictions that filters are made of. -/
structure DocumentModel (δ : Type*) where
  ids : List Nat → δ → Prop
  term : String → String → δ → Prop
  terms : String → List String → δ → Prop
  range : String → Option Nat → Option Nat → δ → Prop

namespace Filter

section Meaning

variable {δ : Type*} (m : DocumentModel δ) (d : δ)

mutual

/-- Whether a document satisfies a filter. -/
def Holds : Filter → Prop
  | matchAll => True
  | matchNone => False
  | ids values => m.ids values d
  | term field value => m.term field value d
  | terms field values => m.terms field values d
  | range field low high => m.range field low high d
  | bool must should mustNot =>
    AllHold must ∧ ¬ SomeHolds mustNot ∧ (should = [] ∨ SomeHolds should)

/-- Whether a document satisfies all of some filters. -/
def AllHold : List Filter → Prop
  | [] => True
  | f :: fs => Holds f ∧ AllHold fs

/-- Whether a document satisfies one of some filters. -/
def SomeHolds : List Filter → Prop
  | [] => False
  | f :: fs => Holds f ∨ SomeHolds fs

end

theorem allHold_iff (fs : List Filter) : AllHold m d fs ↔ ∀ f ∈ fs, f.Holds m d := by
  induction fs with
  | nil => simp [AllHold]
  | cons f fs ih => rw [AllHold, ih, List.forall_mem_cons]

theorem someHolds_iff (fs : List Filter) : SomeHolds m d fs ↔ ∃ f ∈ fs, f.Holds m d := by
  induction fs with
  | nil => simp [SomeHolds]
  | cons f fs ih => simp only [SomeHolds, ih, List.mem_cons, exists_eq_or_imp]

/-- All of `must`, none of `mustNot`, and one of `should` if there is one. -/
theorem holds_bool (must should mustNot : List Filter) :
    (bool must should mustNot).Holds m d ↔
      (∀ f ∈ must, f.Holds m d) ∧ (∀ f ∈ mustNot, ¬ f.Holds m d) ∧
        (should = [] ∨ ∃ f ∈ should, f.Holds m d) := by
  rw [Holds, allHold_iff, someHolds_iff, someHolds_iff]
  simp only [not_exists, not_and]

/-- A filter means the conjunction of its members. -/
theorem holds_conjuncts (f : Filter) : (∀ g ∈ f.conjuncts, g.Holds m d) ↔ f.Holds m d := by
  unfold conjuncts
  split
  · simp [Holds]
  · simp [holds_bool]
  · simp

/-- **A conjunction means all of its members**, whichever of its three forms it has. -/
theorem holds_allOf (fs : List Filter) : (allOf fs).Holds m d ↔ ∀ f ∈ fs, f.Holds m d := by
  have hmembers : (∀ g ∈ fs.flatMap conjuncts, g.Holds m d) ↔ ∀ f ∈ fs, f.Holds m d := by
    simp only [List.forall_mem_flatMap, holds_conjuncts]
  rw [← hmembers, allOf]
  split
  · -- none of no filters is missed
    rename_i hnone
    simp [hnone, Holds]
  · -- a single member stands for itself
    rename_i f hone
    simp [hone]
  · simp [holds_bool]

/-- A filter means one of its disjuncts, unless it makes no demands at all: that one everything
satisfies, and it is taken for a disjunction of none. -/
theorem holds_disjuncts (f : Filter) :
    (∃ g ∈ f.disjuncts, g.Holds m d) ↔ f ≠ bool [] [] [] ∧ f.Holds m d := by
  unfold disjuncts
  split
  · -- a list of alternatives alone, which may be empty
    rename_i should
    cases should with
    | nil => simp
    | cons g gs => simp [holds_bool]
  · -- anything else is its only disjunct
    rename_i hno
    have hne : f ≠ bool [] [] [] := hno []
    simp [hne]

/-- What a disjunction lets through, for members of any shape. -/
theorem holds_anyOf_iff (fs : List Filter) :
    (anyOf fs).Holds m d ↔ ∃ f ∈ fs, f ≠ bool [] [] [] ∧ f.Holds m d := by
  have hmembers : (∃ g ∈ fs.flatMap disjuncts, g.Holds m d) ↔
      ∃ f ∈ fs, f ≠ bool [] [] [] ∧ f.Holds m d := by
    constructor
    · rintro ⟨g, hg, hholds⟩
      obtain ⟨f, hf, hg⟩ := List.mem_flatMap.mp hg
      exact ⟨f, hf, (holds_disjuncts m d f).mp ⟨g, hg, hholds⟩⟩
    · rintro ⟨f, hf, hmeans⟩
      obtain ⟨g, hg, hholds⟩ := (holds_disjuncts m d f).mpr hmeans
      exact ⟨g, List.mem_flatMap.mpr ⟨f, hf, hg⟩, hholds⟩
  rw [← hmembers, anyOf]
  split
  · -- there is no member that could hold
    rename_i hnone
    simp [hnone, Holds]
  · rename_i f hone
    simp [hone]
  · rename_i hne _
    rw [holds_bool, or_iff_right hne]
    simp

/-- **A disjunction means one of its members.** -/
theorem holds_anyOf {fs : List Filter} (h : ∀ f ∈ fs, f ≠ bool [] [] []) :
    (anyOf fs).Holds m d ↔ ∃ f ∈ fs, f.Holds m d := by
  rw [holds_anyOf_iff]
  constructor
  · rintro ⟨f, hf, -, hholds⟩
    exact ⟨f, hf, hholds⟩
  · rintro ⟨f, hf, hholds⟩
    exact ⟨f, hf, h f hf, hholds⟩

/-- **Putting filters together.** Over any kind of documents and for members of any shape and
depth, a conjunction means all of its members. A disjunction means one of its members other than
the filter that makes no demands, although every document satisfies that one as well. So it means
one of its members exactly if that filter is not among them or another member holds. -/
theorem holds_combined (fs : List Filter) :
    ((allOf fs).Holds m d ↔ ∀ f ∈ fs, f.Holds m d) ∧
    ((anyOf fs).Holds m d ↔ ∃ f ∈ fs, f ≠ bool [] [] [] ∧ f.Holds m d) ∧
    (((anyOf fs).Holds m d ↔ ∃ f ∈ fs, f.Holds m d) ↔
      (bool [] [] [] ∈ fs → ∃ f ∈ fs, f ≠ bool [] [] [] ∧ f.Holds m d)) := by
  refine ⟨holds_allOf m d fs, holds_anyOf_iff m d fs, ?_⟩
  have hempty : (bool [] [] []).Holds m d := (holds_bool m d [] [] []).mpr (by simp)
  rw [holds_anyOf_iff]
  constructor
  · -- the filter without demands holds, so if the disjunction does as it should, another member
    -- holds
    intro hmeans hmem
    exact hmeans.mpr ⟨_, hmem, hempty⟩
  · intro hother
    constructor
    · rintro ⟨f, hf, -, hholds⟩
      exact ⟨f, hf, hholds⟩
    · rintro ⟨f, hf, hholds⟩
      -- the filter without demands holds only next to another one
      by_cases hf' : f = bool [] [] []
      · exact hother (hf' ▸ hf)
      · exact ⟨f, hf, hf', hholds⟩

end Meaning

/-- Every document satisfies the filter of three empty lists, and none the disjunction of it
alone. -/
theorem anyOf_without_demands :
    anyOf [bool [] [] []] = matchNone ∧
      ∀ (m : DocumentModel Nat) (d : Nat), (∃ f ∈ [bool [] [] []], f.Holds m d) ∧
        ¬ (anyOf [bool [] [] []]).Holds m d := by
  refine ⟨rfl, fun m d => ⟨⟨bool [] [] [], List.mem_singleton.mpr rfl, ?_⟩, ?_⟩⟩
  · exact (holds_bool m d [] [] []).mpr (by simp)
  · exact id

end Filter

end WikiSearch
