import Mathlib.Data.List.Basic
import Mathlib.Data.List.TakeWhile
import WikiSearch.Keyword.Entries

/-!
# WikiSearch — how lists are written

The lists behind `pageid:` and its likes, as a grammar that knows nothing of how they are read: a
vertical bar parts two pieces, and a piece is an entry with blanks around it, or nothing but
blanks. Every text is a list by this grammar, in one way only.

Main results:

* `trimChars_of_blanks` — what is left when the blanks at both ends are dropped.
* `listEntries_eq_iff` — the entries of a list value.
-/

namespace WikiSearch

open Text

/-! ## The grammar -/

/-- A text of blanks alone, or the empty one. -/
def IsBlankText (cs : List Char) : Prop := ∀ c ∈ cs, isBlank c = true

/-- A text with no blank at its two ends. -/
def IsTrimmed (cs : List Char) : Prop :=
  (∀ c ∈ cs.head?, isBlank c = false) ∧ ∀ c ∈ cs.getLast?, isBlank c = false

/-- A piece between two bars, and the entry in it if there is one. -/
inductive EntryPiece : List Char → List String → Prop where
  | blank {cs : List Char} : IsBlankText cs → EntryPiece cs []
  | entry {front back : List Char} {e : String} : IsBlankText front → IsBlankText back →
      IsTrimmed e.toList → e ≠ "" → EntryPiece (front ++ e.toList ++ back) [e]

/-- A list and its entries. -/
inductive Entries : List Char → List String → Prop where
  | last {cs : List Char} {es : List String} : '|' ∉ cs → EntryPiece cs es → Entries cs es
  | cons {cs rest : List Char} {es fs : List String} : '|' ∉ cs → EntryPiece cs es →
      Entries rest fs → Entries (cs ++ '|' :: rest) (es ++ fs)

/-! ## Blanks at both ends -/

/-- Dropping the blanks at both ends leaves what stands between them. -/
theorem trimChars_of_blanks {front middle back : List Char} (hfront : IsBlankText front)
    (hback : IsBlankText back) (hmiddle : IsTrimmed middle) (hne : middle ≠ []) :
    trimChars (front ++ middle ++ back) = middle := by
  have hhead : ∀ c ∈ (middle ++ back).head?, isBlank c = false := by
    rw [List.head?_append_of_ne_nil _ hne]
    exact hmiddle.1
  have hlast : ∀ c ∈ middle.reverse.head?, isBlank c = false := by
    rw [List.head?_reverse]
    exact hmiddle.2
  -- the blanks at the end are those at the start of the reversed text
  have hback' : IsBlankText back.reverse := by
    intro c hc
    exact hback c (List.mem_reverse.mp hc)
  rw [trimChars, List.append_assoc, dropWhile_append_of_run hfront hhead, List.reverse_append,
    dropWhile_append_of_run hback' hlast, List.reverse_reverse]

/-- Behind the blanks in front stands no blank. -/
theorem head?_dropWhile_isBlank (cs : List Char) :
    ∀ c ∈ (cs.dropWhile isBlank).head?, isBlank c = false := by
  intro c hc
  have hhead := List.head?_dropWhile_not isBlank cs
  rwa [hc] at hhead

/-- What is trimmed has blanks at its ends and nothing else that is lost. -/
theorem exists_blanks_trimChars (cs : List Char) :
    ∃ front back, IsBlankText front ∧ IsBlankText back ∧ IsTrimmed (trimChars cs) ∧
      cs = front ++ trimChars cs ++ back := by
  let back := ((cs.dropWhile isBlank).reverse.takeWhile isBlank).reverse
  have hdrop : cs.dropWhile isBlank = trimChars cs ++ back := by
    rw [trimChars, ← List.reverse_append, List.takeWhile_append_dropWhile, List.reverse_reverse]
  refine ⟨cs.takeWhile isBlank, back, ?_, ?_, ⟨?_, ?_⟩, ?_⟩
  · intro c hc
    exact List.mem_takeWhile_imp hc
  · intro c hc
    exact List.mem_takeWhile_imp (List.mem_reverse.mp hc)
  · -- the first character is that of the text without the blanks in front
    intro c hc
    apply head?_dropWhile_isBlank cs
    rw [hdrop]
    exact List.mem_head?_append_of_mem_head? hc
  · -- the last character stands in front of the blanks that were dropped from the end
    intro c hc
    rw [trimChars, List.getLast?_reverse] at hc
    exact head?_dropWhile_isBlank _ c hc
  · rw [List.append_assoc, ← hdrop, List.takeWhile_append_dropWhile]

/-- Nothing is left of blanks, and of nothing else. -/
theorem trimChars_eq_nil_iff {cs : List Char} : trimChars cs = [] ↔ IsBlankText cs := by
  constructor
  · intro hnil
    obtain ⟨front, back, hfront, hback, -, hcs⟩ := exists_blanks_trimChars cs
    rw [hnil, List.append_nil] at hcs
    rw [hcs]
    intro c hc
    -- all there is are the blanks at the two ends
    rcases List.mem_append.mp hc with h | h
    · exact hfront c h
    · exact hback c h
  · intro hblank
    rw [trimChars, List.dropWhile_eq_nil_iff.mpr hblank]
    rfl

/-! ## Entries -/

/-- The entries in some pieces. -/
def entriesOf (ps : List (List Char)) : List String :=
  ((ps.map trimChars).filter (· ≠ [])).map String.ofList

theorem entriesOf_cons (p : List Char) (ps : List (List Char)) :
    entriesOf (p :: ps) = entriesOf [p] ++ entriesOf ps := by
  simp only [entriesOf, ← List.map_append, ← List.filter_append, List.map_cons, List.map_nil,
    List.singleton_append]

/-- A piece has the entry that the grammar gives it. -/
theorem entriesOf_singleton_eq_iff {cs : List Char} {es : List String} :
    entriesOf [cs] = es ↔ EntryPiece cs es := by
  constructor
  · rintro rfl
    -- a piece of blanks has no entry, and any other has one
    by_cases hblank : trimChars cs = []
    · have hnone : entriesOf [cs] = [] := by simp [entriesOf, hblank]
      rw [hnone]
      exact .blank (trimChars_eq_nil_iff.mp hblank)
    · have hone : entriesOf [cs] = [String.ofList (trimChars cs)] := by simp [entriesOf, hblank]
      obtain ⟨front, back, hfront, hback, htrim, hcs⟩ := exists_blanks_trimChars cs
      have hpiece : EntryPiece (front ++ (String.ofList (trimChars cs)).toList ++ back)
          [String.ofList (trimChars cs)] := by
        refine .entry hfront hback ?_ ?_
        · rwa [String.toList_ofList]
        · simpa [← String.toList_inj] using hblank
      rwa [String.toList_ofList, ← hcs, ← hone] at hpiece
  · rintro (hblank | ⟨hfront, hback, htrim, hne⟩)
    · simp [entriesOf, trimChars_eq_nil_iff.mpr hblank]
    · rename_i front back e
      have hne' : e.toList ≠ [] := mt String.toList_eq_nil_iff.mp hne
      rw [entriesOf, List.map_singleton, trimChars_of_blanks hfront hback htrim hne',
        List.filter_cons_of_pos (by simpa using hne'), List.filter_nil, List.map_singleton,
        String.ofList_toList]

/-- Every text is a list, by its entries. -/
theorem entries_entriesOf_pieces (cs : List Char) : Entries cs (entriesOf (pieces '|' cs)) := by
  -- the first bar parts the first piece from a shorter list
  induction hn : cs.length using Nat.strongRecOn generalizing cs with
  | ind n ih =>
    by_cases hbar : '|' ∈ cs
    · obtain ⟨a, b, rfl, ha⟩ := List.eq_append_cons_of_mem hbar
      have hb : b.length < n := by
        rw [← hn, List.length_append, List.length_cons]
        omega
      rw [pieces_append ha, entriesOf_cons]
      exact .cons ha (entriesOf_singleton_eq_iff.mp rfl) (ih _ hb b rfl)
    · rw [pieces_eq_singleton hbar]
      exact .last hbar (entriesOf_singleton_eq_iff.mp rfl)

/-- The entries of a list are those between its bars. -/
theorem entriesOf_pieces_of_entries {cs : List Char} {es : List String} (h : Entries cs es) :
    entriesOf (pieces '|' cs) = es := by
  induction h with
  | last hbar hpiece => rw [pieces_eq_singleton hbar, entriesOf_singleton_eq_iff.mpr hpiece]
  | cons hbar hpiece _ ih =>
    rw [pieces_append hbar, entriesOf_cons, entriesOf_singleton_eq_iff.mpr hpiece, ih]

/-- **The entries of a list value** are what is written by the grammar. -/
theorem listEntries_eq_iff {value : String} {es : List String} :
    listEntries value = es ↔ Entries value.toList es := by
  constructor
  · rintro rfl
    exact entries_entriesOf_pieces value.toList
  · exact entriesOf_pieces_of_entries

end WikiSearch
