/-!
# WikiSearch — splitting text

A list value is cut at every separator, and what stands at the front of a text is told
from what follows by the first character that it may not hold.
-/

namespace WikiSearch.Text

/-- The pieces between the separators; a text without a separator is one piece. -/
def pieces (sep : Char) : List Char → List (List Char)
  | [] => [[]]
  | c :: rest =>
    if c = sep then [] :: pieces sep rest
    else match pieces sep rest with
      | [] => [[c]]
      | piece :: more => (c :: piece) :: more

/-- Without a separator there is one piece. -/
theorem pieces_eq_singleton {sep : Char} {cs : List Char} (h : sep ∉ cs) : pieces sep cs = [cs] := by
  induction cs with
  | nil => rfl
  | cons c rest ih =>
    simp only [List.mem_cons, not_or] at h
    simp [pieces, Ne.symm h.1, ih h.2]

/-- A piece ends at the first separator behind it. -/
theorem pieces_append {sep : Char} {piece : List Char} (h : sep ∉ piece) (cs : List Char) :
    pieces sep (piece ++ sep :: cs) = piece :: pieces sep cs := by
  induction piece with
  | nil => simp [pieces]
  | cons c rest ih =>
    simp only [List.mem_cons, not_or] at h
    simp [pieces, Ne.symm h.1, ih h.2]

/-! ## Runs at the front -/

/-- Characters that a predicate tells apart are different. -/
theorem ne_of_holds {p : Char → Bool} {c d : Char} (hc : p c = true) (hd : p d = false) :
    c ≠ d := by
  rintro rfl
  rw [hc] at hd
  contradiction

/-- What is asked of the first character is asked of the one in front. -/
theorem forall_mem_head?_cons {p : Char → Prop} {c : Char} (h : p c) (cs : List Char) :
    ∀ d ∈ (c :: cs).head?, p d := by
  intro d hd
  obtain rfl : c = d := Option.some.inj hd
  exact h

section Runs

variable {p : Char → Bool} {run rest : List Char}

/-- A run goes on until there is a character that does not belong to it. -/
theorem takeWhile_append_of_run (hrun : ∀ c ∈ run, p c = true)
    (hrest : ∀ c ∈ rest.head?, p c = false) : (run ++ rest).takeWhile p = run := by
  rw [List.takeWhile_append_of_pos hrun]
  cases rest with
  | nil => exact List.append_nil run
  | cons c rest => rw [List.takeWhile_cons_of_neg (by simp [hrest c rfl]), List.append_nil]

/-- Behind a run stands what follows it. -/
theorem dropWhile_append_of_run (hrun : ∀ c ∈ run, p c = true)
    (hrest : ∀ c ∈ rest.head?, p c = false) : (run ++ rest).dropWhile p = rest := by
  rw [List.dropWhile_append_of_pos hrun]
  cases rest with
  | nil => rfl
  | cons c rest => exact List.dropWhile_cons_of_neg (by simp [hrest c rfl])

end Runs

end WikiSearch.Text
