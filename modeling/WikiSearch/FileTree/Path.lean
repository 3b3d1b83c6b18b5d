import WikiSearch.Text.Split

/-!
# WikiSearch — paths

A path is kept as it is written: names with slashes between them, with a slash in front
if it starts at the root. Some names lead nowhere, the empty one and the dot, and two
dots lead back up. Two paths that differ only in names that lead nowhere are the same.

* `Path.parent?` — the directory that a path leads through last.
* `Path.ancestors` — a path with all directories around it, the closest first.
* `steps_child`, `steps_parent?` — one step down, and one step up.
-/

namespace WikiSearch

/-- A path as it is written. -/
structure Path where
  rooted : Bool
  names : List String
deriving DecidableEq, Repr, Inhabited

namespace Path

/-! ## Reading and writing -/

/-- The path that a text writes. -/
def ofText (text : String) : Path :=
  match text.toList with
  | '/' :: cs => ⟨true, (Text.pieces '/' cs).map String.ofList⟩
  | cs => ⟨false, (Text.pieces '/' cs).map String.ofList⟩

/-- The path as it is written. -/
def text (path : Path) : String := (if path.rooted then "/" else "") ++ "/".intercalate path.names

/-! ## Names that lead nowhere -/

/-- Whether a name leads nowhere. The dot that a path starts with is kept. -/
def isIdle (rooted first : Bool) (name : String) : Bool :=
  name = "" || (name = "." && (rooted || !first))

/-- Drops the names at the end that lead nowhere. The names are given from the last to
the first. -/
def dropIdle (rooted : Bool) : List String → List String
  | [] => []
  | name :: names =>
    if isIdle rooted names.isEmpty name then dropIdle rooted names else name :: names

/-- The names that lead somewhere, in order. The names are given from the last to the
first. -/
def stepsOf (rooted : Bool) : List String → List String
  | [] => []
  | name :: names =>
    if isIdle rooted names.isEmpty name then stepsOf rooted names
    else stepsOf rooted names ++ [name]

/-- The names of a path that lead somewhere. -/
def steps (path : Path) : List String := stepsOf path.rooted path.names.reverse

/-- Whether two paths are the same but for names that lead nowhere. -/
def sameAs (path other : Path) : Bool :=
  path.rooted = other.rooted && path.steps = other.steps

/-! ## Up and down -/

/-- The path of a name in a directory. -/
def child (dir : Path) (name : String) : Path :=
  -- an empty name at the end stands for a slash that is there already
  let names := if dir.names.getLast? = some "" then dir.names.dropLast else dir.names
  { dir with names := names ++ [name] }

/-- The directory that a path leads through last, if it leads anywhere. -/
def parent? (path : Path) : Option Path :=
  match dropIdle path.rooted path.names.reverse with
  | [] => none
  -- the last name goes, and with it what led nowhere in front of it
  | _ :: above => some { path with names := (dropIdle path.rooted above).reverse }

/-! ## Going up ends -/

/-- Leaving out names makes nothing longer. -/
theorem length_dropIdle_le (rooted : Bool) (names : List String) :
    (dropIdle rooted names).length ≤ names.length := by
  induction names with
  | nil => exact Nat.le_refl _
  | cons name names ih =>
    unfold dropIdle
    split
    · exact Nat.le_succ_of_le ih
    · exact Nat.le_refl _

theorem length_lt_of_parent? {path dir : Path} (h : path.parent? = some dir) :
    dir.names.length < path.names.length := by
  have hle := length_dropIdle_le path.rooted path.names.reverse
  unfold parent? at h
  split at h
  · simp at h
  · rename_i name above heq
    -- the last name goes, and dropping names that do not lead anywhere only makes the path shorter
    have habove := length_dropIdle_le path.rooted above
    obtain rfl := Option.some.inj h
    rw [heq] at hle
    simp only [List.length_cons, List.length_reverse] at hle ⊢
    omega

/-- The path itself and those of all directories around it, the closest first. -/
def ancestors (path : Path) : List Path :=
  match _h : path.parent? with
  | none => [path]
  | some dir => path :: ancestors dir
termination_by path.names.length
decreasing_by exact length_lt_of_parent? _h

/-! ## Steps up and down -/

/-- Names that lead nowhere are no steps. -/
theorem stepsOf_dropIdle (rooted : Bool) (names : List String) :
    stepsOf rooted (dropIdle rooted names) = stepsOf rooted names := by
  induction names with
  | nil => rfl
  | cons name names ih =>
    by_cases h : isIdle rooted names.isEmpty name
    · simp [dropIdle, stepsOf, h, ih]
    · simp [dropIdle, h]

/-- What is left when idle names were dropped ends with a name that leads somewhere. -/
theorem isIdle_of_dropIdle {rooted : Bool} {names above : List String} {name : String}
    (h : dropIdle rooted names = name :: above) : isIdle rooted above.isEmpty name = false := by
  induction names with
  | nil => simp [dropIdle] at h
  | cons other names ih =>
    by_cases hi : isIdle rooted names.isEmpty other
    · exact ih (by simpa [dropIdle, hi] using h)
    · simp only [dropIdle, hi, Bool.false_eq_true, if_false, List.cons.injEq] at h
      obtain ⟨rfl, rfl⟩ := h
      simpa using hi

/-- The directory lacks the last name of the path that leads somewhere. -/
theorem steps_parent? {path dir : Path} (h : path.parent? = some dir) :
    ∃ name, path.steps = dir.steps ++ [name] := by
  have hkept := stepsOf_dropIdle path.rooted path.names.reverse
  unfold parent? at h
  split at h
  · simp at h
  · rename_i name above heq
    obtain rfl := Option.some.inj h
    rw [heq] at hkept
    refine ⟨name, ?_⟩
    rw [steps, ← hkept]
    simp [steps, stepsOf, isIdle_of_dropIdle heq, stepsOf_dropIdle]

/-- A name in a directory is one more step. -/
theorem steps_child {name : String} (hne : name ≠ "") (hdot : name ≠ ".") (dir : Path) :
    (dir.child name).steps = dir.steps ++ [name] := by
  have hi (first : Bool) : isIdle dir.rooted first name = false := by simp [isIdle, hne, hdot]
  unfold child steps
  dsimp only
  split
  · rename_i hlast
    obtain ⟨above, habove⟩ := List.getLast?_eq_some_iff.1 hlast
    have hempty (first : Bool) : isIdle dir.rooted first "" = true := by simp [isIdle]
    simp [habove, stepsOf, hi, hempty]
  · simp [stepsOf, hi]

end Path

end WikiSearch
