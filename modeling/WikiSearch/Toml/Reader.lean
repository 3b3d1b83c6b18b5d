import WikiSearch.Toml.Layout

/-!
# WikiSearch — readers of TOML

A reader takes characters off the front and gives back what is left, which is
shorter. That is why reading ends. A reader that fails gives nothing back.
-/

namespace WikiSearch.Toml

/-- What is left of some characters when something was taken off their front. -/
abbrev Rest (cs : List Char) := { rest : List Char // rest.length < cs.length }

/-- What takes a thing off the front of some characters. -/
abbrev Reader (α : Type) := (cs : List Char) → Option (α × Rest cs)

namespace Rest

/-- What is left of some characters is left of more characters as well. -/
def within {cs more : List Char} (h : cs.length ≤ more.length) (rest : Rest cs) : Rest more :=
  ⟨rest.1, Nat.lt_of_lt_of_le rest.2 h⟩

/-- Drops the blanks at the front. -/
def skipSpaces {cs : List Char} (rest : Rest cs) : Rest cs :=
  ⟨Toml.skipSpaces rest.1, Nat.lt_of_le_of_lt (skipSpaces_length_le rest.1) rest.2⟩

/-- Drops the blanks, the line ends and the comments at the front. -/
def skipLines {cs : List Char} (rest : Rest cs) : Rest cs :=
  ⟨Toml.skipLines false rest.1, Nat.lt_of_le_of_lt (skipLines_length_le false rest.1) rest.2⟩

/-- Drops one character off the front, which must be the given one. -/
def skip? {cs : List Char} (c : Char) (rest : Rest cs) : Option (Rest cs) :=
  match rest with
  | ⟨d :: tail, h⟩ => if d = c then some ⟨tail, Nat.lt_of_succ_lt h⟩ else none
  | ⟨[], _⟩ => none

/-- Drops the end of a line that holds nothing more but a comment. -/
def endLine? {cs : List Char} (rest : Rest cs) : Option (Rest cs) :=
  match h : Toml.endLine? rest.1 with
  | some tail => some ⟨tail, Nat.lt_of_le_of_lt (endLine?_length_le h) rest.2⟩
  | none => none

/-- Reads on. -/
def read? {cs : List Char} {α : Type} (rest : Rest cs) (reader : Reader α) :
    Option (α × Rest cs) :=
  (reader rest.1).map fun (a, tail) => (a, tail.within (Nat.le_of_lt rest.2))

end Rest

namespace Reader

/-- The reader that does what a function does which is known to leave less. -/
def ofFunction {α : Type} (f : List Char → Option (α × List Char))
    (shorter : ∀ {cs rest : List Char} {a : α}, f cs = some (a, rest) → rest.length < cs.length) :
    Reader α := fun cs =>
  match h : f cs with
  | some (a, rest) => some (a, ⟨rest, shorter h⟩)
  | none => none

/-- The reader reads what the function reads. -/
theorem ofFunction_eq_some_iff {α : Type} {f : List Char → Option (α × List Char)}
    {shorter : ∀ {cs rest : List Char} {a : α},
      f cs = some (a, rest) → rest.length < cs.length}
    {cs : List Char} {a : α} {rest : Rest cs} :
    ofFunction f shorter cs = some (a, rest) ↔ f cs = some (a, rest.1) := by
  unfold ofFunction
  split
  · rename_i b tail h
    simp [h, Subtype.ext_iff]
  · rename_i h
    simp [h]

/-- The reader that tries another one if the first fails. -/
def orElse {α : Type} (first second : Reader α) : Reader α := fun cs =>
  (first cs).or (second cs)

/-- The reader that gives another form to what it reads. -/
def map {α β : Type} (f : α → β) (reader : Reader α) : Reader β := fun cs =>
  (reader cs).map fun (a, rest) => (f a, rest)

/-- The reader that first drops the blanks, the line ends and the comments. -/
def afterLines {α : Type} (reader : Reader α) : Reader α := fun cs =>
  (reader (skipLines false cs)).map fun (a, rest) =>
    (a, rest.within (skipLines_length_le false cs))

/-- The reader that takes one character off the front, which must be the given one. -/
def char (c : Char) : Reader Unit := fun
  | d :: tail => if d = c then some ((), ⟨tail, Nat.lt_succ_self _⟩) else none
  | [] => none

end Reader

end WikiSearch.Toml
