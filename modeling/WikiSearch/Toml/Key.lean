import WikiSearch.Text.Numeral
import WikiSearch.Toml.Text

/-!
# WikiSearch — keys in TOML files

A key is one name, or several with dots between them. A name stands without quotes
if it holds letters, digits, `_` and `-` alone, and between quotes otherwise. A key has
a bounded number of names.
-/

namespace WikiSearch.Toml

/-- A key: its first name, and the names behind dots. -/
structure Key where
  first : String
  more : List String
deriving DecidableEq, Repr

namespace Key

/-- The names in front of the last one. -/
def parents (key : Key) : List String := (key.first :: key.more).dropLast

/-- The last name. -/
def last (key : Key) : String := (key.first :: key.more).getLast (List.cons_ne_nil _ _)

/-- All names. -/
def path (key : Key) : List String := key.first :: key.more

end Key

/-- Whether a character may stand in a name without quotes. -/
def isBare (c : Char) : Bool :=
  ('A' ≤ c && c ≤ 'Z') || ('a' ≤ c && c ≤ 'z') || Text.isDigit c || c = '_' || c = '-'

/-- Whether a name can be written without quotes. -/
def IsBareName (name : String) : Prop := name ≠ "" ∧ name.toList.all isBare = true

instance (name : String) : Decidable (IsBareName name) := inferInstanceAs (Decidable (_ ∧ _))

/-- Takes one name off the front. -/
def readName? : List Char → Option (String × List Char)
  | '"' :: cs => (readBasic cs).map fun (text, rest) => (String.ofList text, rest)
  | '\'' :: cs => (readLiteral cs).map fun (text, rest) => (String.ofList text, rest)
  | c :: cs =>
    if isBare c then some (String.ofList (c :: cs.takeWhile isBare), cs.dropWhile isBare) else none
  | [] => none

theorem readName?_length_lt {cs rest : List Char} {name : String}
    (h : readName? cs = some (name, rest)) : rest.length < cs.length := by
  unfold readName? at h
  -- in double quotes, in single quotes, or a run that starts with a character of a name
  split at h
  · obtain ⟨⟨_, _⟩, hr, hn⟩ := Option.map_eq_some_iff.1 h
    obtain ⟨_, rfl⟩ := Prod.mk.inj hn
    have := readBasic_length_lt hr
    simp only [List.length_cons]
    omega
  · obtain ⟨⟨_, _⟩, hr, hn⟩ := Option.map_eq_some_iff.1 h
    obtain ⟨_, rfl⟩ := Prod.mk.inj hn
    have := readLiteral_length_lt hr
    simp only [List.length_cons]
    omega
  · rename_i c tail _ _
    split at h
    · obtain ⟨_, rfl⟩ := Prod.mk.inj (Option.some.inj h)
      have := length_dropWhile_le isBare tail
      simp only [List.length_cons]
      omega
    · simp at h
  · simp at h

/-- Reads one name. -/
def readName : Reader String := Reader.ofFunction readName? readName?_length_lt

/-- Reads a key of any number of names, and the blanks around them except those in front. -/
def readNames (cs : List Char) : Option (Key × Rest cs) := do
  let (name, rest) ← readName cs
  let rest := rest.skipSpaces
  match rest.skip? '.' with
  | none => some (⟨name, []⟩, rest)
  | some tail =>
    let (key, left) ← readNames tail.skipSpaces.1
    some (⟨name, key.path⟩, left.within (Nat.le_of_lt tail.skipSpaces.2))
termination_by cs.length
decreasing_by exact tail.skipSpaces.2

/-- How many names a key may have. -/
def maxNames : Nat := 80

/-- Reads a key and the blanks around its names, except those in front. -/
def readKey : Reader Key := fun cs => (readNames cs).filter (·.1.path.length ≤ maxNames)

end WikiSearch.Toml
