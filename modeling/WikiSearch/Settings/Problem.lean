import WikiSearch.Decimal.Shortest
import WikiSearch.Text.Numeral
import WikiSearch.Text.Quoted
import WikiSearch.Toml.Value

/-!
# WikiSearch — what can be wrong in a settings file

A file may be well-formed TOML and still not be one of settings: a name or a choice
is not known, or a value is of another kind than the setting.
-/

namespace WikiSearch.Settings

/-- What is wrong in a settings file. -/
inductive Problem where
  | unknownField (name : String) (known : List String)
  | unknownChoice (name : String) (known : List String)
  | wrongKind (found wanted : String)
  | negative (n : Int) (wanted : String)
  /-- A value is neither one name nor a list of names, each for its own reason. -/
  | neitherOneNorMany (one many : Problem)
  /-- A choice is not made by its name alone. -/
  | badChoice (reason : String)
  /-- A number is too large to be held; `kind` says which kind of number. -/
  | overflow (kind : String)
deriving DecidableEq, Repr

/-- A name as it is shown in a message. -/
def marked (name : String) : String := "`" ++ name ++ "`"

/-- Several names of which one is wanted. -/
def oneOf (names : List String) : String :=
  match names with
  | [a] => marked a
  | [a, b] => marked a ++ " or " ++ marked b
  | names => "one of " ++ ", ".intercalate (names.map marked)

/-- What a reader is told. -/
def Problem.message : Problem → String
  | unknownField name known => "unknown field " ++ marked name ++ ", expected " ++ oneOf known
  | unknownChoice name known => "unknown variant " ++ marked name ++ ", expected " ++ oneOf known
  | wrongKind found wanted => "invalid type: " ++ found ++ ", expected " ++ wanted
  | negative n wanted =>
    "invalid value: integer " ++ marked (toString n) ++ ", expected " ++ wanted
  | neitherOneNorMany one many =>
    "OneOrMany could not deserialize any variant:\n  One: " ++ one.message ++ "\n\n  Many: "
      ++ many.message ++ "\n"
  | badChoice reason => reason
  | overflow kind => kind ++ " number overflowed"

/-! ## The kinds of values -/

/-- Whether a whole number is held in 64 bits, with a sign or without one. -/
def isCommon (n : Int) : Bool := -Nat.pow 2 63 ≤ n && n < Nat.pow 2 64

/-- The width of a whole number that 64 bits do not hold. -/
def width (n : Int) : String := if n < Nat.pow 2 127 then "i128" else "u128"

/-- Whether a whole number is held at all. -/
def isHeld (n : Int) : Bool := -Nat.pow 2 127 ≤ n && n < Nat.pow 2 128

/-- A value that is of another kind than what is wanted. -/
def mismatch (wanted : String) : Toml.Value → Problem
  | .text s => .wrongKind ("string " ++ Text.quoted s) wanted
  | .boolean b => .wrongKind ("boolean " ++ marked (toString b)) wanted
  | .integer n =>
    if isCommon n then .wrongKind ("integer " ++ marked (toString n)) wanted
    else if isHeld n then .wrongKind ("integer " ++ marked (toString n) ++ " as " ++ width n) wanted
    else .overflow "integer"
  | .float none => .overflow "floating-point"
  | .float (some x) => .wrongKind ("floating point " ++ marked (Decimal.text x)) wanted
  | .array _ => .wrongKind "sequence" wanted
  | .table _ | .datetime _ => .wrongKind "map" wanted

/-! ## Values that must be held before their kind is looked at -/

mutual

/-- The first number within a value that is too large to be held. -/
def overflow? : Toml.Value → Option Problem
  | .integer n => if isHeld n then none else some (.overflow "integer")
  | .float none => some (.overflow "floating-point")
  | .array items => overflowIn? items
  | .table fields => overflowAmong? fields
  | _ => none

/-- The first number within some values that is too large to be held. -/
def overflowIn? : List Toml.Value → Option Problem
  | [] => none
  | v :: rest => (overflow? v).or (overflowIn? rest)

/-- The first number within some fields that is too large to be held. -/
def overflowAmong? : List (String × Toml.Value) → Option Problem
  | [] => none
  | field :: rest => (overflowOf? field).or (overflowAmong? rest)

/-- The first number within a field that is too large to be held. -/
def overflowOf? : String × Toml.Value → Option Problem
  | (_, v) => overflow? v

end

/-- A value, known to be held, that is of another kind than a name or a list of names. -/
def mismatchHeld (wanted : String) : Toml.Value → Problem
  | .integer n =>
    if isCommon n then mismatch wanted (.integer n) else .wrongKind (width n) wanted
  | v => mismatch wanted v

end WikiSearch.Settings
