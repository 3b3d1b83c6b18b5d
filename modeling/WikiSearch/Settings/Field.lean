import WikiSearch.Settings.Problem

/-!
# WikiSearch — reading settings

A setting is read from a TOML value. A section is read from a table, whose names are
looked at in their order, or from a list, whose items stand for the settings of the
section in the order of their declaration.
-/

namespace WikiSearch.Settings

/-! ## Single settings -/

/-- Reads a truth value. -/
def readBoolean : Toml.Value → Except Problem Bool
  | .boolean b => .ok b
  | v => .error (mismatch "a boolean" v)

/-- Reads a count; `wanted` is what it is called in messages. -/
def readCount (wanted : String) : Toml.Value → Except Problem Nat
  | .integer n =>
    if 0 ≤ n ∧ n ≤ Text.maxStored then .ok n.toNat
    else if n < 0 ∧ isCommon n then .error (.negative n wanted)
    else .error (mismatch wanted (.integer n))
  | v => .error (mismatch wanted v)

/-- Reads a size or a number of things. -/
def readSize : Toml.Value → Except Problem Nat := readCount "usize"

/-- Reads a number of hits. -/
def readHits : Toml.Value → Except Problem Nat := readCount "u64"

/-- Reads one name of a list. -/
def readName : Toml.Value → Except Problem String
  | .text s => .ok s
  | v => .error (mismatchHeld "a string" v)

/-- Reads a list of names, or one name that stands for a list of its own. -/
def readNames (v : Toml.Value) : Except Problem (List String) :=
  match overflow? v with
  | some problem => .error problem
  | none =>
    -- first as one name, then as a list of names; both reasons are reported
    match v with
    | .text s => .ok [s]
    | .array items =>
      (items.mapM readName).mapError (.neitherOneNorMany (mismatchHeld "a string" v) ·)
    | v => .error (.neitherOneNorMany (mismatchHeld "a string" v) (mismatchHeld "a sequence" v))

/-- The kind of a value that stands where a choice has nothing to say. -/
def kindName : Toml.Value → String
  | .text _ => "string"
  | .integer _ => "integer"
  | .float _ => "float"
  | .boolean _ => "boolean"
  | .datetime _ => "datetime"
  | .array _ => "array"
  | .table _ => "table"

/-- Reads a choice among some that have names: the name itself, or a table in which it
names nothing. -/
def readChoice {α : Type} (choices : List (String × α)) : Toml.Value → Except Problem α
  | .text s => choose s
  | .table [] => .error (.badChoice "wanted exactly 1 element, found 0 elements")
  | .table [(name, v)] => do
    -- an unknown name is reported before what stands behind it
    let a ← choose name
    match v with
    | .array [] | .table [] => .ok a
    | .array _ => .error (.badChoice "expected empty array")
    | .table _ => .error (.badChoice "expected empty table")
    | v => .error (.badChoice ("expected table, found " ++ kindName v))
  | .table _ => .error (.badChoice "wanted exactly 1 element, more than 1 element")
  | _ => .error (.badChoice "wanted string or table")
where
  choose (name : String) : Except Problem α :=
    match choices.lookup name with
    | some a => .ok a
    | none => .error (.unknownChoice name (choices.map (·.1)))

/-! ## Sections -/

/-- A setting of a section: its name, and what reading its value does to the section. -/
structure Field (σ : Type) where
  name : String
  read : Toml.Value → σ → Except Problem σ

/-- The setting of a section that is read in some way and then put in its place. -/
def Field.of {σ α : Type} (name : String) (read : Toml.Value → Except Problem α)
    (put : α → σ → σ) : Field σ :=
  ⟨name, fun v s => (read v).map (put · s)⟩

/-- Reads the settings of a section from a table. -/
def readTable {σ : Type} (fields : List (Field σ)) (table : Toml.Table) (empty : σ) :
    Except Problem σ :=
  table.foldlM (fun s (name, v) =>
    match fields.find? (·.name == name) with
    | some field => field.read v s
    | none => .error (.unknownField name (fields.map (·.name)))) empty

/-- Reads the settings of a section from a list. Items beyond the settings do not count. -/
def readList {σ : Type} (fields : List (Field σ)) (items : List Toml.Value) (empty : σ) :
    Except Problem σ :=
  (fields.zip items).foldlM (fun s (field, v) => field.read v s) empty

/-- The name under which a date stands where a section is wanted. -/
def datetimeField : String := "$__toml_private_datetime"

/-- Reads a section; `label` is what it is called in messages. -/
def readSection {σ : Type} (label : String) (fields : List (Field σ)) (empty : σ) :
    Toml.Value → Except Problem σ
  | .table table => readTable fields table empty
  | .array items => readList fields items empty
  | .datetime _ => .error (.unknownField datetimeField (fields.map (·.name)))
  | v => .error (mismatch ("struct " ++ label) v)

end WikiSearch.Settings
