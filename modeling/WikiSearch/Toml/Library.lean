import WikiSearch.Toml.Document
import WikiSearch.Toml.Printer

/-!
# WikiSearch — the TOML library

The files of settings are written and read by a library for the TOML format. All that settings
know of the format is what stands here: a table is handed over to be written, which may fail, and
a text is handed over to be read, which fails if the text is not TOML.

The library that is in use (`library`) reads the whole format. It writes a table as sections, one
for each table within it, as far as names need no quotes; that is the layout of settings.
-/

namespace WikiSearch.Toml

/-- A library that writes and reads files. -/
structure Library where
  /-- The text of a file that holds the table, or the reason why there is none. -/
  write : Table → Except String String
  /-- The table that the text of a file holds, if it is TOML. -/
  read : String → Option Table

/-! ## Layout -/

/-- A text, if the value is one. -/
def Value.text? : Value → Option String
  | .text s => some s
  | _ => none

/-- The value as one that stands on a line of its own, if it can. -/
def Value.toSimple? : Value → Option Simple
  | .integer (.ofNat n) => some (.integer n)
  | .boolean b => some (.boolean b)
  | .text s => some (.text s)
  | .array items => (items.mapM Value.text?).map .texts
  | _ => none

/-- The fields that are written right below the header of a table. -/
def simpleFields (fields : Table) : List (String × Simple) :=
  fields.filterMap fun (name, v) => v.toSimple?.map (name, ·)

mutual

/-- The sections of a value with the given path, if it is a table: its own, and those of the tables
within it. A value on a line of its own has no section. -/
def sectionsAt? (path : List String) : Value → Option (List Section)
  | .table fields => (sectionsAmong? path fields).map (⟨path, simpleFields fields⟩ :: ·)
  | v => v.toSimple?.map fun _ => []

/-- The sections of the tables among some fields. -/
def sectionsAmong? (path : List String) : List (String × Value) → Option (List Section)
  | [] => some []
  | field :: rest => do
    let first ← sectionsOf? path field
    let more ← sectionsAmong? path rest
    some (first ++ more)

/-- The sections of a field. -/
def sectionsOf? (path : List String) : String × Value → Option (List Section)
  | (name, v) => if IsBareName name then sectionsAt? (path ++ [name]) v else none

end

/-! ## The library in use -/

/-- The text of a file that holds a table. All that stands in the file stands in a section. -/
def write (table : Table) : Except String String :=
  match sectionsAmong? [] table, simpleFields table with
  | some sections, [] => .ok (render sections)
  | _, _ => .error "unsupported value"

/-- The library that is in use. -/
def library : Library := ⟨write, ofText?⟩

end WikiSearch.Toml
