import WikiSearch.Toml.Draft
import WikiSearch.Toml.Key
import WikiSearch.Toml.Scalar

/-!
# WikiSearch — reading TOML files

A file is a list of lines: headers, which open tables, and fields, which put values
into the table that was opened last. Such a field has its key, its equals sign and the
start of its value on one line. Within a list and a table between braces, lines may end
between any two parts, but not within a key. A file that breaks a rule of the format is
not read at all.
-/

namespace WikiSearch.Toml

/-! ## Values -/

/-- Reads the items of a list behind the opening bracket, up to the closing one. A
comma may stand behind the last item. -/
def readItems (item : Reader Value) (cs : List Char) : Option (List Value × Rest cs) :=
  match (Reader.char ']').afterLines cs with
  | some (_, rest) => some ([], rest)
  | none => do
    -- no bracket yet, so an item must follow
    let (v, rest) ← item.afterLines cs
    let rest := rest.skipLines
    match rest.skip? ',' with
    | none => do
      let rest ← rest.skip? ']'
      some ([v], rest)
    | some tail => do
      let (items, rest) ← readItems item tail.1
      some (v :: items, rest.within (Nat.le_of_lt tail.2))
termination_by cs.length
decreasing_by exact tail.2

/-- Reads a field: a key, an equals sign and a value. On both sides of the equals sign
`skip` drops what may stand there. -/
def readField (skip : {cs : List Char} → Rest cs → Rest cs) (item : Reader Value) :
    Reader (Key × Value) := fun cs => do
  let (key, rest) ← readKey cs
  let rest ← (skip rest).skip? '='
  let (v, rest) ← (skip rest).read? item
  some ((key, v), rest)

/-- Reads the fields of a table behind the opening brace, up to the closing one, and puts
them into `draft`. A comma may stand behind the last field. -/
def readFields (item : Reader Value) (draft : Draft) (cs : List Char) :
    Option (Draft × Rest cs) :=
  match (Reader.char '\x7d').afterLines cs with
  | some (_, rest) => some (draft, rest)
  | none => do
    let ((key, v), rest) ← (readField Rest.skipLines item).afterLines cs
    let draft ← assign? v true draft key.first key.more
    let rest := rest.skipLines
    match rest.skip? ',' with
    | none => do
      let rest ← rest.skip? '\x7d'
      some (draft, rest)
    | some tail => do
      let (draft, rest) ← readFields item draft tail.1
      some (draft, rest.within (Nat.le_of_lt tail.2))
termination_by cs.length
decreasing_by exact tail.2

/-- Reads a value in which lists and tables lie within each other at most as deep as
given. -/
def readValue : Nat → Reader Value
  | depth + 1, '[' :: tail =>
    (readItems (readValue depth) tail).map fun (items, rest) =>
      (.array items, rest.within (Nat.le_succ _))
  | depth + 1, '\x7b' :: tail =>
    (readFields (readValue depth) [] tail).map fun (draft, rest) =>
      (.table (finishFields draft), rest.within (Nat.le_succ _))
  | _, cs => (readText.map .text).orElse readScalar cs

/-- How deep lists and tables may lie within each other in one value. -/
def maxDepth : Nat := 80

/-! ## Lines -/

/-- A line of a file. -/
inductive Line where
  | opens (key : Key)
  | opensNext (key : Key)
  | field (key : Key) (v : Value)

/-- Reads what opens a table: its key in brackets. -/
def readHeader : Reader Line := fun cs => do
  let (_, rest) ← Reader.char '[' cs
  match rest.skip? '[' with
  | some rest => do
    let (key, rest) ← rest.skipSpaces.read? readKey
    let rest ← rest.skip? ']'
    let rest ← rest.skip? ']'
    some (.opensNext key, rest)
  | none => do
    let (key, rest) ← rest.skipSpaces.read? readKey
    let rest ← rest.skip? ']'
    some (.opens key, rest)

/-- Reads a line with its end. -/
def readLine : Reader Line := fun cs => do
  let field := (readField Rest.skipSpaces (readValue maxDepth)).map fun (key, v) => .field key v
  -- a field never starts with a bracket
  let (line, rest) ← readHeader.orElse field cs
  let rest ← rest.endLine?
  some (line, rest)

/-- Reads lines up to the end of the file. -/
def readLines (cs : List Char) : Option (List Line) :=
  if skipLines false cs = [] then some []
  else do
    let (line, rest) ← readLine.afterLines cs
    let lines ← readLines rest.1
    some (line :: lines)
termination_by cs.length
decreasing_by exact rest.2

/-! ## Tables -/

/-- The tables of a file while its lines are gone through. -/
structure Sheet where
  draft : Draft := []
  /-- Where the table that was opened last is. -/
  current : List String := []

/-- What a line does. -/
def Sheet.add? (sheet : Sheet) : Line → Option Sheet
  | .opens key => do
    let draft ← alterAt? (openTable? key.last) key.parents sheet.draft
    some ⟨draft, key.path⟩
  | .opensNext key => do
    let draft ← alterAt? (openNext? key.last) key.parents sheet.draft
    some ⟨draft, key.path⟩
  | .field key v => do
    let draft ← alterAt? (assign? v true · key.first key.more) sheet.current sheet.draft
    some { sheet with draft }

/-- The table that a file holds. A byte order mark in front does not count. -/
def ofText? (text : String) : Option Table := do
  let cs := match text.toList with
    | '\uFEFF' :: cs => cs
    | cs => cs
  -- characters are checked first, so that no reader has to look for bad ones
  let lines ← if wellFormed cs then readLines cs else none
  let sheet ← lines.foldlM Sheet.add? {}
  some (finishFields sheet.draft)

end WikiSearch.Toml
