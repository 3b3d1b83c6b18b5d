/-!
# WikiSearch — JSON documents

Queries and filters are shown to other programs as JSON. A document is written over
several lines, indented by two spaces per level, with the fields of an object in a
fixed order.
-/

namespace WikiSearch

/-- A JSON document. Numbers are natural numbers, since no others are shown. -/
inductive Json where
  | null
  | bool (value : Bool)
  | number (value : Nat)
  | text (value : String)
  | array (items : List Json)
  | object (fields : List (String × Json))
deriving Repr, Inhabited

namespace Json

/-! ## Values that may be absent -/

/-- A list of texts. -/
def texts (items : List String) : Json := array (items.map text)

/-- A list of numbers. -/
def numbers (items : List Nat) : Json := array (items.map number)

/-- A number that may be absent. -/
def number? (value : Option Nat) : Json := (value.map number).getD null

/-- A text that may be absent. -/
def text? (value : Option String) : Json := (value.map text).getD null

/-! ## Writing -/

/-- The two hexadecimal digits of a small number. -/
def hexPair (n : Nat) : List Char := [Nat.digitChar (n / 16), Nat.digitChar (n % 16)]

/-- How a character is written inside a text. -/
def escapeChar (c : Char) : List Char :=
  match c with
  | '"' => ['\\', '"']
  | '\\' => ['\\', '\\']
  | '\n' => ['\\', 'n']
  | '\r' => ['\\', 'r']
  | '\t' => ['\\', 't']
  | '\x08' => ['\\', 'b']
  | '\x0c' => ['\\', 'f']
  | c => if c.toNat < 32 then ['\\', 'u', '0', '0'] ++ hexPair c.toNat else [c]

/-- A text between quotes. -/
def quote (s : String) : String := String.ofList ('"' :: s.toList.flatMap escapeChar ++ ['"'])

/-- The start of a line on a level. -/
def newLine (level : Nat) : String := "\n" ++ String.ofList (List.replicate (2 * level) ' ')

mutual

/-- The document over several lines, its first line standing on a level. -/
def pretty (level : Nat) : Json → String
  | null => "null"
  | bool b => if b then "true" else "false"
  | number n => toString n
  | text s => quote s
  | array [] => "[]"
  | array (item :: items) =>
    "[" ++ newLine (level + 1) ++ pretty (level + 1) item ++ prettyItems (level + 1) items
      ++ newLine level ++ "]"
  | object [] => "\x7b\x7d"
  | object (field :: fields) =>
    "\x7b" ++ newLine (level + 1) ++ prettyField (level + 1) field
      ++ prettyFields (level + 1) fields ++ newLine level ++ "\x7d"

/-- The items behind the first one. -/
def prettyItems (level : Nat) : List Json → String
  | [] => ""
  | item :: items => "," ++ newLine level ++ pretty level item ++ prettyItems level items

/-- A field of an object. -/
def prettyField (level : Nat) : String × Json → String
  | (name, value) => quote name ++ ": " ++ pretty level value

/-- The fields behind the first one. -/
def prettyFields (level : Nat) : List (String × Json) → String
  | [] => ""
  | field :: fields => "," ++ newLine level ++ prettyField level field ++ prettyFields level fields

end

/-- The document over several lines. -/
def render (doc : Json) : String := pretty 0 doc

end Json

end WikiSearch
