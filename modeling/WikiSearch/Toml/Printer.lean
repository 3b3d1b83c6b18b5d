import WikiSearch.Toml.Value

/-!
# WikiSearch — writing TOML files

A file is written as sections with a header each and one field a line. A text is
written between the quotes that need the fewest escapes: one double quote, one
single quote, three double quotes, three single quotes. If none of these does
without escapes, it stands between double quotes, three if it has several lines.
-/

namespace WikiSearch.Toml

/-! ## Texts -/

/-- Whether a character may only be written as an escape. -/
def isControl (c : Char) : Bool := (c < ' ' && c ≠ '\t' && c ≠ '\n') || c = '\x7f'

/-- Whether a character occurs three times in a row. -/
def hasTriple (c : Char) : List Char → Bool
  | a :: b :: d :: cs => (a = c && b = c && d = c) || hasTriple c (b :: d :: cs)
  | _ => false

/-- The ways to put a text between quotes. -/
inductive Quotes where
  /-- One double quote. -/
  | basic
  /-- One single quote. -/
  | literal
  /-- Three double quotes. -/
  | basicLines
  /-- Three single quotes. -/
  | literalLines
deriving DecidableEq, Repr

/-- Whether a text can stand between the quotes with no escape but that of the tab. -/
def Quotes.fit (quotes : Quotes) (cs : List Char) : Bool :=
  !cs.any isControl && match quotes with
    | .basic => !cs.contains '\\' && !cs.contains '"' && !cs.contains '\n'
    | .literal => !cs.contains '\'' && !cs.contains '\n'
    | .basicLines => !cs.contains '\\' && !hasTriple '"' cs
    | .literalLines => !hasTriple '\'' cs

/-- The quotes that a text is written with. -/
def Quotes.pick (cs : List Char) : Quotes :=
  (([.basic, .literal, .basicLines, .literalLines] : List Quotes).find? (·.fit cs)).getD
    (if cs.contains '\n' then .basicLines else .basic)

/-- A hexadecimal digit in upper case. -/
def upperHexDigit (n : Nat) : Char := (Nat.digitChar n).toUpper

/-- A character other than the double quote as it is written between double quotes. -/
def escapedChar (lines : Bool) (c : Char) : List Char :=
  if c = '\x08' then ['\\', 'b']
  else if c = '\t' then ['\\', 't']
  else if c = '\n' ∧ ¬lines then ['\\', 'n']
  else if c = '\x0c' then ['\\', 'f']
  else if c = '\r' then ['\\', 'r']
  else if c = '\\' then ['\\', '\\']
  else if isControl c then
    ['\\', 'u', '0', '0', upperHexDigit (c.toNat / 16), upperHexDigit (c.toNat % 16)]
  else [c]

/-- A text as it is written between double quotes, one on each side or, if it may have
several lines, three. Of three, up to two double quotes in a row may stand in the text
as they are; `run` says how many there are right in front. -/
def escapedText (lines : Bool) (run : Nat) : List Char → List Char
  | [] => []
  | '"' :: cs =>
    if lines ∧ run < 2 then '"' :: escapedText lines (run + 1) cs
    -- the escape ends the run
    else '\\' :: '"' :: escapedText lines 0 cs
  | c :: cs => escapedChar lines c ++ escapedText lines 0 cs

/-- The line end behind three opening quotes, in front of a text with several lines. -/
def openingLine (cs : List Char) : List Char := if cs.contains '\n' then ['\n'] else []

/-- A text as it is written. -/
def writtenText (cs : List Char) : List Char :=
  match Quotes.pick cs with
  | .basic => '"' :: escapedText false 0 cs ++ ['"']
  | .literal => '\'' :: cs ++ ['\'']
  | .basicLines => ['"', '"', '"'] ++ openingLine cs ++ escapedText true 0 cs ++ ['"', '"', '"']
  | .literalLines => ['\'', '\'', '\''] ++ openingLine cs ++ cs ++ ['\'', '\'', '\'']

/-! ## Values -/

/-- The values that are written. -/
inductive Simple where
  | integer (n : Nat)
  | boolean (b : Bool)
  | text (s : String)
  | texts (items : List String)
deriving DecidableEq, Repr

namespace Simple

/-- The value itself. -/
def toValue : Simple → Value
  | integer n => .integer n
  | boolean b => .boolean b
  | text s => .text s
  | texts items => .array (items.map .text)

/-- The value as it is written. A list of several texts has a line for each. -/
def written : Simple → List Char
  | integer n => Nat.toDigits 10 n
  | boolean b => if b then "true".toList else "false".toList
  | text s => writtenText s.toList
  | texts [] => ['[', ']']
  | texts [s] => '[' :: writtenText s.toList ++ [']']
  | texts items =>
    '[' :: '\n' ::
      items.flatMap (fun s => "    ".toList ++ writtenText s.toList ++ [',', '\n']) ++ [']']

end Simple

/-! ## Files -/

/-- A table of a file with its header. -/
structure Section where
  path : List String
  fields : List (String × Simple)
deriving DecidableEq, Repr

/-- A field as it is written. -/
def writtenField (name : String) (value : Simple) : List Char :=
  name.toList ++ [' ', '=', ' '] ++ value.written ++ ['\n']

/-- A section as it is written. -/
def Section.written (s : Section) : List Char :=
  '[' :: (".".intercalate s.path).toList ++ [']', '\n']
    ++ s.fields.flatMap fun (name, value) => writtenField name value

/-- The text of a file with some sections. Blank lines stand between the sections. -/
def render (sections : List Section) : String :=
  String.ofList (['\n'].intercalate (sections.map Section.written))

end WikiSearch.Toml
