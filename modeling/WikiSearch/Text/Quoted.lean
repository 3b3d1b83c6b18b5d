import WikiSearch.Text.Hidden

/-!
# WikiSearch — text quoted for a reader

Trees and values show texts between double quotes. Inside, the quote and the
backslash stand behind a backslash, the common controls are written by a letter,
and every other character that does not show is written by its number in
hexadecimal, so that a quoted text never breaks a line.
-/

namespace WikiSearch.Text

/-- How one character is written between quotes. -/
def quotedChar (c : Char) : List Char :=
  match c with
  | '"' => ['\\', '"']
  | '\\' => ['\\', '\\']
  | '\n' => ['\\', 'n']
  | '\r' => ['\\', 'r']
  | '\t' => ['\\', 't']
  | '\x00' => ['\\', '0']
  | c =>
    if isHidden c then ['\\', 'u', '\x7b'] ++ Nat.toDigits 16 c.toNat ++ ['\x7d'] else [c]

/-- A text between double quotes. -/
def quoted (s : String) : String :=
  String.ofList ('"' :: s.toList.flatMap quotedChar ++ ['"'])

/-- A list of texts, each between double quotes. -/
def quotedList (texts : List String) : String :=
  "[" ++ ", ".intercalate (texts.map quoted) ++ "]"

end WikiSearch.Text
