import WikiSearch.Text.Blank

/-!
# WikiSearch — text for the search backend

The backend reads a query string of its own syntax. Words and phrases are escaped
so that each of them reaches the backend as one term or one phrase.
-/

namespace WikiSearch.Escape

open Text

/-- The characters that mean something to the backend, wildcards apart. -/
def reserved : List Char :=
  ['+', '-', '=', '&', '|', '>', '<', '!', '(', ')', '\x7b', '\x7d', '[', ']', '^', '"', '~', ':',
   '\\', '/']

/-- Whether a character stands for other text in a term. -/
def isWildcard (c : Char) : Bool := c = '*' || c = '?'

/-- Whether a character has to stand behind a backslash inside a term. -/
def isSpecial (c : Char) : Bool := reserved.contains c || isBlank c

/-- How one character of a term is written. -/
def termChar (c : Char) : List Char := if isSpecial c then ['\\', c] else [c]

/-- How a term is written. Wildcards keep their meaning, but for those at its very
start, which keep it only if `leadingWildcards` allows. -/
def termChars (leadingWildcards : Bool) (cs : List Char) : List Char :=
  let front := cs.takeWhile isWildcard
  let back := cs.dropWhile isWildcard
  -- behind the first other character no wildcard is a leading one
  (if leadingWildcards then front else front.flatMap (['\\', ·])) ++ back.flatMap termChar

/-- How a character inside a phrase is written. -/
def phraseChar (c : Char) : List Char := if c = '"' || c = '\\' then ['\\', c] else [c]

/-- A term of a backend query string. -/
def term (leadingWildcards : Bool) (text : String) : String :=
  String.ofList (termChars leadingWildcards text.toList)

/-- Text to be put between the quotes of a backend phrase. -/
def phrase (text : String) : String := String.ofList (text.toList.flatMap phraseChar)

end WikiSearch.Escape
