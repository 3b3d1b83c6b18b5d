import WikiSearch.Span

/-!
# WikiSearch — tokens

A query is read as a list of tokens: words, quoted phrases and candidates for a
keyword directive. Whether a candidate really is a directive is decided later,
by the keywords that are registered.
-/

namespace WikiSearch

/-- A sign in front of a token. -/
inductive Sign where
  /-- `+`: the token is required. -/
  | require
  /-- `-`: the token must not match. -/
  | exclude
deriving Repr, DecidableEq, Inhabited

/-- A quoted phrase. -/
structure Phrase where
  text : String
  /-- How far apart the words may stand, from a number after `~`. -/
  slop : Option Nat
  /-- Whether a bare `~` follows the closing quote. -/
  stemmed : Bool
  /-- Whether there is a closing quote. -/
  terminated : Bool
deriving Repr, DecidableEq, Inhabited

/-- The keyword and the value of a directive, as they were written. -/
structure Argument where
  key : String
  value : String
  /-- The value as typed, with its quotes if it has any. -/
  quotedValue : String
  delimiter : Option Char
  suffix : String
deriving Repr, DecidableEq, Inhabited

/-- A text of the form `key:value`. -/
structure Candidate extends Argument where
  /-- The candidate as a plain word, for when it is no directive: as typed if the
  value is quoted, and with escapes resolved as in any word if it is not. -/
  literal : String
deriving Repr, DecidableEq, Inhabited

/-- What a token holds. -/
inductive Content where
  | word (text : String)
  | phrase (phrase : Phrase)
  | keyword (candidate : Candidate)
deriving Repr, DecidableEq, Inhabited

/-- A token and where it was written. -/
structure Token where
  content : Content
  sign : Option Sign
  span : Span
  /-- The offset of the first character after the sign. -/
  textStart : Nat
deriving Repr, DecidableEq, Inhabited

end WikiSearch
