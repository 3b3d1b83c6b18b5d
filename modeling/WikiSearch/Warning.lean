/-!
# WikiSearch — warnings

Reading a query never stops at a value that cannot be used; it leaves a warning.
A warning is a message key with its arguments, to be put into words elsewhere.
-/

namespace WikiSearch

/-- Something that a reader should know about a query that was accepted. -/
structure Warning where
  key : String
  args : List String
deriving Repr, DecidableEq, Inhabited

namespace Warning

/-- The key of a list value with more entries than are kept; arguments: the
keyword and the number kept. -/
def tooManyConditions : String := "feature-too-many-conditions"

/-- The key of page ids that are not numbers; arguments: the entries and their
number. -/
def invalidPageId : String := "feature-pageid-invalid-id"

/-- The key of topics that are not known; arguments: the entries and their
number. -/
def invalidTopic : String := "feature-articletopic-invalid-topic"

/-- The key of a file property that is neither a number nor a range; arguments:
the keyword and the value. -/
def notANumber : String := "file-numeric-feature-not-a-number"

/-- The key, and the arguments behind a colon if there are any. -/
def text (w : Warning) : String :=
  if w.args = [] then w.key else w.key ++ ": " ++ ", ".intercalate w.args

end Warning

end WikiSearch
