import WikiSearch.Filter
import WikiSearch.Keyword.Value
import WikiSearch.Text.Name
import WikiSearch.Token
import WikiSearch.Warning

/-!
# WikiSearch — keyword features

A feature gives a meaning to one or more keywords: it reads the value behind the
colon, and it builds a filter from what it has read. A feature keeps no state; all
that it can do to a query is to add warnings.
-/

namespace WikiSearch

/-- The meaning of some keywords. -/
structure Feature where
  name : String
  keywords : List String
  /-- Whether the value may stand in quotes. If not, a directive with a quoted value
  is plain text. -/
  acceptsQuoted : Bool
  /-- Reads a value. Without a result the directive is plain text. Problems with
  single entries are warnings, and reading goes on with what is left. -/
  read : Argument → Option KeywordValue × List Warning
  /-- Builds a filter from a value, under strict matching or not. Without a result
  nothing can match, and so nothing matches the whole query. -/
  filter? : Bool → KeywordValue → Option Filter

namespace Feature

/-- Whether the feature answers to a keyword. -/
def answersTo (f : Feature) (key : String) : Bool := f.keywords.any (Text.sameName · key)

end Feature

end WikiSearch
