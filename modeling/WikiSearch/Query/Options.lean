import WikiSearch.Limit
import WikiSearch.Occur
import WikiSearch.Text.Name

/-!
# WikiSearch — options for reading a query
-/

namespace WikiSearch

/-- The soft limit on the length of a query unless the settings say otherwise. -/
def defaultMaxLength : Nat := 300

/-- The keywords that do not count towards the length unless the settings say
otherwise. -/
def defaultExemptKeywords : List String := ["incategory", "articletopic", "pageid"]

/-- What can be chosen about reading and compiling a query. -/
structure QueryOptions where
  /-- The soft limit on the length; without it the hard limit is left. -/
  maxLength : Option Nat := some defaultMaxLength
  leadingWildcards : Bool := true
  strictMatching : Bool := false
  /-- The keywords, in lower case, whose clauses do not count towards the length. -/
  exemptKeywords : List String := defaultExemptKeywords
  defaultOccur : Occur := .must
deriving Repr, DecidableEq, Inhabited

namespace QueryOptions

/-- The soft limit as it is applied: never above the hard limit. -/
def effectiveLimit (o : QueryOptions) : Nat := min (o.maxLength.getD hardLengthLimit) hardLengthLimit

/-- Whether the clauses of a keyword do not count towards the length. -/
def isExempt (o : QueryOptions) (key : String) : Bool := o.exemptKeywords.contains (Text.foldName key)

end QueryOptions

end WikiSearch
