import WikiSearch.Fallback.Results

/-!
# WikiSearch — what a fallback does

A fallback leaves the results as they are, suggests another query, or puts the
results of another query in their place.
-/

namespace WikiSearch.Fallback

/-- The kind of what a fallback does. -/
inductive Action where
  | noAction
  | suggestQuery
  | replaceResults
deriving Repr, DecidableEq, Inhabited

/-- The name shown to a reader. -/
def Action.name : Action → String
  | noAction => "no action"
  | suggestQuery => "suggest query"
  | replaceResults => "replace local results"

/-- What a fallback does. -/
inductive Status where
  | noAction
  | suggest (suggestion : Suggestion)
  | replace (results : Results)
deriving Repr, DecidableEq, Inhabited

namespace Status

/-- The kind of the status. -/
def action : Status → Action
  | noAction => .noAction
  | suggest _ => .suggestQuery
  | replace _ => .replaceResults

/-- Whether the results stay as they are. -/
def isNoAction : Status → Bool
  | noAction => true
  | _ => false

/-- The results after the fallback. -/
def apply (status : Status) (initial : Results) : Results :=
  match status with
  | noAction => initial
  | suggest s => initial.suggesting s
  | replace results => results

end Status

end WikiSearch.Fallback
