/-!
# WikiSearch — fallback settings
-/

namespace WikiSearch.Fallback

/-- How many costly calls a request may make unless the settings say otherwise. -/
def defaultCallBudget : Nat := 1

/-- Below how many hits another query is run unless the settings say otherwise. -/
def defaultHitsThreshold : Nat := 1

/-- Settings for the suggestions that come with results. -/
structure PhraseSuggestSettings where
  enabled : Bool := true
  mayReplace : Bool := true
  /-- It does so below this many hits. -/
  hitsThreshold : Nat := defaultHitsThreshold
deriving Repr, DecidableEq, Inhabited

/-- Settings for the index of known good queries. -/
structure IndexLookupSettings where
  enabled : Bool := false
  mayReplace : Bool := false
deriving Repr, DecidableEq, Inhabited

/-- Settings for all fallbacks. -/
structure Profile where
  callBudget : Nat := defaultCallBudget
  phraseSuggest : PhraseSuggestSettings := {}
  indexLookup : IndexLookupSettings := {}
deriving Repr, DecidableEq, Inhabited

end WikiSearch.Fallback
