import WikiSearch.Fallback.PhraseSuggest

/-!
# WikiSearch — the index of known good queries

The backend keeps an index of queries that are known to be good. Looking a query up
is a costly call. What is found is shown to the reader, or, if the query found
nothing, run in its place.
-/

namespace WikiSearch.Fallback

/-- What a look-up promises for a query that found nothing: four tenths. -/
def noHitsScore : Score := ⟨0x3ECCCCCD⟩

/-- What a look-up promises for a query that found something: one tenth. -/
def someHitsScore : Score := ⟨0x3DCCCCCD⟩

/-- What the method does with a query that it has looked up. -/
def followLookup (settings : IndexLookupSettings) (initial : Results) (s : Suggestion) : Plan :=
  if !settings.mayReplace || initial.totalHits > 0 then .done (.suggest s)
  else .search s.text fun answer => .done (replaceOrSuggest s answer)

/-- The method for a query as typed, which looks up `key`. -/
def indexLookup (settings : IndexLookupSettings) (query key : String) : Method where
  name := "index_lookup"
  score initial budget :=
    if initial.isRevised || !budget.allowsCall then .zero
    else if initial.totalHits = 0 then noHitsScore
    else someHitsScore
  plan initial _ :=
    if initial.isRevised then .done .noAction
    else .lookup key fun
      -- a good query that is the one typed is no help
      | some (.ok (some s)) =>
        if s.text = query then .done .noAction else followLookup settings initial s
      | _ => .done .noAction

/-- The method for a query, if it is enabled and the query has text to look up. -/
def indexLookup? (settings : IndexLookupSettings) (q : Query) : Option Method :=
  if settings.enabled && q.hasCandidateTerms then some (indexLookup settings q.text q.freeText)
  else none

end WikiSearch.Fallback
