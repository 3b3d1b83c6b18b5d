import WikiSearch.Fallback.Method
import WikiSearch.Fallback.Profile
import WikiSearch.Query

/-!
# WikiSearch — suggestions that come with results

The backend may send a suggestion along with the first results. It is shown to the
reader, or, if the query found too little, run in place of the query.
-/

namespace WikiSearch.Fallback

/-- What a suggestion promises: one half. -/
def suggestionScore : Score := ⟨0x3F000000⟩

/-- The suggestion that is worth something: that of results which were not revised,
if it differs from the query as typed. -/
def usableSuggestion? (query : String) (initial : Results) : Option Suggestion :=
  if initial.isRevised then none else initial.phraseSuggestion.filter (·.text ≠ query)

/-- What the answer to the suggested query leads to: its results, if it found
anything, and else the suggestion. -/
def replaceOrSuggest (s : Suggestion) : Option (Answer Results) → Status
  | some (.ok results) =>
    if results.totalHits = 0 then .suggest s else .replace (results.replacing s)
  | _ => .suggest s

/-- The method for a query as typed. -/
def phraseSuggest (settings : PhraseSuggestSettings) (query : String) : Method where
  name := "phrase_suggest"
  score initial _ := if (usableSuggestion? query initial).isSome then suggestionScore else .zero
  plan initial _ :=
    match usableSuggestion? query initial with
    | none => .done .noAction
    | some s =>
      -- with enough hits the choice is left to the reader
      if !settings.mayReplace || settings.hitsThreshold ≤ initial.totalHits then .done (.suggest s)
      else .search s.text fun answer => .done (replaceOrSuggest s answer)

/-- The method for a query, if it is enabled and the query has text to correct. -/
def phraseSuggest? (settings : PhraseSuggestSettings) (q : Query) : Option Method :=
  if settings.enabled && q.hasCandidateTerms then some (phraseSuggest settings q.text) else none

end WikiSearch.Fallback
