import WikiSearch.Proofs.Fallback.Ruling

/-!
# WikiSearch — fallbacks act once

Whatever a fallback does to some results leaves a mark on them, and no fallback touches results
that are marked. So once a run has acted, all later runs on what it has left are idle, be they
for the same query or for others, with the same profile or with others, and whatever the
backend answers by then.

Main results:

* `isRevised_of_acted`, `run_of_isRevised` — one run marks the results that it changes, and is
  idle on marked ones.
* `outcomes_of_isRevised` — so is a row of runs.
* `idle_after_action` — after the first action in a row of runs there is no other.
-/

namespace WikiSearch.Fallback

/-- The outcome of a run that does nothing and contacts nobody. -/
def Outcome.idle (results : Results) : Outcome := ⟨results, .noAction, none, 0, []⟩

/-- A run that is asked for: its methods are those that a profile enables for a query. Each run
has a backend of its own, as the answers may change in between. -/
structure Request where
  query : Query
  profile : Profile
  backend : Backend

/-- Runs the methods on some results. -/
def Request.run (r : Request) (initial : Results) : Outcome :=
  (Runner.ofProfile r.query r.profile).run r.backend initial

/-- The outcomes of runs one after the other, each on the results that the last one has left. -/
def outcomes (initial : Results) : List Request → List Outcome
  | [] => []
  | r :: rs => r.run initial :: outcomes (r.run initial).results rs

/-! ## One run -/

/-- What a suggestion leads to is marked with it. -/
theorem Acted.isRevised {b : Backend} {past : List Call} {initial results : Results}
    {s : Suggestion} {mayRun : Prop} {action : Action} {calls : List Call}
    (h : Acted b past initial s mayRun results action calls) : results.isRevised = true := by
  cases h with
  | replaced _ _ _ => exact Bool.or_true _
  | inVain _ _ => rfl
  | shown _ => rfl

/-- **An action leaves a mark**, whichever method took it. -/
theorem isRevised_of_acted {r : Request} {initial : Results}
    (h : (r.run initial).action ≠ .noAction) : (r.run initial).results.isRevised = true := by
  have hruling := ruling_run r.query r.profile r.backend initial
  rw [Request.run] at h ⊢
  generalize (Runner.ofProfile r.query r.profile).run r.backend initial = out at h hruling
  -- the law names an action only where a suggestion is acted on
  cases hruling with
  | suggestion _ hacted => exact hacted.isRevised
  | lookup _ _ _ _ hacted => exact hacted.isRevised
  | lookupInVain _ _ _ => exact absurd rfl h
  | idle _ _ => exact absurd rfl h

/-- **Marked results are left alone**, by every runner. -/
theorem run_of_isRevised {initial : Results} (h : initial.isRevised = true) (r : Request) :
    r.run initial = .idle initial := by
  have hnone : ∀ s, ¬ SuggestionApplies r.query r.profile initial s := by
    intro s happlies
    exact absurd (Results.isRevised_eq_false_iff.mpr happlies.unrevised) (by rw [h]; decide)
  have hlookup : ¬ LookupApplies r.query r.profile initial := by
    intro happlies
    exact absurd (Results.isRevised_eq_false_iff.mpr happlies.unrevised) (by rw [h]; decide)
  exact (ruling_run _ _ _ _).unique (.idle hnone hlookup)

/-! ## Rows of runs -/

/-- On marked results every run of a row is idle, as each leaves them as they are. -/
theorem outcomes_of_isRevised {initial : Results} (h : initial.isRevised = true)
    (rs : List Request) : ∀ out ∈ outcomes initial rs, out = .idle initial := by
  induction rs with
  | nil =>
    intro out hout
    contradiction
  | cons r rs ih =>
    intro out hout
    rw [outcomes, run_of_isRevised h, List.mem_cons] at hout
    rcases hout with rfl | hout
    · rfl
    · exact ih out hout

/-- A row of runs can be cut behind any of them: what comes behind is a row of runs on the results
that are left there. -/
theorem exists_of_outcomes_eq {initial : Results} {rs : List Request} {front back : List Outcome}
    {out : Outcome} (h : outcomes initial rs = front ++ out :: back) :
    ∃ (r : Request) (before : Results) (rest : List Request),
      out = r.run before ∧ back = outcomes out.results rest := by
  induction rs generalizing initial front with
  | nil => simp [outcomes] at h
  | cons r rs ih =>
    rw [outcomes] at h
    -- the cut is behind the first run, or behind a later one
    cases front with
    | nil =>
      rw [List.nil_append, List.cons.injEq] at h
      obtain ⟨rfl, rfl⟩ := h
      exact ⟨r, initial, rs, rfl, rfl⟩
    | cons first front =>
      rw [List.cons_append, List.cons.injEq] at h
      exact ih h.2

/-- **Fallbacks act once.** In every row of runs, each on the results that the last one has left,
with any queries, profiles and backends: a run that acts leaves revised results, and all runs
behind it do nothing, change nothing and contact nobody. If the results that the row starts with
already show a suggestion or come from another query, that holds of the whole row. -/
theorem idle_after_action (initial : Results) (rs : List Request) :
    (∀ front out back, outcomes initial rs = front ++ out :: back → out.action ≠ .noAction →
      out.results.isRevised = true ∧ ∀ later ∈ back, later = .idle out.results) ∧
    (initial.suggestionQuery ≠ none ∨ initial.replacementQuery ≠ none →
      ∀ out ∈ outcomes initial rs, out = .idle initial) := by
  constructor
  · -- behind the run that acts there is a row of runs on marked results
    intro front out back hrow hacted
    obtain ⟨r, before, rest, rfl, rfl⟩ := exists_of_outcomes_eq hrow
    have hrevised := isRevised_of_acted hacted
    exact ⟨hrevised, outcomes_of_isRevised hrevised rest⟩
  · intro hmarked
    have hrevised : initial.isRevised = true := by
      simpa only [Results.isRevised, Results.hasSuggestion, Results.hasReplacement,
        Bool.or_eq_true, Option.isSome_iff_ne_none] using hmarked
    exact outcomes_of_isRevised hrevised rs

/-- The suggestion is run in vain and then shown; with the backend back and the index enabled, the
next run does not touch what is shown. -/
theorem idle_after_action_of_failure :
    let q : Query := ⟨"catz", [⟨.must, false, .word "catz" ⟨0, 4⟩, ⟨0, 4⟩⟩], []⟩
    let cats : Suggestion := ⟨"cats", "<em>cats</em>"⟩
    let found : Results := { phraseSuggestion := some cats }
    let first : Request := ⟨q, {}, ⟨fun _ _ => .error .timeout, fun _ _ => .ok none⟩⟩
    let second : Request := ⟨q, { callBudget := 2, indexLookup := ⟨true, true⟩ },
      ⟨fun _ _ => .ok { totalHits := 3 }, fun _ _ => .ok (some cats)⟩⟩
    let shown : Outcome :=
      ⟨found.suggesting cats, .suggestQuery, some "phrase_suggest", 1, [.search "cats"]⟩
    outcomes found [first, second] = [] ++ shown :: [second.run shown.results] ∧
      shown.action ≠ .noAction ∧ second.run shown.results = .idle shown.results := by
  intro q cats found first second shown
  -- the search fails, so the suggestion is shown, and that is all of the first run
  have hrow : outcomes found [first, second] = [] ++ shown :: [second.run shown.results] := by
    have happlies : SuggestionApplies q {} found cats := ⟨rfl, by decide, ⟨rfl, rfl⟩, rfl, by decide⟩
    have hfirst : first.run found = shown := (ruling_run _ _ _ _).unique
      (.suggestion happlies (.inVain ⟨rfl, by decide, by decide⟩ (by simp [first])))
    rw [outcomes, hfirst]
    rfl
  have hacted : shown.action ≠ .noAction := by decide
  have hidle := ((idle_after_action found [first, second]).1 _ _ _ hrow hacted).2
  exact ⟨hrow, hacted, hidle _ (List.mem_singleton.mpr rfl)⟩

end WikiSearch.Fallback
