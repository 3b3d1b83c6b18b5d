import WikiSearch.Fallback.Runner

/-!
# WikiSearch — what the fallbacks of a profile come to

A run of the methods that a profile enables is fixed by a few facts: what the profile allows,
what came with the first results, and what the backend answers to at most two calls. The law
is stated here as a relation (`Ruling`) that knows of no scores, no plans, no sessions and no
statuses: it names the fields of the results that a reader gets. Runs are shown to obey it.

Both methods end in the same way: with a suggestion at hand they run it in place of the
query, if they may, or else show it. That part of the law (`Acted`) is stated once and
proved once, for a request in any state. What is left is which methods come into play
(`candidates_ofProfile`): a usable suggestion outranks the index and always acts, so the
index is asked only without one.

Main results:

* `acted_offer` — what becomes of a suggestion.
* `ruling_run`, `Ruling.unique` — every run obeys the law, which leaves no choice.
* `run_eq_iff_ruling` — the outcome of a run is the one that the law names.
-/

namespace WikiSearch.Fallback

/-! ## The law -/

/-- The suggestion that came with the first results is acted on. -/
structure SuggestionApplies (q : Query) (profile : Profile) (initial : Results)
    (s : Suggestion) : Prop where
  enabled : profile.phraseSuggest.enabled = true
  hasText : q.hasCandidateTerms = true
  unrevised : initial.suggestionQuery = none ∧ initial.replacementQuery = none
  came : initial.phraseSuggestion = some s
  differs : s.text ≠ q.text

/-- The index may be asked. -/
structure LookupApplies (q : Query) (profile : Profile) (initial : Results) : Prop where
  enabled : profile.indexLookup.enabled = true
  hasText : q.hasCandidateTerms = true
  unrevised : initial.suggestionQuery = none ∧ initial.replacementQuery = none
  allowed : 1 ≤ profile.callBudget

/-- What becomes of a suggestion for the first results, and by which calls, when the backend has
had some calls before. `mayRun` says whether it may be run in place of the query. -/
inductive Acted (b : Backend) (past : List Call) (initial : Results) (s : Suggestion)
    (mayRun : Prop) : Results → Action → List Call → Prop where
  /-- What the suggested query finds stands in for the first results. -/
  | replaced {found : Results} : mayRun → b.search past s.text = .ok found →
      1 ≤ found.totalHits →
      Acted b past initial s mayRun
        { found with replacementQuery := some s.text, replacementSnippet := some s.snippet }
        .replaceResults [.search s.text]
  /-- The call failed, or it found nothing. -/
  | inVain : mayRun → (∀ found, b.search past s.text = .ok found → found.totalHits = 0) →
      Acted b past initial s mayRun
        { initial with suggestionQuery := some s.text, suggestionSnippet := some s.snippet }
        .suggestQuery [.search s.text]
  | shown : ¬ mayRun →
      Acted b past initial s mayRun
        { initial with suggestionQuery := some s.text, suggestionSnippet := some s.snippet }
        .suggestQuery []

/-- The outcome of running the methods of a profile on the first results of a query. -/
inductive Ruling (q : Query) (profile : Profile) (b : Backend) (initial : Results) :
    Outcome → Prop where
  | suggestion {s : Suggestion} {results : Results} {action : Action} {calls : List Call} :
      SuggestionApplies q profile initial s →
      Acted b [] initial s (profile.phraseSuggest.mayReplace = true ∧
        initial.totalHits < profile.phraseSuggest.hitsThreshold ∧ 1 ≤ profile.callBudget)
        results action calls →
      Ruling q profile b initial
        ⟨results, action, some "phrase_suggest", calls.length, calls⟩
  | lookup {t : Suggestion} {results : Results} {action : Action} {calls : List Call} :
      (∀ s, ¬ SuggestionApplies q profile initial s) → LookupApplies q profile initial →
      b.lookup [] q.freeText = .ok (some t) → t.text ≠ q.text →
      Acted b [.lookup q.freeText] initial t (profile.indexLookup.mayReplace = true ∧
        initial.totalHits = 0 ∧ 2 ≤ profile.callBudget) results action calls →
      Ruling q profile b initial
        ⟨results, action, some "index_lookup", calls.length + 1, .lookup q.freeText :: calls⟩
  /-- The call failed, nothing is known, or only the query itself. -/
  | lookupInVain :
      (∀ s, ¬ SuggestionApplies q profile initial s) → LookupApplies q profile initial →
      (∀ t, b.lookup [] q.freeText = .ok (some t) → t.text = q.text) →
      Ruling q profile b initial ⟨initial, .noAction, none, 1, [.lookup q.freeText]⟩
  | idle :
      (∀ s, ¬ SuggestionApplies q profile initial s) → ¬ LookupApplies q profile initial →
      Ruling q profile b initial ⟨initial, .noAction, none, 0, []⟩

section Unique

variable {b : Backend} {initial : Results}

/-- One thing becomes of a suggestion, and no other. -/
theorem Acted.unique {past : List Call} {s : Suggestion} {mayRun : Prop}
    {results results' : Results} {action action' : Action} {calls calls' : List Call}
    (h : Acted b past initial s mayRun results action calls)
    (h' : Acted b past initial s mayRun results' action' calls') :
    results = results' ∧ action = action' ∧ calls = calls' := by
  -- one search cannot find something and nothing, and it may be run or it may not
  cases h with
  | replaced hrun hfound hhits =>
    cases h' with
    | replaced _ hfound' _ =>
      rw [hfound, Except.ok.injEq] at hfound'
      rw [hfound']
      exact ⟨rfl, rfl, rfl⟩
    | inVain _ hnone =>
      have hnothing := hnone _ hfound
      omega
    | shown hrun' => exact absurd hrun hrun'
  | inVain hrun hnone =>
    cases h' with
    | replaced _ hfound hhits =>
      have hnothing := hnone _ hfound
      omega
    | inVain _ _ => exact ⟨rfl, rfl, rfl⟩
    | shown hrun' => exact absurd hrun hrun'
  | shown hrun =>
    cases h' with
    | replaced hrun' _ _ => exact absurd hrun' hrun
    | inVain hrun' _ => exact absurd hrun' hrun
    | shown _ => exact ⟨rfl, rfl, rfl⟩

/-- The first results came with one suggestion at most. -/
theorem SuggestionApplies.unique {q : Query} {profile : Profile} {s s' : Suggestion}
    (h : SuggestionApplies q profile initial s) (h' : SuggestionApplies q profile initial s') :
    s = s' :=
  Option.some.inj (h.came.symm.trans h'.came)

/-- The law leaves no choice. -/
theorem Ruling.unique {q : Query} {profile : Profile} {out out' : Outcome}
    (h : Ruling q profile b initial out) (h' : Ruling q profile b initial out') : out = out' := by
  cases h with
  | suggestion happlies hacted =>
    cases h' with
    | suggestion happlies' hacted' =>
      obtain rfl := happlies.unique happlies'
      obtain ⟨rfl, rfl, rfl⟩ := hacted.unique hacted'
      rfl
    | lookup hnone _ _ _ _ => exact absurd happlies (hnone _)
    | lookupInVain hnone _ _ => exact absurd happlies (hnone _)
    | idle hnone _ => exact absurd happlies (hnone _)
  | lookup hnone happlies hanswer hdiffers hacted =>
    cases h' with
    | suggestion happlies' _ => exact absurd happlies' (hnone _)
    | lookup _ _ hanswer' _ hacted' =>
      -- the index is asked the same question in both
      rw [hanswer, Except.ok.injEq, Option.some.injEq] at hanswer'
      obtain rfl := hanswer'
      obtain ⟨rfl, rfl, rfl⟩ := hacted.unique hacted'
      rfl
    | lookupInVain _ _ hvain => exact absurd (hvain _ hanswer) hdiffers
    | idle _ hlookup => exact absurd happlies hlookup
  | lookupInVain hnone happlies hvain =>
    cases h' with
    | suggestion happlies' _ => exact absurd happlies' (hnone _)
    | lookup _ _ hanswer hdiffers _ => exact absurd (hvain _ hanswer) hdiffers
    | lookupInVain _ _ _ => rfl
    | idle _ hlookup => exact absurd happlies hlookup
  | idle hnone hlookup =>
    cases h' with
    | suggestion happlies' _ => exact absurd happlies' (hnone _)
    | lookup _ happlies _ _ _ => exact absurd happlies hlookup
    | lookupInVain _ happlies _ => exact absurd happlies hlookup
    | idle _ _ => rfl

end Unique

/-! ## Which methods come into play -/

section Candidates

variable (q : Query) (profile : Profile) (initial : Results)

/-- A suggestion can be used on results that nobody has touched, if it differs from the query. -/
theorem usableSuggestion?_eq_some_iff {query : String} {s : Suggestion} :
    usableSuggestion? query initial = some s ↔
      initial.isRevised = false ∧ initial.phraseSuggestion = some s ∧ s.text ≠ query := by
  unfold usableSuggestion?
  split
  · rename_i hrevised
    simp [hrevised]
  · rename_i hunrevised
    simp [hunrevised, Option.filter_eq_some_iff]

/-- A suggestion is acted on if its method is built and finds it usable. -/
theorem suggestionApplies_iff {s : Suggestion} :
    SuggestionApplies q profile initial s ↔
      (profile.phraseSuggest.enabled && q.hasCandidateTerms) = true ∧
        usableSuggestion? q.text initial = some s := by
  rw [usableSuggestion?_eq_some_iff, Bool.and_eq_true, Results.isRevised_eq_false_iff]
  constructor
  · intro h
    exact ⟨⟨h.enabled, h.hasText⟩, h.unrevised, h.came, h.differs⟩
  · rintro ⟨⟨henabled, htext⟩, hunrevised, hcame, hdiffers⟩
    exact ⟨henabled, htext, hunrevised, hcame, hdiffers⟩

/-- The index may be asked if its method is built, nobody has touched the results and a call is
left. -/
theorem lookupApplies_iff :
    LookupApplies q profile initial ↔
      (profile.indexLookup.enabled && q.hasCandidateTerms) = true ∧
        initial.isRevised = false ∧ 1 ≤ profile.callBudget := by
  rw [Bool.and_eq_true, Results.isRevised_eq_false_iff]
  constructor
  · intro h
    exact ⟨⟨h.enabled, h.hasText⟩, h.unrevised, h.allowed⟩
  · rintro ⟨⟨henabled, htext⟩, hunrevised, hallowed⟩
    exact ⟨henabled, htext, hunrevised, hallowed⟩

/-- The method that shows suggestions promises something exactly if there is one to show. -/
theorem isPositive_phraseSuggest (settings : PhraseSuggestSettings) (budget : Budget) :
    ((phraseSuggest settings q.text).score initial budget).isPositive =
      (usableSuggestion? q.text initial).isSome := by
  simp only [phraseSuggest]
  cases usableSuggestion? q.text initial <;> rfl

/-- The index promises something as long as it may be asked. -/
theorem isPositive_indexLookup (settings : IndexLookupSettings) (key : String) (budget : Budget) :
    ((indexLookup settings q.text key).score initial budget).isPositive =
      (!initial.isRevised && budget.allowsCall) := by
  have hnot : (!initial.isRevised && budget.allowsCall) =
      !(initial.isRevised || !budget.allowsCall) := by
    rw [Bool.not_or, Bool.not_not]
  rw [hnot]
  simp only [indexLookup]
  -- every score but zero is positive, whatever the hits
  by_cases hzero : (initial.isRevised || !budget.allowsCall) = true
  · rw [if_pos hzero, hzero]
    rfl
  · rw [if_neg hzero, Bool.not_eq_true _ |>.mp hzero]
    split <;> rfl

/-- A look-up never promises more than a usable suggestion. -/
theorem rank_indexLookup_le (settings : IndexLookupSettings) (key : String) (budget : Budget) :
    ((indexLookup settings q.text key).score initial budget).rank ≤ suggestionScore.rank := by
  simp only [indexLookup]
  split
  · decide
  · split <;> decide

theorem pairwise_toList {α : Type} (R : α → α → Prop) (o : Option α) : o.toList.Pairwise R := by
  cases o with
  | none => exact .nil
  | some a => exact List.pairwise_singleton R a

/-- The methods of a profile are tried in the order of their registration. -/
theorem candidates_ofProfile :
    (Runner.ofProfile q profile).candidates initial =
      (Runner.ofProfile q profile).methods.filter fun m =>
        (m.score initial (Session.start profile.callBudget).toBudget).isPositive := by
  -- the ranks do not rise along the list, so sorting by rank leaves the list as it is
  have hpairwise : (((Runner.ofProfile q profile).methods.map fun m =>
      (m, m.score initial (Session.start profile.callBudget).toBudget)).filter
        (·.2.isPositive)).Pairwise fun a b => decide (b.2.rank ≤ a.2.rank) = true := by
    rw [List.pairwise_filter, List.pairwise_map, Runner.ofProfile, List.pairwise_append]
    refine ⟨pairwise_toList _ _, pairwise_toList _ _, ?_⟩
    intro m hm m' hm' hpositive _
    simp only [phraseSuggest?, indexLookup?, Option.mem_toList, Option.ite_none_right_eq_some,
      Option.some.injEq] at hm hm'
    obtain ⟨-, rfl⟩ := hm
    obtain ⟨-, rfl⟩ := hm'
    rw [decide_eq_true_eq]
    -- a suggestion that promises anything promises one half
    simp only [isPositive_phraseSuggest] at hpositive
    simp only [phraseSuggest, if_pos hpositive]
    exact rank_indexLookup_le q initial _ _ _
  rw [Runner.candidates, show (Runner.ofProfile q profile).budget = profile.callBudget from rfl,
    List.mergeSort_of_pairwise hpairwise, List.filter_map, List.map_map]
  exact List.map_id' _

variable {q profile initial}

/-- A usable suggestion goes first. -/
theorem candidates_of_suggestion {s : Suggestion} (h : SuggestionApplies q profile initial s) :
    ∃ rest, (Runner.ofProfile q profile).candidates initial =
      phraseSuggest profile.phraseSuggest q.text :: rest := by
  obtain ⟨hbuilt, husable⟩ := (suggestionApplies_iff q profile initial).mp h
  have hmethod : phraseSuggest? profile.phraseSuggest q =
      some (phraseSuggest profile.phraseSuggest q.text) := by
    rw [phraseSuggest?, if_pos hbuilt]
  rw [candidates_ofProfile, Runner.ofProfile, hmethod, Option.toList_some, List.singleton_append,
    List.filter_cons_of_pos (by rw [isPositive_phraseSuggest, husable]; rfl)]
  exact ⟨_, rfl⟩

/-- Without a usable suggestion there is the index or nothing. -/
theorem candidates_of_no_suggestion (hnone : ∀ s, ¬ SuggestionApplies q profile initial s) :
    (Runner.ofProfile q profile).candidates initial =
      (indexLookup? profile.indexLookup q).toList.filter fun m =>
        (m.score initial (Session.start profile.callBudget).toBudget).isPositive := by
  rw [candidates_ofProfile, Runner.ofProfile, List.filter_append, List.append_left_eq_self,
    List.filter_eq_nil_iff]
  -- the method that shows suggestions promises nothing
  intro m hm
  simp only [phraseSuggest?, Option.mem_toList, Option.ite_none_right_eq_some,
    Option.some.injEq] at hm
  obtain ⟨hbuilt, rfl⟩ := hm
  rw [isPositive_phraseSuggest, Option.isSome_iff_exists]
  rintro ⟨s, husable⟩
  exact hnone s ((suggestionApplies_iff q profile initial).mpr ⟨hbuilt, husable⟩)

/-- The index is the only method to be tried if there is no usable suggestion and it may be asked.
-/
theorem candidates_of_lookup (hnone : ∀ s, ¬ SuggestionApplies q profile initial s)
    (h : LookupApplies q profile initial) :
    (Runner.ofProfile q profile).candidates initial =
      [indexLookup profile.indexLookup q.text q.freeText] := by
  obtain ⟨hbuilt, hunrevised, hallowed⟩ := (lookupApplies_iff q profile initial).mp h
  have hmethod : indexLookup? profile.indexLookup q =
      some (indexLookup profile.indexLookup q.text q.freeText) := by
    rw [indexLookup?, if_pos hbuilt]
  have hallows : (Session.start profile.callBudget).allowsCall = true := decide_eq_true hallowed
  rw [candidates_of_no_suggestion hnone, hmethod, Option.toList_some,
    List.filter_cons_of_pos (by rw [isPositive_indexLookup, hunrevised, hallows]; rfl),
    List.filter_nil]

/-- Otherwise no method is tried. -/
theorem candidates_of_neither (hnone : ∀ s, ¬ SuggestionApplies q profile initial s)
    (h : ¬ LookupApplies q profile initial) :
    (Runner.ofProfile q profile).candidates initial = [] := by
  rw [candidates_of_no_suggestion hnone, List.filter_eq_nil_iff]
  intro m hm
  simp only [indexLookup?, Option.mem_toList, Option.ite_none_right_eq_some,
    Option.some.injEq] at hm
  -- the method for the index would be built and have a call left, so it would apply
  obtain ⟨hbuilt, rfl⟩ := hm
  rw [isPositive_indexLookup, Bool.and_eq_true, Bool.not_eq_true']
  rintro ⟨hunrevised, hallows⟩
  exact h ((lookupApplies_iff q profile initial).mpr
    ⟨hbuilt, hunrevised, of_decide_eq_true hallows⟩)

end Candidates

/-! ## What methods do -/

section Plans

variable {b : Backend} {session : Session} {s : Suggestion}

/-- Runs a suggestion in place of the query, if that is wanted, or else shows it. -/
def offer (wanted : Bool) (s : Suggestion) : Plan :=
  if wanted then .search s.text fun answer => .done (replaceOrSuggest s answer)
  else .done (.suggest s)

/-- The plan for a usable suggestion is to offer it. -/
theorem plan_phraseSuggest {settings : PhraseSuggestSettings} {query : String}
    {initial : Results} (h : usableSuggestion? query initial = some s) (budget : Budget) :
    (phraseSuggest settings query).plan initial budget =
      offer (settings.mayReplace && decide (initial.totalHits < settings.hitsThreshold)) s := by
  simp only [phraseSuggest, h, offer]
  -- the plan looks at the two conditions one after the other
  by_cases hmay : settings.mayReplace = true <;>
    by_cases hhits : initial.totalHits < settings.hitsThreshold <;>
    simp [hmay, hhits, Nat.not_le.mpr, Nat.not_lt.mp]

/-- An answer of the index is offered, too. -/
theorem followLookup_eq (settings : IndexLookupSettings) (initial : Results) (s : Suggestion) :
    followLookup settings initial s =
      offer (settings.mayReplace && decide (initial.totalHits = 0)) s := by
  simp only [followLookup, offer]
  by_cases hmay : settings.mayReplace = true <;>
    by_cases hhits : initial.totalHits = 0 <;>
    simp [hmay, hhits, Nat.pos_iff_ne_zero]

/-- Running a suggestion comes to what the answer says. -/
theorem acted_of_answer {past : List Call} {mayRun : Prop} (initial : Results) (hmay : mayRun) :
    let status := replaceOrSuggest s (some (b.search past s.text))
    Acted b past initial s mayRun (status.apply initial) status.action [.search s.text] := by
  cases hanswer : b.search past s.text with
  | error e =>
    -- the call failed
    refine .inVain hmay ?_
    intro found hfound
    rw [hanswer] at hfound
    contradiction
  | ok found =>
    simp only [replaceOrSuggest]
    split
    · -- it found nothing, which is as good as a failure
      rename_i hnothing
      refine .inVain hmay ?_
      intro found' hfound
      rw [hanswer, Except.ok.injEq] at hfound
      rw [← hfound, hnothing]
    · rename_i hhits
      exact .replaced hmay hanswer (Nat.pos_of_ne_zero hhits)

/-- Whatever the backend says, a suggestion that was run leads to an action. -/
theorem isNoAction_replaceOrSuggest (s : Suggestion) (answer : Option (Answer Results)) :
    (replaceOrSuggest s answer).isNoAction = false := by
  unfold replaceOrSuggest
  split
  · split <;> rfl
  · rfl

/-- **What becomes of a suggestion**, in a request that has had some calls before: it is run if
that is wanted and the budget has a call left. -/
theorem acted_offer (b : Backend) (wanted : Bool) (s : Suggestion) (session : Session)
    (initial : Results) :
    ∃ status calls after, (offer wanted s).run b session = (status, after) ∧
      status.isNoAction = false ∧
      Acted b session.calls initial s (wanted = true ∧ 1 ≤ session.remaining)
        (status.apply initial) status.action calls ∧
      after.made = session.made + calls.length ∧ after.calls = session.calls ++ calls := by
  have hcalls : session.calls = session.calls ++ [] := (List.append_nil _).symm
  cases wanted with
  | false =>
    have hrun : (offer false s).run b session = (.suggest s, session) := Plan.run_done ..
    exact ⟨.suggest s, [], session, hrun, rfl, .shown (by simp), rfl, hcalls⟩
  | true =>
    have hrun : (offer true s).run b session =
        (replaceOrSuggest s (session.search b s.text).1, (session.search b s.text).2) := by
      rw [offer, if_pos rfl, Plan.run_search, Plan.run_done]
    rw [hrun, Session.search]
    rcases Nat.eq_zero_or_pos session.remaining with hspent | hallowed
    · -- the call is refused, and the suggestion is shown
      rw [Session.costly_of_spent hspent]
      exact ⟨.suggest s, [], session, rfl, rfl, .shown (by omega), rfl, hcalls⟩
    · rw [Session.costly_of_allowed hallowed]
      exact ⟨_, [.search s.text], _, rfl, isNoAction_replaceOrSuggest s _,
        acted_of_answer initial ⟨rfl, hallowed⟩, rfl, rfl⟩

/-- It only matters whether a suggestion may be run, not why. -/
theorem Acted.congr {past : List Call} {initial results : Results} {mayRun mayRun' : Prop}
    {action : Action} {calls : List Call} (hiff : mayRun ↔ mayRun')
    (h : Acted b past initial s mayRun results action calls) :
    Acted b past initial s mayRun' results action calls :=
  propext hiff ▸ h

section Lookup

variable {settings : IndexLookupSettings} {query key : String} {initial : Results}
  {budget : Budget}

/-- On revised results, or with the budget used up, nothing is looked up. -/
theorem plan_indexLookup_run_idle (h : initial.isRevised = true ∨ session.remaining = 0) :
    ((indexLookup settings query key).plan initial budget).run b session =
      (.noAction, session) := by
  -- revised results are looked at first, and then the budget
  by_cases hrevised : initial.isRevised = true
  · simp only [indexLookup, if_pos hrevised, Plan.run_done]
  · have hspent := h.resolve_left hrevised
    simp only [indexLookup, if_neg hrevised, Plan.run_lookup, Session.lookup,
      Session.costly_of_spent hspent, Plan.run_done]

/-- With a call left, the index is asked, and the answer decides how to go on. -/
theorem plan_indexLookup_run (hunrevised : initial.isRevised = false)
    (hallowed : 1 ≤ session.remaining) :
    ((indexLookup settings query key).plan initial budget).run b session =
      Plan.run b (match b.lookup session.calls key with
        | .ok (some t) =>
          if t.text = query then .done .noAction else followLookup settings initial t
        | _ => .done .noAction) (session.spend [.lookup key]) := by
  simp only [indexLookup, hunrevised, Bool.false_eq_true, if_false, Plan.run_lookup,
    Session.lookup, Session.costly_of_allowed hallowed, Inquiry.run]
  rcases b.lookup session.calls key with e | _ | t <;> rfl

/-- An answer that differs from the query is offered, with the call for it spent. -/
theorem plan_indexLookup_run_of_answer {t : Suggestion} (hunrevised : initial.isRevised = false)
    (hallowed : 1 ≤ session.remaining) (hanswer : b.lookup session.calls key = .ok (some t))
    (hdiffers : t.text ≠ query) :
    ((indexLookup settings query key).plan initial budget).run b session =
      (offer (settings.mayReplace && decide (initial.totalHits = 0)) t).run b
        (session.spend [.lookup key]) := by
  rw [plan_indexLookup_run hunrevised hallowed, hanswer, ← followLookup_eq]
  simp only [if_neg hdiffers]

/-- A failure, no answer and the query itself come to nothing. -/
theorem plan_indexLookup_run_in_vain (hunrevised : initial.isRevised = false)
    (hallowed : 1 ≤ session.remaining)
    (hvain : ∀ t, b.lookup session.calls key = .ok (some t) → t.text = query) :
    ((indexLookup settings query key).plan initial budget).run b session =
      (.noAction, session.spend [.lookup key]) := by
  rw [plan_indexLookup_run hunrevised hallowed]
  rcases hanswer : b.lookup session.calls key with e | _ | t
  · exact Plan.run_done ..
  · exact Plan.run_done ..
  · simp only [if_pos (hvain t hanswer), Plan.run_done]

end Lookup

end Plans

/-! ## Runs -/

section Runs

variable {q : Query} {profile : Profile} {b : Backend} {initial : Results}

/-- A run ends with the first method that acts. -/
theorem run_of_acts {r : Runner} {m : Method} {rest : List Method} {status : Status}
    {session : Session} (hcandidates : r.candidates initial = m :: rest)
    (hrun : (m.plan initial (Session.start r.budget).toBudget).run b (.start r.budget) =
      (status, session)) (hacts : status.isNoAction = false) :
    r.run b initial =
      ⟨status.apply initial, status.action, some m.name, session.made, session.calls⟩ := by
  simp only [Runner.run, hcandidates, Runner.attempt, hrun, hacts, Bool.false_eq_true, if_false]

/-- A run whose only method does nothing leaves the results as they are. -/
theorem run_of_idle {r : Runner} {m : Method} {session : Session}
    (hcandidates : r.candidates initial = [m])
    (hrun : (m.plan initial (Session.start r.budget).toBudget).run b (.start r.budget) =
      (.noAction, session)) :
    r.run b initial = ⟨initial, .noAction, none, session.made, session.calls⟩ := by
  simp only [Runner.run, hcandidates, Runner.attempt, hrun, Status.isNoAction, if_true]

/-- Without a method to try nothing happens. -/
theorem run_of_no_candidates {r : Runner} (hcandidates : r.candidates initial = []) :
    r.run b initial = ⟨initial, .noAction, none, 0, []⟩ := by
  simp only [Runner.run, hcandidates, Runner.attempt, Session.start]

/-- With a usable suggestion a run obeys the law. -/
theorem ruling_of_suggestion {s : Suggestion} (h : SuggestionApplies q profile initial s) :
    Ruling q profile b initial ((Runner.ofProfile q profile).run b initial) := by
  obtain ⟨rest, hcandidates⟩ := candidates_of_suggestion h
  obtain ⟨-, husable⟩ := (suggestionApplies_iff q profile initial).mp h
  -- no call has been made yet, so the offer has the whole budget
  obtain ⟨status, calls, after, hrun, hacts, hacted, hmade, hcalls⟩ := acted_offer b
    (profile.phraseSuggest.mayReplace &&
      decide (initial.totalHits < profile.phraseSuggest.hitsThreshold)) s
    (.start profile.callBudget) initial
  rw [← plan_phraseSuggest husable (Session.start profile.callBudget).toBudget] at hrun
  rw [run_of_acts hcandidates hrun hacts, hmade, hcalls]
  simp only [Session.start, List.nil_append, Nat.zero_add]
  refine .suggestion h (hacted.congr ?_)
  rw [Bool.and_eq_true, decide_eq_true_eq, and_assoc]
  exact Iff.rfl

/-- So it does with an index that may be asked. -/
theorem ruling_of_lookup (hnone : ∀ s, ¬ SuggestionApplies q profile initial s)
    (h : LookupApplies q profile initial) :
    Ruling q profile b initial ((Runner.ofProfile q profile).run b initial) := by
  have hcandidates := candidates_of_lookup hnone h
  have hunrevised := Results.isRevised_eq_false_iff.mpr h.unrevised
  by_cases hanswer : ∃ t, b.lookup [] q.freeText = .ok (some t) ∧ t.text ≠ q.text
  · -- what the index answers is offered by a request that has made one call
    obtain ⟨t, hanswer, hdiffers⟩ := hanswer
    obtain ⟨status, calls, after, hrun, hacts, hacted, hmade, hcalls⟩ := acted_offer b
      (profile.indexLookup.mayReplace && decide (initial.totalHits = 0)) t
      ((Session.start profile.callBudget).spend [.lookup q.freeText]) initial
    rw [← plan_indexLookup_run_of_answer hunrevised h.allowed hanswer hdiffers] at hrun
    rw [run_of_acts hcandidates hrun hacts, hmade, hcalls, Nat.add_comm]
    refine .lookup hnone h hanswer hdiffers (hacted.congr ?_)
    -- the look-up has taken one call off the budget
    have hbudget : 1 ≤ profile.callBudget - 1 ↔ 2 ≤ profile.callBudget := by omega
    rw [Bool.and_eq_true, decide_eq_true_eq, and_assoc, ← hbudget]
    exact Iff.rfl
  · have hvain : ∀ t, b.lookup [] q.freeText = .ok (some t) → t.text = q.text := by
      intro t ht
      exact Decidable.byContradiction fun hdiffers => hanswer ⟨t, ht, hdiffers⟩
    rw [run_of_idle hcandidates (plan_indexLookup_run_in_vain hunrevised h.allowed hvain)]
    exact .lookupInVain hnone h hvain

/-- **Every run obeys the law.** -/
theorem ruling_run (q : Query) (profile : Profile) (b : Backend) (initial : Results) :
    Ruling q profile b initial ((Runner.ofProfile q profile).run b initial) := by
  by_cases hsuggestion : ∃ s, SuggestionApplies q profile initial s
  · obtain ⟨s, happlies⟩ := hsuggestion
    exact ruling_of_suggestion happlies
  · rw [not_exists] at hsuggestion
    -- the index comes second
    by_cases hlookup : LookupApplies q profile initial
    · exact ruling_of_lookup hsuggestion hlookup
    · rw [run_of_no_candidates (candidates_of_neither hsuggestion hlookup)]
      exact .idle hsuggestion hlookup

/-- For a suggestion there is one call or none. -/
theorem Acted.calls_cases {past : List Call} {s : Suggestion} {mayRun : Prop}
    {results : Results} {action : Action} {calls : List Call}
    (h : Acted b past initial s mayRun results action calls) :
    calls = [] ∨ calls = [.search s.text] := by
  cases h with
  | replaced _ _ _ => exact .inr rfl
  | inVain _ _ => exact .inr rfl
  | shown _ => exact .inl rfl

/-- **The decision law.** For every query, profile, first results and backend there is exactly one
outcome, the one that the law names: what the results are, what was done by which method, and
which calls were made in which order. So a run makes no call, runs the suggestion that came with
the first results, asks the index for the text of the query, or does that and runs what the index
answers. -/
theorem run_eq_iff_ruling (q : Query) (profile : Profile) (b : Backend) (initial : Results) :
    (∀ out, (Runner.ofProfile q profile).run b initial = out ↔ Ruling q profile b initial out) ∧
    let calls := ((Runner.ofProfile q profile).run b initial).calls
    calls = [] ∨
    (∃ s, initial.phraseSuggestion = some s ∧ calls = [.search s.text]) ∨
    calls = [.lookup q.freeText] ∨
    ∃ t, b.lookup [] q.freeText = .ok (some t) ∧
      calls = [.lookup q.freeText, .search t.text] := by
  have hruling := ruling_run q profile b initial
  constructor
  · intro out
    constructor
    · rintro rfl
      exact hruling
    · intro h
      exact hruling.unique h
  · -- what the calls can be is read off the law
    generalize (Runner.ofProfile q profile).run b initial = out at hruling
    cases hruling with
    | suggestion happlies hacted =>
      rcases hacted.calls_cases with hcalls | hcalls
      · exact .inl hcalls
      · exact .inr (.inl ⟨_, happlies.came, hcalls⟩)
    | lookup _ _ hanswer _ hacted =>
      rcases hacted.calls_cases with hcalls | hcalls
      · exact .inr (.inr (.inl (congrArg _ hcalls)))
      · exact .inr (.inr (.inr ⟨_, hanswer, congrArg _ hcalls⟩))
    | lookupInVain _ _ _ => exact .inr (.inr (.inl rfl))
    | idle _ _ => exact .inl rfl

/-- A query that found nothing. With two calls, the index is asked and its answer run; a suggestion
that came with the results goes first, and is shown if it cannot be run. -/
theorem run_eq_iff_ruling_of_no_hits :
    let q : Query := ⟨"catz", [⟨.must, false, .word "catz" ⟨0, 4⟩, ⟨0, 4⟩⟩], []⟩
    let profile : Profile := { callBudget := 2, indexLookup := ⟨true, true⟩ }
    let cats : Suggestion := ⟨"cats", "<em>cats</em>"⟩
    let b : Backend := ⟨fun _ _ => .ok { totalHits := 3 }, fun _ _ => .ok (some cats)⟩
    let down : Backend := ⟨fun _ _ => .error .timeout, fun _ _ => .error .timeout⟩
    (Runner.ofProfile q profile).run b {} =
        ⟨{ totalHits := 3, replacementQuery := some "cats",
            replacementSnippet := some "<em>cats</em>" },
          .replaceResults, some "index_lookup", 2, [.lookup "catz", .search "cats"]⟩ ∧
      (Runner.ofProfile q profile).run down { phraseSuggestion := some cats } =
        ⟨{ phraseSuggestion := some cats, suggestionQuery := some "cats",
            suggestionSnippet := some "<em>cats</em>" },
          .suggestQuery, some "phrase_suggest", 1, [.search "cats"]⟩ := by
  intro q profile cats b down
  have hkey : q.freeText = "catz" := by decide +kernel
  constructor
  · -- the index answers, and the search for its answer has hits
    have hnone : ∀ s, ¬ SuggestionApplies q profile {} s := by
      intro s happlies
      exact absurd happlies.came (by simp)
    have happlies : LookupApplies q profile {} := ⟨rfl, by decide, ⟨rfl, rfl⟩, by decide⟩
    have hdiffers : cats.text ≠ q.text := by decide
    have hfound : b.search [.lookup q.freeText] cats.text = .ok { totalHits := 3 } := rfl
    rw [← hkey]
    exact ((run_eq_iff_ruling q profile b {}).1 _).mpr
      (.lookup hnone happlies rfl hdiffers (.replaced ⟨rfl, rfl, by decide⟩ hfound (by decide)))
  · -- the search fails, and what the suggestion is good for is being shown
    have happlies : SuggestionApplies q profile { phraseSuggestion := some cats } cats :=
      ⟨rfl, by decide, ⟨rfl, rfl⟩, rfl, by decide⟩
    exact ((run_eq_iff_ruling q profile down _).1 _).mpr
      (.suggestion happlies (.inVain ⟨rfl, by decide, by decide⟩ (by simp [down])))

end Runs

end WikiSearch.Fallback
