import WikiSearch.Proofs.Fallback.Budget
import WikiSearch.Proofs.Fallback.Ruling
import WikiSearch.Proofs.Fallback.Selection

/-!
# WikiSearch — methods that promise nothing

A run leaves out the methods that promise nothing when it starts. By the time at which such a
method would have had its turn, others have spent calls, so it has to be shown that what made it
promise nothing still holds then. There are two reasons for a score of zero. That of the results
(there is no usable suggestion, or they are revised) cannot change, as all methods see the first
results; and a budget that is used up stays used up.

So a method of a profile that scores zero stays idle (`Method.StaysIdle`), and an idle method in a
row of attempts is as good as none.

Main results:

* `Course.eq_of_spent`, `Course.calls_eq` — what exchanges do to a request whose budget is used up,
  and to the calls of any request.
* `staysIdle_of_score_eq_zero` — a method of a profile that scores zero does nothing from then on.
* `attempt_filter` — idle methods can be left out of a row of attempts.
* `run_eq_attempt_all` — a run comes to the same as trying all methods in descending order.
-/

namespace WikiSearch.Fallback

/-- Whatever calls are made from this state of a request on, the method does nothing: it contacts
nobody and leaves the request as it finds it. -/
def Method.StaysIdle (m : Method) (b : Backend) (initial : Results) (s : Session) : Prop :=
  ∀ es s', Course b s es s' →
    (m.plan initial s'.toBudget).run b s' = (.noAction, s') ∧
      issued ((m.plan initial s'.toBudget).exchanges b s') = []

/-! ## Exchanges -/

namespace Course

variable {b : Backend} {s s' : Session} {es : List Exchange}

/-- A budget that is used up stays used up, and then nothing changes. -/
theorem eq_of_spent (h : Course b s es s') (hspent : s.remaining = 0) : s' = s := by
  induction h with
  | done s => rfl
  | call c _ ih =>
    rw [exchange_of_spent hspent] at ih
    exact ih hspent

/-- The calls of a request are those that reach the backend. -/
theorem calls_eq (h : Course b s es s') : s'.calls = s.calls ++ issued es := by
  induction h with
  | done s => exact (List.append_nil _).symm
  | @call s s' es c _ ih =>
    have hissued : issued (s.exchange b c :: es) = (s.exchange b c).issued ++ issued es := rfl
    rw [hissued, ih, ← List.append_assoc]
    -- a call that is refused reaches nobody
    rcases Nat.eq_zero_or_pos s.remaining with hspent | hallowed
    · rw [exchange_of_spent hspent, List.append_nil]
    · rw [exchange_of_allowed hallowed]
      rfl

end Course

/-- A plan that leaves the request as it finds it has contacted nobody. -/
theorem issued_exchanges_eq_nil {b : Backend} {plan : Plan} {s : Session}
    (h : (plan.run b s).2 = s) : issued (plan.exchanges b s) = [] := by
  have hcalls := (Plan.course b plan s).calls_eq
  rw [h] at hcalls
  exact List.append_right_eq_self.mp hcalls.symm

/-- What stays idle is idle after some calls, too. -/
theorem Method.StaysIdle.after {m : Method} {b : Backend} {initial : Results} {s s' : Session}
    {es : List Exchange} (h : m.StaysIdle b initial s) (hcourse : Course b s es s') :
    m.StaysIdle b initial s' :=
  fun _ _ hmore => h _ _ (hcourse.append hmore)

/-! ## The methods of a profile -/

section Profiles

variable {b : Backend} {initial : Results} {s : Session} {q : Query} {profile : Profile}

/-- The methods of a profile are those that it enables, for a query with text. -/
theorem mem_methods_iff {m : Method} : m ∈ (Runner.ofProfile q profile).methods ↔
    (profile.phraseSuggest.enabled && q.hasCandidateTerms) = true ∧
      m = phraseSuggest profile.phraseSuggest q.text ∨
    (profile.indexLookup.enabled && q.hasCandidateTerms) = true ∧
      m = indexLookup profile.indexLookup q.text q.freeText := by
  simp only [Runner.ofProfile, phraseSuggest?, indexLookup?, List.mem_append, Option.mem_toList,
    Option.ite_none_right_eq_some, Option.some.injEq, @eq_comm _ m]

/-- Without a usable suggestion the plan is to do nothing, whatever the budget. -/
theorem staysIdle_phraseSuggest {settings : PhraseSuggestSettings} {query : String}
    (h : (phraseSuggest settings query).score initial s.toBudget = .zero) :
    (phraseSuggest settings query).StaysIdle b initial s := by
  -- the score is zero only for want of a suggestion, and that does not change with the session
  have hnone : usableSuggestion? query initial = none := by
    cases husable : usableSuggestion? query initial with
    | none => rfl
    | some t =>
      simp only [phraseSuggest, husable, Option.isSome_some, if_true] at h
      exact absurd h (by decide)
  intro es s' _
  have hplan : (phraseSuggest settings query).plan initial s'.toBudget = .done .noAction := by
    simp only [phraseSuggest, hnone]
  rw [hplan]
  exact ⟨Plan.run_done .., rfl⟩

/-- On revised results the plan is to do nothing. With the budget used up the look-up is refused,
and still is after calls that were refused themselves. -/
theorem staysIdle_indexLookup {settings : IndexLookupSettings} {key : String}
    (h : (indexLookup settings q.text key).score initial s.toBudget = .zero) :
    (indexLookup settings q.text key).StaysIdle b initial s := by
  intro es s' hcourse
  have hidle : initial.isRevised = true ∨ s'.remaining = 0 := by
    -- the score is zero for one of two reasons, and each of them lasts
    by_cases hspent : s.remaining = 0
    · rw [hcourse.eq_of_spent hspent]
      exact .inr hspent
    · left
      -- with a call left and results as they came, the score would be positive
      by_contra hunrevised
      have hallows : s.allowsCall = true := decide_eq_true (Nat.pos_of_ne_zero hspent)
      have hpositive := isPositive_indexLookup q initial settings key s.toBudget
      rw [h, hallows, Bool.eq_false_iff.mpr hunrevised] at hpositive
      exact absurd hpositive (by decide)
  have hrun : ((indexLookup settings q.text key).plan initial s'.toBudget).run b s' =
      (.noAction, s') := plan_indexLookup_run_idle hidle
  exact ⟨hrun, issued_exchanges_eq_nil (congrArg Prod.snd hrun)⟩

/-- **What promises nothing does nothing**, now and later. -/
theorem staysIdle_of_score_eq_zero {m : Method} (hm : m ∈ (Runner.ofProfile q profile).methods)
    (h : m.score initial s.toBudget = .zero) : m.StaysIdle b initial s := by
  rcases mem_methods_iff.mp hm with ⟨-, rfl⟩ | ⟨-, rfl⟩
  · exact staysIdle_phraseSuggest h
  · exact staysIdle_indexLookup h

/-! ## Trying all methods -/

section Attempts

open Runner

/-- Methods that stay idle can be left out of a row of attempts. -/
theorem attempt_filter {keeps : Method → Bool} {ms : List Method}
    (hidle : ∀ m ∈ ms, keeps m = false → m.StaysIdle b initial s) :
    attempt b initial (ms.filter keeps) s = attempt b initial ms s := by
  induction ms generalizing s with
  | nil => rfl
  | cons m ms ih =>
    have hrest : ∀ n ∈ ms, keeps n = false → n.StaysIdle b initial s :=
      fun n hn => hidle n (List.mem_cons_of_mem _ hn)
    by_cases hkeeps : keeps m = true
    · -- the next methods get the request as this one leaves it, and are idle there too
      rw [List.filter_cons_of_pos hkeeps, attempt, attempt]
      have hcourse := Plan.course b (m.plan initial s.toBudget) s
      have hnext := ih fun n hn hleft => (hrest n hn hleft).after hcourse
      simp only [hnext]
    · rw [List.filter_cons_of_neg hkeeps, ih hrest, attempt]
      obtain ⟨hrun, -⟩ :=
        hidle m (List.mem_cons_self ..) (Bool.eq_false_iff.mpr hkeeps) [] s (.done s)
      rw [hrun]
      rfl

end Attempts

/-! ## Scores of the methods -/

theorem score_phraseSuggest_cases (settings : PhraseSuggestSettings) (query : String)
    (initial : Results) (budget : Budget) :
    (phraseSuggest settings query).score initial budget = suggestionScore ∨
      (phraseSuggest settings query).score initial budget = .zero := by
  simp only [phraseSuggest]
  split
  · exact .inl rfl
  · exact .inr rfl

theorem score_indexLookup_cases (settings : IndexLookupSettings) (query key : String)
    (initial : Results) (budget : Budget) :
    (indexLookup settings query key).score initial budget = noHitsScore ∨
      (indexLookup settings query key).score initial budget = someHitsScore ∨
      (indexLookup settings query key).score initial budget = .zero := by
  simp only [indexLookup]
  split
  · exact .inr (.inr rfl)
  · split
    · exact .inl rfl
    · exact .inr (.inl rfl)

/-- A method of a profile that promises nothing promises zero. -/
theorem score_eq_zero {m : Method} (hm : m ∈ (Runner.ofProfile q profile).methods)
    {budget : Budget} (h : (m.score initial budget).isPositive = false) :
    m.score initial budget = .zero := by
  -- both methods have few scores, of which one is zero and the others promise something
  rcases mem_methods_iff.mp hm with ⟨-, rfl⟩ | ⟨-, rfl⟩
  · rcases score_phraseSuggest_cases profile.phraseSuggest q.text initial budget with hs | hs
    · rw [hs] at h
      exact absurd h (by decide)
    · exact hs
  · rcases score_indexLookup_cases profile.indexLookup q.text q.freeText initial budget with
      hs | hs | hs
    · rw [hs] at h
      exact absurd h (by decide)
    · rw [hs] at h
      exact absurd h (by decide)
    · exact hs

/-- A usable suggestion promises more than a look-up. -/
theorem exceeds_indexLookup {settings : PhraseSuggestSettings} {settings' : IndexLookupSettings}
    {query key : String} {budget : Budget}
    (h : ((phraseSuggest settings query).score initial budget).isPositive = true) :
    ((phraseSuggest settings query).score initial budget).Exceeds
      ((indexLookup settings' query key).score initial budget) := by
  have hsuggestion : (phraseSuggest settings query).score initial budget = suggestionScore := by
    rcases score_phraseSuggest_cases settings query initial budget with hs | hs
    · exact hs
    · rw [hs] at h
      exact absurd h (by decide)
  rw [hsuggestion]
  -- whatever the index promises is less than that
  rcases score_indexLookup_cases settings' query key initial budget with hs | hs | hs <;>
    · rw [hs, Score.exceeds_iff (by unfold Score.IsUnsigned; decide)
        (by unfold Score.IsUnsigned; decide)]
      decide

/-- Two methods of a profile that promise the same, and something, are one method. -/
theorem eq_of_tie {m m' : Method} {budget : Budget}
    (hm : m ∈ (Runner.ofProfile q profile).methods)
    (hm' : m' ∈ (Runner.ofProfile q profile).methods)
    (hpositive : (m.score initial budget).isPositive = true)
    (hpositive' : (m'.score initial budget).isPositive = true)
    (h : ¬ (m.score initial budget).Exceeds (m'.score initial budget))
    (h' : ¬ (m'.score initial budget).Exceeds (m.score initial budget)) : m = m' := by
  rcases mem_methods_iff.mp hm with ⟨-, rfl⟩ | ⟨-, rfl⟩
  · rcases mem_methods_iff.mp hm' with ⟨-, rfl⟩ | ⟨-, rfl⟩
    · rfl
    · exact absurd (exceeds_indexLookup hpositive) h
  · rcases mem_methods_iff.mp hm' with ⟨-, rfl⟩ | ⟨-, rfl⟩
    · exact absurd (exceeds_indexLookup hpositive') h'
    · rfl

/-! ## Runs -/

/-- **Skipping loses nothing.** A method that a profile enables for a query and that scores zero in
some state of a request does nothing there, and nothing either after any further calls: it returns
no action, contacts nobody and leaves the request as it finds it. So if all methods are tried in
any order in which none promises more than the ones before it, instead of the promising ones alone,
the outcome is the same, and so are the calls. -/
theorem run_eq_attempt_all (q : Query) (profile : Profile) (b : Backend) (initial : Results) :
    (∀ m ∈ (Runner.ofProfile q profile).methods, ∀ s : Session,
      m.score initial s.toBudget = .zero → m.StaysIdle b initial s) ∧
    ∀ order : List Method, order.Perm (Runner.ofProfile q profile).methods →
      (order.Pairwise fun m m' => ¬ (m'.score initial ⟨profile.callBudget, 0⟩).Exceeds
        (m.score initial ⟨profile.callBudget, 0⟩)) →
      Outcome.ofAttempt initial
          (Runner.attempt b initial order (.start profile.callBudget)) =
        (Runner.ofProfile q profile).run b initial := by
  refine ⟨fun m hm s => staysIdle_of_score_eq_zero hm, fun order hperm hdescending => ?_⟩
  let promises (m : Method) : Bool := (m.score initial ⟨profile.callBudget, 0⟩).isPositive
  have hcandidates : (Runner.ofProfile q profile).candidates initial =
      (Runner.ofProfile q profile).methods.filter promises := candidates_ofProfile q profile initial
  -- the promising methods stand in the same order in both rows, as no two of them are tied
  have horder : order.filter promises = (Runner.ofProfile q profile).candidates initial := by
    refine List.Perm.eq_of_pairwise ?_ (hdescending.filter promises)
      (pairwise_candidates _ profile.callBudget initial) (hcandidates ▸ hperm.filter promises)
    intro m m' hm hm' h h'
    rw [hcandidates] at hm'
    obtain ⟨hmem, hpositive⟩ := List.mem_filter.mp hm
    obtain ⟨hmem', hpositive'⟩ := List.mem_filter.mp hm'
    exact eq_of_tie (hperm.mem_iff.mp hmem) hmem' hpositive hpositive' h' h
  rw [run_eq_ofAttempt, ← horder, attempt_filter]
  · rfl
  · intro m hm hzero
    have hbuilt := hperm.mem_iff.mp hm
    exact staysIdle_of_score_eq_zero hbuilt (score_eq_zero hbuilt hzero)

end Profiles

/-- The only suggestion is the query itself, so it promises nothing. The index is asked in vain and
has used up the budget, after which neither method does anything. -/
theorem run_eq_attempt_all_of_echo :
    let q : Query := ⟨"catz", [⟨.must, false, .word "catz" ⟨0, 4⟩, ⟨0, 4⟩⟩], []⟩
    let b : Backend := ⟨fun _ _ => .error .timeout, fun _ _ => .ok none⟩
    let echo : Results := { phraseSuggestion := some ⟨"catz", "catz"⟩ }
    let suggestion := phraseSuggest {} "catz"
    let index := indexLookup ⟨true, true⟩ "catz" "catz"
    let spent : Session := ⟨⟨0, 1⟩, [.lookup "catz"]⟩
    (suggestion.score echo spent.toBudget = .zero ∧ suggestion.StaysIdle b echo spent) ∧
      (index.score echo spent.toBudget = .zero ∧ index.StaysIdle b echo spent) ∧
      Outcome.ofAttempt echo (Runner.attempt b echo [index, suggestion] (.start 1)) =
        (Runner.ofProfile q { indexLookup := ⟨true, true⟩ }).run b echo ∧
      Runner.attempt b echo [index, suggestion] (.start 1) = (none, spent) := by
  intro q b echo suggestion index spent
  obtain ⟨hidle, horders⟩ := run_eq_attempt_all q { indexLookup := ⟨true, true⟩ } b echo
  have hmethods : (Runner.ofProfile q { indexLookup := ⟨true, true⟩ }).methods =
      [suggestion, index] := rfl
  rw [hmethods] at hidle horders
  refine ⟨⟨rfl, hidle suggestion (by simp) spent rfl⟩, ⟨rfl, hidle index (by simp) spent rfl⟩,
    horders _ (List.Perm.swap _ _ _) ?_, rfl⟩
  rw [List.pairwise_pair]
  -- the suggestion comes second as it promises less
  have hexceeds : (index.score echo ⟨1, 0⟩).Exceeds (suggestion.score echo ⟨1, 0⟩) :=
    Score.isPositive_iff.mp rfl
  exact hexceeds.asymm

end WikiSearch.Fallback
