import WikiSearch.Proofs.Fallback.Ruling

/-!
# WikiSearch — more budget is never worse

The budget has a say in whether the index is asked, and in whether a suggestion is run in place of
the query. It could do harm in two ways: a greater budget could let another method go first, or
let one spend the calls that a better one would have needed. Neither happens. A usable suggestion
goes first with any budget, as it needs no call to be shown; and then the index is not asked at
all. So a run asks of its budget only whether it allows one call, and whether it allows two.

The backend may answer to a call in the light of earlier ones. That does no harm either, since
every call that is made with both budgets comes behind the same earlier calls.

Main results:

* `Acted.strength_le` — what may be run is helped at least as much as what may only be shown.
* `Ruling.mono`, `Ruling.of_ample` — what the law says for two budgets.
* `run_mono` — more budget keeps the method that acts and never weakens what it does, and from two
  calls on it changes nothing.
-/

namespace WikiSearch.Fallback

/-- How far an action goes: results that are replaced are worth more than a suggestion, and that
is worth more than nothing. -/
def Action.strength : Action → Nat
  | noAction => 0
  | suggestQuery => 1
  | replaceResults => 2

/-- The profile with another budget. -/
def Profile.withBudget (profile : Profile) (budget : Nat) : Profile :=
  { profile with callBudget := budget }

variable {q : Query} {profile : Profile} {b : Backend} {initial : Results} {n n' : Nat}

/-! ## The parts of the law -/

/-- Whether there is a suggestion to act on does not depend on the budget. -/
theorem SuggestionApplies.withBudget {s : Suggestion}
    (h : SuggestionApplies q (profile.withBudget n) initial s) (n' : Nat) :
    SuggestionApplies q (profile.withBudget n') initial s :=
  ⟨h.enabled, h.hasText, h.unrevised, h.came, h.differs⟩

/-- Whether the index is asked depends on the budget only in that there has to be one. -/
theorem LookupApplies.withBudget (h : LookupApplies q (profile.withBudget n) initial)
    (hallowed : 1 ≤ n') : LookupApplies q (profile.withBudget n') initial :=
  ⟨h.enabled, h.hasText, h.unrevised, hallowed⟩

theorem Action.one_le_strength_iff {action : Action} :
    1 ≤ action.strength ↔ action ≠ .noAction := by
  cases action <;> decide

/-- Of a suggestion that is acted on something comes. -/
theorem Acted.one_le_strength {past : List Call} {s : Suggestion} {mayRun : Prop}
    {results : Results} {action : Action} {calls : List Call}
    (h : Acted b past initial s mayRun results action calls) : 1 ≤ action.strength := by
  cases h with
  | replaced _ _ _ => exact Nat.le_succ 1
  | inVain _ _ => exact Nat.le_refl 1
  | shown _ => exact Nat.le_refl 1

/-- What may be run with one budget and may be run with the other as well goes as far there. -/
theorem Acted.strength_le {past : List Call} {s : Suggestion} {mayRun mayRun' : Prop}
    {results results' : Results} {action action' : Action} {calls calls' : List Call}
    (himp : mayRun → mayRun') (h : Acted b past initial s mayRun results action calls)
    (h' : Acted b past initial s mayRun' results' action' calls') :
    action.strength ≤ action'.strength := by
  cases h with
  | replaced hrun hfound hhits =>
    -- the other one may run it too, and then finds the same
    cases h' with
    | replaced _ _ _ => exact Nat.le_refl 2
    -- the backend would have to answer the same search with hits and without
    | inVain _ hnone =>
      have hnothing := hnone _ hfound
      omega
    | shown hrun' => exact absurd (himp hrun) hrun'
  | inVain _ _ => exact h'.one_le_strength
  | shown _ => exact h'.one_le_strength

/-! ## Two budgets -/

/-- The law with a budget and with a greater one. -/
theorem Ruling.mono {out out' : Outcome} (hle : n ≤ n')
    (h : Ruling q (profile.withBudget n) b initial out)
    (h' : Ruling q (profile.withBudget n') b initial out') :
    (out.action ≠ .noAction → out'.method = out.method) ∧
      out.action.strength ≤ out'.action.strength := by
  cases h with
  -- there is the same suggestion with both budgets
  | suggestion happlies hacted =>
    cases h' with
    | suggestion happlies' hacted' =>
      obtain rfl := happlies.unique (happlies'.withBudget n)
      refine ⟨fun _ => rfl, hacted.strength_le ?_ hacted'⟩
      rintro ⟨hmay, hhits, hallowed⟩
      exact ⟨hmay, hhits, Nat.le_trans hallowed hle⟩
    | lookup hnone _ _ _ _ => exact absurd (happlies.withBudget n') (hnone _)
    | lookupInVain hnone _ _ => exact absurd (happlies.withBudget n') (hnone _)
    | idle hnone _ => exact absurd (happlies.withBudget n') (hnone _)
  | lookup hnone happlies hanswer hdiffers hacted =>
    -- a call that is left of the smaller budget is left of the greater one
    have hallowed : 1 ≤ n' := Nat.le_trans happlies.allowed hle
    cases h' with
    | suggestion happlies' _ => exact absurd (happlies'.withBudget n) (hnone _)
    | lookup _ _ hanswer' _ hacted' =>
      -- the index is asked first with both budgets
      rw [hanswer, Except.ok.injEq, Option.some.injEq] at hanswer'
      obtain rfl := hanswer'
      refine ⟨fun _ => rfl, hacted.strength_le ?_ hacted'⟩
      rintro ⟨hmay, hhits, hallowed⟩
      exact ⟨hmay, hhits, Nat.le_trans hallowed hle⟩
    | lookupInVain _ _ hvain => exact absurd (hvain _ hanswer) hdiffers
    | idle _ hlookup => exact absurd (happlies.withBudget hallowed) hlookup
  | lookupInVain _ _ _ => exact ⟨fun hacts => absurd rfl hacts, Nat.zero_le _⟩
  | idle _ _ => exact ⟨fun hacts => absurd rfl hacts, Nat.zero_le _⟩

/-- From two calls on, the law does not ask for the budget. -/
theorem Ruling.of_ample {out : Outcome} (hn : 2 ≤ n) (hn' : 2 ≤ n')
    (h : Ruling q (profile.withBudget n) b initial out) :
    Ruling q (profile.withBudget n') b initial out := by
  have hone : 1 ≤ n ↔ 1 ≤ n' := by omega
  have htwo : 2 ≤ n ↔ 2 ≤ n' := by omega
  -- a budget comes in only where it is compared with one or with two
  cases h with
  | suggestion happlies hacted =>
    exact .suggestion (happlies.withBudget n')
      (hacted.congr (and_congr_right' (and_congr_right' hone)))
  | lookup hnone happlies hanswer hdiffers hacted =>
    exact .lookup (fun s hs => hnone s (hs.withBudget n)) (happlies.withBudget (by omega)) hanswer
      hdiffers (hacted.congr (and_congr_right' (and_congr_right' htwo)))
  | lookupInVain hnone happlies hvain =>
    exact .lookupInVain (fun s hs => hnone s (hs.withBudget n)) (happlies.withBudget (by omega))
      hvain
  | idle hnone hlookup =>
    exact .idle (fun s hs => hnone s (hs.withBudget n))
      fun happlies => hlookup (happlies.withBudget (by omega))

/-- **More budget is never worse.** Take two runs for one query, with the same first results and
the same backend and with profiles that differ in their budgets alone. If the run with the smaller
budget acts, the other one acts by the same method; and it never does less, as no action is less
than a suggestion, and that is less than a replacement. With two calls or more the outcome does
not depend on the budget. -/
theorem run_mono (q : Query) (profile : Profile) (b : Backend) (initial : Results) :
    let out (budget : Nat) := (Runner.ofProfile q (profile.withBudget budget)).run b initial
    (∀ n n', n ≤ n' →
      ((out n).action ≠ .noAction →
        (out n').action ≠ .noAction ∧ (out n').method = (out n).method) ∧
      (out n).action.strength ≤ (out n').action.strength) ∧
    ∀ n n', 2 ≤ n → 2 ≤ n' → out n = out n' := by
  intro out
  have hruling : ∀ k, Ruling q (profile.withBudget k) b initial (out k) :=
    fun k => ruling_run q (profile.withBudget k) b initial
  constructor
  · -- both outcomes are those of the law, which says how they compare
    intro n n' hle
    obtain ⟨hmethod, hstrength⟩ := (hruling n).mono hle (hruling n')
    refine ⟨fun hacts => ⟨?_, hmethod hacts⟩, hstrength⟩
    exact Action.one_le_strength_iff.mp
      (Nat.le_trans (Action.one_le_strength_iff.mpr hacts) hstrength)
  · intro n n' hn hn'
    exact ((hruling n).of_ample hn hn').unique (hruling n')

/-- A query that found nothing, of which the index knows a better spelling: one call shows it, and
from two calls on it is run. -/
theorem run_mono_of_lookup :
    let q : Query := ⟨"catz", [⟨.must, false, .word "catz" ⟨0, 4⟩, ⟨0, 4⟩⟩], []⟩
    let profile : Profile := { indexLookup := ⟨true, true⟩ }
    let b : Backend :=
      ⟨fun _ _ => .ok { totalHits := 3 }, fun _ _ => .ok (some ⟨"cats", "<em>cats</em>"⟩)⟩
    let out (budget : Nat) := (Runner.ofProfile q (profile.withBudget budget)).run b {}
    ((out 1).action = .suggestQuery ∧ (out 1).method = some "index_lookup") ∧
      ((out 2).action = .replaceResults ∧ (out 2).method = some "index_lookup") ∧
      out 2 = out 9 := by
  intro q profile b out
  obtain ⟨hmono, hample⟩ := run_mono q profile b {}
  have hone : (out 1).action = .suggestQuery ∧ (out 1).method = some "index_lookup" := by
    decide +kernel
  have hacts : (out 1).action ≠ .noAction := by
    rw [hone.1]
    decide
  -- with more calls it is the same method that acts
  have hmethod := ((hmono 1 2 (by decide)).1 hacts).2
  refine ⟨hone, ⟨by decide +kernel, hmethod.trans hone.2⟩, hample 2 9 (by decide) (by decide)⟩

end WikiSearch.Fallback
