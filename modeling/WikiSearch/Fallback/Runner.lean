import WikiSearch.Fallback.IndexLookup

/-!
# WikiSearch — running fallbacks

The methods are tried in the order of what they promise until one of them acts.
Methods that promise nothing are left out; of two that promise the same, the one
that was registered first comes first.
-/

namespace WikiSearch.Fallback

/-- Some methods with a budget of costly calls. -/
structure Runner where
  methods : List Method
  budget : Nat

/-- What a run did. -/
structure Outcome where
  results : Results
  action : Action
  method : Option String
  costlyCalls : Nat
  calls : List Call
deriving Repr, DecidableEq, Inhabited

namespace Runner

/-- The methods that a profile enables for a query. -/
def ofProfile (q : Query) (profile : Profile) : Runner where
  methods := (phraseSuggest? profile.phraseSuggest q).toList
    ++ (indexLookup? profile.indexLookup q).toList
  budget := profile.callBudget

/-- The methods that promise something, the most promising ones first. -/
def candidates (r : Runner) (initial : Results) : List Method :=
  let scored := r.methods.map fun m => (m, m.score initial (Session.start r.budget).toBudget)
  let promising := scored.filter (·.2.isPositive)
  -- a merge sort leaves methods of one score in the order of their registration
  (promising.mergeSort fun a b => b.2.rank ≤ a.2.rank).map (·.1)

/-- Lets the methods act one after the other, until one does. -/
def attempt (b : Backend) (initial : Results) :
    List Method → Session → Option (Method × Status) × Session
  | [], s => (none, s)
  | m :: ms, s =>
    let (status, s) := (m.plan initial s.toBudget).run b s
    if status.isNoAction then attempt b initial ms s else (some (m, status), s)

/-- Runs the methods on the first results of a request. -/
def run (r : Runner) (b : Backend) (initial : Results) : Outcome :=
  match attempt b initial (r.candidates initial) (Session.start r.budget) with
  | (some (m, status), s) => ⟨status.apply initial, status.action, some m.name, s.made, s.calls⟩
  | (none, s) => ⟨initial, .noAction, none, s.made, s.calls⟩

end Runner

end WikiSearch.Fallback
