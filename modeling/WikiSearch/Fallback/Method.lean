import WikiSearch.Fallback.Session
import WikiSearch.Fallback.Status

/-!
# WikiSearch — fallback methods

A method says how much it promises for a request, without any call, and then what
it does. What it does is a tree: at each step the method ends with a status, or asks
for a costly call and goes on with what comes of it, or without if the call is
refused. The tree is the only way to the backend, so no method can get around the
budget; but what it does within a costly call is not looked at.
-/

namespace WikiSearch.Fallback

/-- What a method does, step by step. Within a costly call it does whatever it likes with
the backend; what that leads to is what the method does next. -/
inductive Plan where
  | done (status : Status)
  /-- A costly call, and what is done if it is refused. -/
  | costly (call : Inquiry Plan) (refused : Plan)

namespace Plan

mutual

/-- Carries out the steps within a request. -/
def run (b : Backend) : Plan → Session → Status × Session
  | .done status, s => (status, s)
  | .costly call refused, s =>
    -- the budget is charged before the backend is asked
    if s.allowsCall then runWithin b call (s.spend []) else refused.run b s

/-- Carries out the steps from within a costly call on. -/
def runWithin (b : Backend) : Inquiry Plan → Session → Status × Session
  | .done plan, s => plan.run b s
  | .search query next, s =>
    runWithin b (next (b.search s.calls query)) { s with calls := s.calls ++ [.search query] }
  | .lookup query next, s =>
    runWithin b (next (b.lookup s.calls query)) { s with calls := s.calls ++ [.lookup query] }

end

/-- Makes a costly call and goes on with what comes of it, which is nothing if the call is
refused. -/
def ask {α : Type} (call : Inquiry α) (next : Option α → Plan) : Plan :=
  .costly (call.map fun result => next (some result)) (next none)

/-- Runs a query as a costly call. -/
def search (query : String) (next : Option (Answer Results) → Plan) : Plan :=
  ask (.search query .done) next

/-- Looks a query up as a costly call. -/
def lookup (query : String) (next : Option (Answer (Option Suggestion)) → Plan) : Plan :=
  ask (.lookup query .done) next

/-! ## Plans and costly calls of a request -/

section Run

variable (b : Backend) (s : Session)

theorem run_done (status : Status) : (Plan.done status).run b s = (status, s) := rfl

/-- What is done within a costly call is what the inquiry comes to. -/
theorem runWithin_eq (call : Inquiry Plan) :
    runWithin b call s =
      (call.run b s.calls).1.run b { s with calls := s.calls ++ (call.run b s.calls).2 } := by
  induction call generalizing s with
  | done plan =>
    simp only [runWithin, Inquiry.run, List.append_nil]
  | search query next ih =>
    simp only [runWithin, Inquiry.run, ih, List.append_assoc, List.singleton_append]
  | lookup query next ih =>
    simp only [runWithin, Inquiry.run, ih, List.append_assoc, List.singleton_append]

theorem run_costly_of_allowed {s : Session} (h : 0 < s.remaining) (call : Inquiry Plan)
    (refused : Plan) :
    (Plan.costly call refused).run b s =
      (call.run b s.calls).1.run b (s.spend (call.run b s.calls).2) := by
  have hallowed : s.allowsCall = true := decide_eq_true h
  -- the state is charged before the calls are noted down, which comes to the same
  have hspend : (s.spend []).calls = s.calls := List.append_nil _
  rw [run, if_pos hallowed, runWithin_eq, hspend]
  rfl

theorem run_costly_of_spent {s : Session} (h : s.remaining = 0) (call : Inquiry Plan)
    (refused : Plan) : (Plan.costly call refused).run b s = refused.run b s := by
  have hspent : ¬ s.allowsCall = true := by simp [Budget.allowsCall, h]
  rw [run, if_neg hspent]

/-- **A costly call of a plan is one of the request.** -/
theorem run_ask {α : Type} (call : Inquiry α) (next : Option α → Plan) :
    (ask call next).run b s = (next (s.costly b call).1).run b (s.costly b call).2 := by
  rcases Nat.eq_zero_or_pos s.remaining with hspent | hallowed
  · rw [ask, run_costly_of_spent b hspent, Session.costly_of_spent hspent]
  · rw [ask, run_costly_of_allowed b hallowed, Session.costly_of_allowed hallowed,
      Inquiry.run_map]

theorem run_search (query : String) (next : Option (Answer Results) → Plan) :
    (search query next).run b s = (next (s.search b query).1).run b (s.search b query).2 :=
  run_ask b s _ next

theorem run_lookup (query : String) (next : Option (Answer (Option Suggestion)) → Plan) :
    (lookup query next).run b s = (next (s.lookup b query).1).run b (s.lookup b query).2 :=
  run_ask b s _ next

end Run

/-- Induction over plans. A costly call is followed by what the inquiry leads to, whatever
the backend answers, or by what is done if it is refused. -/
@[elab_as_elim, induction_eliminator]
theorem induction {motive : Plan → Prop} (done : ∀ status, motive (.done status))
    (costly : ∀ call refused, (∀ b past, motive (Inquiry.run b call past).1) → motive refused →
      motive (.costly call refused)) (plan : Plan) : motive plan := by
  -- the recursor goes over inquiries as well, for which the claim is that of what they come to
  refine @Plan.rec motive (fun call => ∀ b past, motive (Inquiry.run b call past).1) done ?_ ?_ ?_
    ?_ plan
  · intro call refused hcall hrefused
    exact costly call refused hcall hrefused
  · intro plan hplan b past
    exact hplan
  · intro query next hnext b past
    exact hnext _ b _
  · intro query next hnext b past
    exact hnext _ b _

end Plan

/-- A way to help a query that found too little. -/
structure Method where
  name : String
  /-- How much the method promises, given the first results and the budget. -/
  score : Results → Budget → Score
  /-- What the method does, given the first results and the budget. -/
  plan : Results → Budget → Plan

end WikiSearch.Fallback
