import WikiSearch.Fallback.Runner

/-!
# WikiSearch — the budget of costly calls

A request may make so many costly calls and no more. The count that a request keeps is
compared here with what happens at the backend: every costly call that is asked for is an
`Exchange`, which says whether it was granted and which calls reached the backend meanwhile.

Whatever is done with a request (scoring a method, letting one act, a costly call by itself)
comes down to a `Course`, a chain of exchanges in which each one starts where the last
has ended. One exchange keeps the accounts of a request in order, and so, by induction
over the course, does all that can be done with it.

What is counted are costly calls, and not the calls to the backend within them. A costly call is
a program that has the backend at hand; the request charges its budget by one for it and does not
look inside. So the two counts agree as long as every costly call contacts the backend once, and
part as soon as one does not (`counts_agree_iff`). The methods of a profile contact it once in
each (`asksOnce_phraseSuggest`, `asksOnce_indexLookup`).

Main results:

* `Accounts.exchange` — one exchange keeps the accounts; `Accounts.of_course` — so does
  a course.
* `course_exchangesOf`, `attempt_eq_performAll` — operations are courses, and a run of a
  runner is a list of operations.
* `counts_agree_iff` — when the count is that of the calls to the backend.
* `budget_kept` — what a budget keeps, for all that can be done with a request.
* `miscount_of_searchBoth` — a run that reports one costly call, which is all that its budget
  allows, and has called the backend twice.
-/

namespace WikiSearch.Fallback

/-! ## Exchanges -/

/-- A costly call that was asked for. -/
structure Exchange where
  before : Session
  /-- What was asked of the backend; what comes of it is the business of whoever asked. -/
  call : Inquiry Unit
  granted : Bool
  /-- The calls that reached the backend meanwhile. -/
  issued : List Call
  after : Session

/-- The exchange that asking for a costly call comes to. -/
def Session.exchange {α : Type} (b : Backend) (call : Inquiry α) (s : Session) : Exchange where
  before := s
  call := call.map fun _ => ()
  granted := (s.costly b call).1.isSome
  issued := if s.allowsCall then (call.run b s.calls).2 else []
  after := (s.costly b call).2

/-- How many costly calls were granted. -/
def granted (es : List Exchange) : Nat := es.countP (·.granted)

/-- The calls that reached the backend. -/
def issued (es : List Exchange) : List Call := es.flatMap (·.issued)

@[simp]
theorem granted_append (es fs : List Exchange) :
    granted (es ++ fs) = granted es + granted fs :=
  List.countP_append

@[simp]
theorem issued_append (es fs : List Exchange) : issued (es ++ fs) = issued es ++ issued fs :=
  List.flatMap_append

section Exchanges

variable {α : Type} {b : Backend} {s : Session}

/-- With a call left in the budget, the call is granted, and what it does is done. -/
theorem exchange_of_allowed (h : 0 < s.remaining) (call : Inquiry α) :
    s.exchange b call = ⟨s, call.map fun _ => (), true, (call.run b s.calls).2,
      s.spend (call.run b s.calls).2⟩ := by
  have hallowed : s.allowsCall = true := decide_eq_true h
  rw [Session.exchange, Session.costly_of_allowed h, if_pos hallowed]
  rfl

/-- With the budget used up, the call is refused, and nothing is done. -/
theorem exchange_of_spent (h : s.remaining = 0) (call : Inquiry α) :
    s.exchange b call = ⟨s, call.map fun _ => (), false, [], s⟩ := by
  have hspent : ¬ s.allowsCall = true := by simp [Budget.allowsCall, h]
  rw [Session.exchange, Session.costly_of_spent h, if_neg hspent]
  rfl

/-- What is made of the result of a costly call is not seen from outside. -/
theorem exchange_map {β : Type} (f : α → β) (b : Backend) (call : Inquiry α) (s : Session) :
    s.exchange b (call.map f) = s.exchange b call := by
  have hmap : (call.map f).map (fun _ => ()) = call.map fun _ => () := by
    induction call with
    | done result => rfl
    | search query next ih => simp only [Inquiry.map, ih]
    | lookup query next ih => simp only [Inquiry.map, ih]
  -- whether the call is granted does not depend on what is made of its result
  rcases Nat.eq_zero_or_pos s.remaining with hspent | hallowed
  · rw [exchange_of_spent hspent, exchange_of_spent hspent, hmap]
  · rw [exchange_of_allowed hallowed, exchange_of_allowed hallowed, hmap, Inquiry.run_map]

end Exchanges

/-- The exchanges lead from one state of a request to another: each starts where the last has
ended. -/
inductive Course (b : Backend) : Session → List Exchange → Session → Prop where
  | done (s : Session) : Course b s [] s
  | call {s s' : Session} {es : List Exchange} (call : Inquiry Unit) :
      Course b (s.exchange b call).after es s' → Course b s (s.exchange b call :: es) s'

namespace Course

variable {b : Backend} {s s' s'' : Session} {es fs : List Exchange}

/-- A costly call of any type is the first exchange of a course. -/
theorem cons {α : Type} (call : Inquiry α) (h : Course b (s.exchange b call).after es s') :
    Course b s (s.exchange b call :: es) s' := by
  -- a course has exchanges of no result, and the result is not seen from outside
  rw [← exchange_map fun _ => ()] at h ⊢
  exact .call _ h

/-- A course goes on where another one has ended. -/
theorem append (hes : Course b s es s') (hfs : Course b s' fs s'') :
    Course b s (es ++ fs) s'' := by
  induction hes with
  | done s => exact hfs
  | call c _ ih => exact .call c (ih hfs)

/-- A course can be stopped in front of any of its exchanges. -/
theorem split {front back : List Exchange} {e : Exchange}
    (h : Course b s (front ++ e :: back) s') :
    ∃ t, ∃ call : Inquiry Unit, e = t.exchange b call ∧ Course b s front t := by
  induction front generalizing s with
  -- the course stops at its very start
  | nil =>
    cases h with
    | call c _ => exact ⟨s, c, rfl, .done s⟩
  | cons f front ih =>
    cases h with
    | call c hrest =>
      -- the course behind the first exchange stops at the state that the whole one does
      obtain ⟨t, d, he, hfront⟩ := ih hrest
      exact ⟨t, d, he, .call c hfront⟩

end Course

/-! ## Accounts -/

/-- The state of a request after some exchanges: it knows how many costly calls were granted, how
many are left, and which calls have reached the backend. -/
structure Accounts (budget : Nat) (past : List Exchange) (s : Session) : Prop where
  total : s.made + s.remaining = budget
  made : s.made = granted past
  calls : s.calls = issued past

namespace Accounts

variable {α : Type} {b : Backend} {budget : Nat} {past es : List Exchange} {s s' : Session}

theorem start (budget : Nat) : Accounts budget [] (Session.start budget) :=
  ⟨Nat.zero_add budget, rfl, rfl⟩

/-- **One exchange.** A costly call that is granted moves from the calls that are left to the
calls that were made, whatever is done within it; one that is refused changes nothing. -/
theorem exchange (h : Accounts budget past s) (call : Inquiry α) :
    Accounts budget (past ++ [s.exchange b call]) (s.exchange b call).after := by
  obtain ⟨htotal, hmade, hcalls⟩ := h
  rcases Nat.eq_zero_or_pos s.remaining with hspent | hallowed
  · -- nothing was granted and nothing issued
    rw [exchange_of_spent hspent]
    refine ⟨htotal, ?_, ?_⟩
    · rw [granted_append, hmade]
      rfl
    · rw [issued_append, hcalls]
      exact (List.append_nil _).symm
  · rw [exchange_of_allowed hallowed]
    refine ⟨?_, ?_, ?_⟩
    · -- one call has moved from those that are left to those that were made
      show s.made + 1 + (s.remaining - 1) = budget
      omega
    · show s.made + 1 = _
      rw [granted_append, hmade]
      rfl
    · show s.calls ++ _ = _
      rw [issued_append, hcalls]
      exact congrArg _ (List.append_nil _).symm

/-- **A course keeps the accounts in order**, as each of its exchanges does. -/
theorem of_course (h : Accounts budget past s) (hcourse : Course b s es s') :
    Accounts budget (past ++ es) s' := by
  induction hcourse generalizing past with
  | done s => rwa [List.append_nil]
  | call c _ ih => simpa using ih (h.exchange c)

/-- No more costly calls are granted than the budget allows. -/
theorem granted_le (h : Accounts budget past s) : granted past ≤ budget := by
  obtain ⟨htotal, hmade, -⟩ := h
  omega

/-- A costly call is refused exactly if as many as the budget allows were granted. -/
theorem granted_eq_false_iff (h : Accounts budget past s) (call : Inquiry α) :
    (s.exchange b call).granted = false ↔ granted past = budget := by
  obtain ⟨htotal, hmade, -⟩ := h
  rcases Nat.eq_zero_or_pos s.remaining with hspent | hallowed
  · simp only [exchange_of_spent hspent, true_iff]
    omega
  · simp only [exchange_of_allowed hallowed, Bool.true_eq_false, false_iff]
    omega

/-- What a granted call does, it does with a backend that has seen the calls before and no
others. -/
theorem issued_of_granted (h : Accounts budget past s) {call : Inquiry α}
    (hgranted : (s.exchange b call).granted = true) :
    (s.exchange b call).issued = ((s.exchange b call).call.run b (issued past)).2 := by
  rcases Nat.eq_zero_or_pos s.remaining with hspent | hallowed
  · rw [exchange_of_spent hspent] at hgranted
    contradiction
  · rw [exchange_of_allowed hallowed, Inquiry.run_map, h.calls]

end Accounts

/-- A refused call changes nothing and contacts nobody. -/
theorem unchanged_of_refused {α : Type} {b : Backend} {s : Session} {call : Inquiry α}
    (h : (s.exchange b call).granted = false) :
    (s.exchange b call).after = s ∧ (s.exchange b call).issued = [] := by
  rcases Nat.eq_zero_or_pos s.remaining with hspent | hallowed
  · rw [exchange_of_spent hspent]
    exact ⟨rfl, rfl⟩
  · rw [exchange_of_allowed hallowed] at h
    contradiction

/-! ## Two counts -/

/-- **When the two counts agree**, after each of some exchanges: if no granted call contacts the
backend more than once, and none goes without. -/
theorem counts_agree_iff {es : List Exchange}
    (hrefused : ∀ e ∈ es, e.granted = false → e.issued = []) :
    (∀ front, front <+: es → granted front = (issued front).length) ↔
      ∀ e ∈ es, e.granted = true → e.issued.length = 1 := by
  constructor
  · intro hagree e he hgranted
    -- the counts agree in front of the exchange and behind it, so it adds the same to both
    obtain ⟨front, back, rfl⟩ := List.append_of_mem he
    have hfront := hagree front (List.prefix_append _ _)
    have hbehind := hagree (front ++ [e]) ⟨back, by simp⟩
    have hone : granted [e] = 1 := by simp [granted, hgranted]
    have hissued : issued [e] = e.issued := List.append_nil _
    rw [granted_append, issued_append, hone, hissued, List.length_append] at hbehind
    omega
  · -- an exchange that is granted adds one to both counts, and one that is refused adds nothing
    intro honce front hfront
    have hmem : ∀ e ∈ front, e ∈ es := fun e he => hfront.subset he
    clear hfront
    induction front with
    | nil => rfl
    | cons e front ih =>
      rw [List.forall_mem_cons] at hmem
      have hrest := ih hmem.2
      rw [← List.singleton_append, granted_append, issued_append, List.length_append, hrest]
      have hissued : issued [e] = e.issued := List.append_nil _
      rw [hissued, Nat.add_right_cancel_iff]
      cases hgranted : e.granted with
      | false => simp [granted, hgranted, hrefused e hmem.1 hgranted]
      | true => simp [granted, hgranted, honce e hmem.1 hgranted]

/-! ## What can be done with a request -/

namespace Plan

mutual

/-- The exchanges of a plan. -/
def exchanges (b : Backend) : Plan → Session → List Exchange
  | .done _, _ => []
  | .costly call refused, s =>
    s.exchange b call ::
      if s.allowsCall then exchangesWithin b call (s.spend []) else refused.exchanges b s

/-- The exchanges of a plan from within a costly call on. -/
def exchangesWithin (b : Backend) : Inquiry Plan → Session → List Exchange
  | .done plan, s => plan.exchanges b s
  | .search query next, s =>
    exchangesWithin b (next (b.search s.calls query))
      { s with calls := s.calls ++ [.search query] }
  | .lookup query next, s =>
    exchangesWithin b (next (b.lookup s.calls query))
      { s with calls := s.calls ++ [.lookup query] }

end

variable {b : Backend} {s : Session}

/-- The exchanges from within a costly call on are those of the plan that the call leads to. -/
theorem exchangesWithin_eq (b : Backend) (call : Inquiry Plan) (s : Session) :
    exchangesWithin b call s = (call.run b s.calls).1.exchanges b
      { s with calls := s.calls ++ (call.run b s.calls).2 } := by
  -- on the calls within, each of which is added to those that were made before
  induction call generalizing s with
  | done plan =>
    simp only [exchangesWithin, Inquiry.run, List.append_nil]
  | search query next ih =>
    simp only [exchangesWithin, Inquiry.run, ih, List.append_assoc, List.singleton_append]
  | lookup query next ih =>
    simp only [exchangesWithin, Inquiry.run, ih, List.append_assoc, List.singleton_append]

/-- A plan that is granted a call goes on with what comes of it. -/
theorem exchanges_costly_of_allowed (h : 0 < s.remaining) (call : Inquiry Plan) (refused : Plan) :
    (Plan.costly call refused).exchanges b s =
      s.exchange b call ::
        (call.run b s.calls).1.exchanges b (s.spend (call.run b s.calls).2) := by
  have hallowed : s.allowsCall = true := decide_eq_true h
  have hspend : (s.spend []).calls = s.calls := List.append_nil _
  rw [exchanges, if_pos hallowed, exchangesWithin_eq, hspend]
  rfl

/-- A plan that is refused a call goes on without. -/
theorem exchanges_costly_of_spent (h : s.remaining = 0) (call : Inquiry Plan) (refused : Plan) :
    (Plan.costly call refused).exchanges b s = s.exchange b call :: refused.exchanges b s := by
  have hspent : ¬ s.allowsCall = true := by simp [Budget.allowsCall, h]
  rw [exchanges, if_neg hspent]

/-- Carrying out a plan is a course, whatever the plan does within its costly calls. -/
theorem course (b : Backend) (plan : Plan) (s : Session) :
    Course b s (plan.exchanges b s) (plan.run b s).2 := by
  induction plan generalizing s with
  | done status => exact .done s
  | costly call refused hcall hrefused =>
    rcases Nat.eq_zero_or_pos s.remaining with hspent | hallowed
    · -- the call is refused, and the plan goes on with the same request
      rw [exchanges_costly_of_spent hspent, run_costly_of_spent b hspent]
      refine .cons call ?_
      rw [exchange_of_spent hspent]
      exact hrefused s
    · -- the plan goes on with the request as the costly call leaves it, whatever was done within
      rw [exchanges_costly_of_allowed hallowed, run_costly_of_allowed b hallowed]
      refine .cons call ?_
      rw [exchange_of_allowed hallowed]
      exact hcall b s.calls _

end Plan

/-- Something that is done with a request. -/
inductive Operation where
  | score (m : Method)
  /-- Lets a method act. -/
  | rewrite (m : Method)
  /-- Makes a costly call. -/
  | call (call : Inquiry Unit)

/-- What an operation gives back. -/
inductive Observed where
  | score (score : Score)
  | status (status : Status)
  | granted (result : Option Unit)

namespace Operation

variable (b : Backend) (initial : Results)

/-- Carries out an operation on a request with some first results. -/
def perform (s : Session) : Operation → Observed × Session
  | .score m => (.score (m.score initial s.toBudget), s)
  | .rewrite m =>
    let acted := (m.plan initial s.toBudget).run b s
    (.status acted.1, acted.2)
  | .call c =>
    let asked := s.costly b c
    (.granted asked.1, asked.2)

/-- The exchanges of an operation. A method is scored without any. -/
def exchanges (s : Session) : Operation → List Exchange
  | .score _ => []
  | .rewrite m => (m.plan initial s.toBudget).exchanges b s
  | .call c => [s.exchange b c]

/-- Carries out operations one after the other. -/
def performAll : Session → List Operation → Session
  | s, [] => s
  | s, op :: ops => performAll (op.perform b initial s).2 ops

/-- The exchanges of operations, one after the other. -/
def exchangesOf : Session → List Operation → List Exchange
  | _, [] => []
  | s, op :: ops => op.exchanges b initial s ++ exchangesOf (op.perform b initial s).2 ops

/-- Each operation is a course. -/
theorem course (s : Session) (op : Operation) :
    Course b s (op.exchanges b initial s) (op.perform b initial s).2 := by
  -- scoring does nothing, a method carries out its plan, and a call is one exchange
  cases op with
  | score m => exact .done s
  | rewrite m => exact Plan.course b _ s
  | call c => exact .call c (.done _)

/-- **Operations are a course**, whatever they are and whatever the methods do. -/
theorem course_exchangesOf (s : Session) (ops : List Operation) :
    Course b s (exchangesOf b initial s ops) (performAll b initial s ops) := by
  induction ops generalizing s with
  | nil => exact .done s
  | cons op ops ih => exact (course b initial s op).append (ih _)

/-- Some operations and then others are carried out one behind the other. -/
theorem performAll_append (s : Session) (ops more : List Operation) :
    performAll b initial s (ops ++ more) =
      performAll b initial (performAll b initial s ops) more := by
  induction ops generalizing s with
  | nil => rfl
  | cons op ops ih => exact ih _

/-- Scoring leaves the request as it was. -/
theorem performAll_score (s : Session) (ms : List Method) :
    performAll b initial s (ms.map .score) = s := by
  induction ms with
  | nil => rfl
  | cons m ms ih => exact ih

end Operation

/-! ## Methods that contact the backend once in each costly call -/

/-- Whatever the backend answers, it is called exactly once. -/
def Inquiry.IsSingle {α : Type} (call : Inquiry α) : Prop :=
  ∀ b past, (call.run b past).2.length = 1

/-- The plan contacts the backend once in each of its costly calls. -/
inductive Plan.AsksOnce : Plan → Prop where
  | done (status : Status) : AsksOnce (.done status)
  | costly {call : Inquiry Plan} {refused : Plan} : call.IsSingle →
      (∀ b past, AsksOnce (Inquiry.run b call past).1) → AsksOnce refused →
      AsksOnce (.costly call refused)

namespace Plan.AsksOnce

/-- A plan that asks a single thing in a costly call is as good as what it does next. -/
theorem ask {α : Type} {call : Inquiry α} {next : Option α → Plan} (hcall : call.IsSingle)
    (hnext : ∀ result, (next result).AsksOnce) : (Plan.ask call next).AsksOnce := by
  refine .costly ?_ ?_ (hnext none)
  · -- what is made of the result of the call issues no further ones
    intro b past
    rw [Inquiry.run_map]
    exact hcall b past
  · intro b past
    rw [Inquiry.run_map]
    exact hnext _

theorem search {query : String} {next : Option (Answer Results) → Plan}
    (hnext : ∀ answer, (next answer).AsksOnce) : (Plan.search query next).AsksOnce :=
  ask (fun _ _ => rfl) hnext

theorem lookup {query : String} {next : Option (Answer (Option Suggestion)) → Plan}
    (hnext : ∀ answer, (next answer).AsksOnce) : (Plan.lookup query next).AsksOnce :=
  ask (fun _ _ => rfl) hnext

/-- Every call that such a plan is granted contacts the backend once. -/
theorem length_issued {plan : Plan} (h : plan.AsksOnce) (b : Backend) (s : Session) :
    ∀ e ∈ plan.exchanges b s, e.granted = true → e.issued.length = 1 := by
  induction h generalizing s with
  | done status =>
    intro e he
    contradiction
  | @costly call refused hcall _ _ hnext hrefused =>
    rcases Nat.eq_zero_or_pos s.remaining with hspent | hallowed
    · -- a refused call is none that was granted
      rw [exchanges_costly_of_spent hspent, List.forall_mem_cons, exchange_of_spent hspent]
      exact ⟨fun hgranted => absurd hgranted (by simp), hrefused s⟩
    · rw [exchanges_costly_of_allowed hallowed, List.forall_mem_cons,
        exchange_of_allowed hallowed]
      exact ⟨fun _ => hcall b s.calls, hnext b s.calls _⟩

end Plan.AsksOnce

/-- The method contacts the backend once in each of its costly calls, whatever it is given. -/
def Method.AsksOnce (m : Method) : Prop := ∀ initial budget, (m.plan initial budget).AsksOnce

/-- The method that shows suggestions makes one search at most. -/
theorem asksOnce_phraseSuggest (settings : PhraseSuggestSettings) (query : String) :
    (phraseSuggest settings query).AsksOnce := by
  intro initial budget
  simp only [phraseSuggest]
  split
  · exact .done _
  · split
    · exact .done _
    · -- one search, whatever comes of it
      exact .search fun _ => .done _

/-- The index is asked once, and its answer may be run once, in a costly call of its own. -/
theorem asksOnce_indexLookup (settings : IndexLookupSettings) (query key : String) :
    (indexLookup settings query key).AsksOnce := by
  intro initial budget
  simp only [indexLookup]
  split
  · -- revised results are left alone
    exact .done _
  · refine .lookup fun answer => ?_
    split
    · split
      · exact .done _
      · -- what was looked up is shown, or run in place of the query
        rw [followLookup]
        split
        · exact .done _
        · exact .search fun _ => .done _
    · exact .done _

/-- The operation contacts the backend once in each of its costly calls. -/
def Operation.AsksOnce : Operation → Prop
  | .score _ => True
  | .rewrite m => m.AsksOnce
  | .call c => c.IsSingle

open Operation Runner

/-- Every call that such operations are granted contacts the backend once. -/
theorem length_issued_of_asksOnce {b : Backend} {initial : Results} {ops : List Operation}
    (h : ∀ op ∈ ops, op.AsksOnce) (s : Session) :
    ∀ e ∈ exchangesOf b initial s ops, e.granted = true → e.issued.length = 1 := by
  induction ops generalizing s with
  | nil =>
    intro e he
    contradiction
  | cons op ops ih =>
    rw [List.forall_mem_cons] at h
    intro e he hgranted
    rcases List.mem_append.mp he with he | he
    · -- the exchange is one of the first operation
      cases op with
      | score m => contradiction
      | rewrite m => exact (h.1 initial s.toBudget).length_issued b s e he hgranted
      | call c =>
        rw [List.mem_singleton.mp he] at hgranted ⊢
        rcases Nat.eq_zero_or_pos s.remaining with hspent | hallowed
        · rw [exchange_of_spent hspent] at hgranted
          contradiction
        · rw [exchange_of_allowed hallowed]
          exact h.1 b s.calls
    · exact ih h.2 _ e he hgranted

/-! ## Runs -/

namespace Runner

/-- The methods that are let act: all up to the first one that does something. -/
def tried (b : Backend) (initial : Results) : List Method → Session → List Method
  | [], _ => []
  | m :: ms, s =>
    let (status, s) := (m.plan initial s.toBudget).run b s
    if status.isNoAction then m :: tried b initial ms s else [m]

/-- All that a run does with its request: it scores its methods, and lets some of them act. -/
def operations (r : Runner) (b : Backend) (initial : Results) : List Operation :=
  r.methods.map .score ++
    (tried b initial (r.candidates initial) (.start r.budget)).map .rewrite

/-- Trying methods until one acts is letting these methods act. -/
theorem attempt_eq_performAll (b : Backend) (initial : Results) (ms : List Method) (s : Session) :
    (attempt b initial ms s).2 = performAll b initial s ((tried b initial ms s).map .rewrite) := by
  induction ms generalizing s with
  | nil => rfl
  | cons m ms ih =>
    rw [attempt, tried]
    by_cases hno : ((m.plan initial s.toBudget).run b s).1.isNoAction = true
    · -- the method did nothing, and the next ones get the request as it left it
      simp only [if_pos hno, ih]
      rfl
    · -- a method that acts is the last one
      simp only [if_neg hno]
      rfl

/-- A run ends where its operations end. -/
theorem attempt_eq_operations (r : Runner) (b : Backend) (initial : Results) :
    (attempt b initial (r.candidates initial) (.start r.budget)).2 =
      performAll b initial (.start r.budget) (r.operations b initial) := by
  rw [attempt_eq_performAll, operations, performAll_append, performAll_score]

/-- A run reports the calls of its request. -/
theorem run_calls (r : Runner) (b : Backend) (initial : Results) :
    let s := performAll b initial (.start r.budget) (r.operations b initial)
    (r.run b initial).costlyCalls = s.made ∧ (r.run b initial).calls = s.calls := by
  intro s
  have hs : (attempt b initial (r.candidates initial) (.start r.budget)).2 = s :=
    r.attempt_eq_operations b initial
  rw [← hs, run]
  -- what is reported of the calls is the same whether a method acted or not
  split
  · rename_i hattempt
    exact ⟨by rw [hattempt], by rw [hattempt]⟩
  · rename_i hattempt
    exact ⟨by rw [hattempt], by rw [hattempt]⟩

/-- Only methods that are there to be tried are let act. -/
theorem mem_of_mem_tried {b : Backend} {initial : Results} {ms : List Method} {s : Session}
    {m : Method} (h : m ∈ tried b initial ms s) : m ∈ ms := by
  induction ms generalizing s with
  | nil => contradiction
  | cons n ms ih =>
    rw [tried] at h
    by_cases hno : ((n.plan initial s.toBudget).run b s).1.isNoAction = true
    · simp only [if_pos hno] at h
      rcases List.mem_cons.mp h with rfl | h
      · exact List.mem_cons_self ..
      · exact List.mem_cons_of_mem _ (ih h)
    · simp only [if_neg hno] at h
      rw [List.mem_singleton.mp h]
      exact List.mem_cons_self ..

/-- Only methods of the runner are tried. -/
theorem mem_methods_of_mem_candidates {r : Runner} {initial : Results} {m : Method}
    (h : m ∈ r.candidates initial) : m ∈ r.methods := by
  -- candidates are methods with their scores, sorted and cut down to those that promise something
  obtain ⟨⟨m', score⟩, hsorted, rfl⟩ := List.mem_map.mp h
  have hscored := (List.mem_filter.mp (List.mem_mergeSort.mp hsorted)).1
  obtain ⟨n, hn, heq⟩ := List.mem_map.mp hscored
  obtain rfl := congrArg Prod.fst heq
  exact hn

/-- A run of methods that contact the backend once in each costly call does nothing else. -/
theorem asksOnce_operations {r : Runner} (h : ∀ m ∈ r.methods, m.AsksOnce) (b : Backend)
    (initial : Results) : ∀ op ∈ r.operations b initial, op.AsksOnce := by
  intro op hop
  rcases List.mem_append.mp hop with hop | hop
  · -- scoring makes no call
    obtain ⟨m, -, rfl⟩ := List.mem_map.mp hop
    trivial
  · obtain ⟨m, hm, rfl⟩ := List.mem_map.mp hop
    exact h m (mem_methods_of_mem_candidates (mem_of_mem_tried hm))

end Runner

/-- The methods of a profile contact the backend once in each costly call. -/
theorem asksOnce_ofProfile (q : Query) (profile : Profile) :
    ∀ m ∈ (Runner.ofProfile q profile).methods, m.AsksOnce := by
  intro m hm
  simp only [Runner.ofProfile, phraseSuggest?, indexLookup?, List.mem_append, Option.mem_toList,
    Option.ite_none_right_eq_some, Option.some.injEq] at hm
  rcases hm with ⟨-, rfl⟩ | ⟨-, rfl⟩
  · exact asksOnce_phraseSuggest _ _
  · exact asksOnce_indexLookup _ _ _

/-! ## What a budget keeps -/

/-- What holds of the exchanges that have led from the start of a request to some state: at the
end, and around each exchange on the way. -/
structure BudgetKept (b : Backend) (budget : Nat) (es : List Exchange) (s : Session) : Prop where
  accounts : Accounts budget es s
  /-- The accounts are in order in front of each exchange and behind it. -/
  around : ∀ front e back, es = front ++ e :: back →
    Accounts budget front e.before ∧ Accounts budget (front ++ [e]) e.after
  /-- A call is refused exactly if the budget is used up by then. -/
  refused_iff : ∀ front e back, es = front ++ e :: back →
    (e.granted = false ↔ granted front = budget)
  /-- A refused call leaves the request as it was, and contacts nobody. -/
  unchanged : ∀ e ∈ es, e.granted = false → e.after = e.before ∧ e.issued = []
  /-- A granted call does what it does with the backend as the calls before have left it. -/
  issued_eq : ∀ front e back, es = front ++ e :: back → e.granted = true →
    e.issued = (e.call.run b (issued front)).2
  /-- The count of costly calls is that of the calls to the backend as long as each costly
  call that is granted makes one. -/
  agree_iff : (∀ front, front <+: es → granted front = (issued front).length) ↔
    ∀ e ∈ es, e.granted = true → e.issued.length = 1

/-- **Every course from the start of a request keeps its budget.** -/
theorem Course.kept {b : Backend} {budget : Nat} {es : List Exchange} {s : Session}
    (h : Course b (.start budget) es s) : BudgetKept b budget es s := by
  have hrefused : ∀ e ∈ es, e.granted = false → e.after = e.before ∧ e.issued = [] := by
    intro e he hgranted
    obtain ⟨front, back, rfl⟩ := List.append_of_mem he
    obtain ⟨t, call, rfl, -⟩ := h.split
    exact unchanged_of_refused hgranted
  refine ⟨(Accounts.start budget).of_course h, ?_, ?_, hrefused, ?_,
    counts_agree_iff fun e he hgranted => (hrefused e he hgranted).2⟩
  -- each exchange on the way is met by a request whose accounts are in order
  all_goals
    rintro front e back rfl
    obtain ⟨t, call, rfl, hfront⟩ := h.split
    have hbefore : Accounts budget front t := (Accounts.start budget).of_course hfront
  · exact ⟨hbefore, hbefore.exchange call⟩
  · exact hbefore.granted_eq_false_iff call
  · exact hbefore.issued_of_granted

/-- **The budget of costly calls.** Whatever is done with a request keeps its budget; scoring
makes no costly call at all; and a run reports as many costly calls as it was granted, which its
budget allows. What is counted is the calls to the backend too, exactly if each costly call
contacts the backend once; so it is for the methods of a profile. -/
theorem budget_kept (b : Backend) (initial : Results) (budget : Nat) :
    (∀ ops : List Operation,
      let es := exchangesOf b initial (.start budget) ops
      BudgetKept b budget es (performAll b initial (.start budget) ops) ∧
      ((∀ op ∈ ops, op.AsksOnce) →
        ∀ front, front <+: es → granted front = (issued front).length)) ∧
    (∀ m s, (Operation.score m).exchanges b initial s = [] ∧
      ((Operation.score m).perform b initial s).2 = s) ∧
    (∀ methods : List Method,
      let r : Runner := ⟨methods, budget⟩
      let es := exchangesOf b initial (.start budget) (r.operations b initial)
      -- the operations are all that the run does
      (attempt b initial (r.candidates initial) (.start budget)).2 =
          performAll b initial (.start budget) (r.operations b initial) ∧
        (r.run b initial).costlyCalls = granted es ∧ granted es ≤ budget ∧
        (r.run b initial).calls = issued es ∧
        ((∀ m ∈ methods, m.AsksOnce) →
          (r.run b initial).costlyCalls = (r.run b initial).calls.length)) ∧
    ∀ q profile,
      let outcome := (Runner.ofProfile q profile).run b initial
      outcome.costlyCalls = outcome.calls.length ∧ outcome.costlyCalls ≤ profile.callBudget := by
  -- whatever is done is a course from the start of the request
  have hkept : ∀ n ops, BudgetKept b n (exchangesOf b initial (.start n) ops)
      (performAll b initial (.start n) ops) := fun n ops =>
    (course_exchangesOf b initial _ ops).kept
  have honce : ∀ n ops, (∀ op ∈ ops, op.AsksOnce) →
      ∀ front, front <+: exchangesOf b initial (.start n) ops →
        granted front = (issued front).length := fun n ops h =>
    (hkept n ops).agree_iff.mpr (length_issued_of_asksOnce h _)
  -- scores and methods alike make single calls, so both counts of the request are one
  have hrun : ∀ r : Runner, (∀ m ∈ r.methods, m.AsksOnce) →
      (r.run b initial).costlyCalls = (r.run b initial).calls.length := by
    intro r hmethods
    obtain ⟨hmade, hcalls⟩ := run_calls r b initial
    have haccounts := (hkept r.budget (r.operations b initial)).accounts
    rw [hmade, hcalls, haccounts.made, haccounts.calls]
    exact honce _ _ (asksOnce_operations hmethods b initial) _ List.prefix_rfl
  refine ⟨fun ops => ⟨hkept budget ops, honce budget ops⟩, fun m s => ⟨rfl, rfl⟩,
    fun methods => ⟨attempt_eq_operations ⟨methods, budget⟩ b initial, ?_⟩, fun q profile => ?_⟩
  · -- what a run reports is what its request holds in the end
    obtain ⟨hmade, hcalls⟩ := run_calls ⟨methods, budget⟩ b initial
    have haccounts := (hkept budget (Runner.operations ⟨methods, budget⟩ b initial)).accounts
    exact ⟨hmade.trans haccounts.made, haccounts.granted_le, hcalls.trans haccounts.calls,
      hrun ⟨methods, budget⟩⟩
  · have haccounts :=
      (hkept profile.callBudget ((Runner.ofProfile q profile).operations b initial)).accounts
    refine ⟨hrun _ (asksOnce_ofProfile q profile), ?_⟩
    rw [(run_calls (Runner.ofProfile q profile) b initial).1]
    exact Nat.le_trans (Nat.le_of_eq haccounts.made) haccounts.granted_le

/-- A method whose only call fails has used up a budget of one, so a call behind it is
refused. -/
theorem budget_kept_after_failure :
    let b : Backend := ⟨fun _ _ => .error .timeout, fun _ _ => .ok none⟩
    let m : Method := ⟨"m", fun _ _ => .zero, fun _ _ => .search "a" fun _ => .done .noAction⟩
    let ops : List Operation := [.score m, .rewrite m, .call (.lookup "b" fun _ => .done ())]
    let es := exchangesOf b {} (.start 1) ops
    BudgetKept b 1 es (performAll b {} (.start 1) ops) ∧
      granted es = 1 ∧ issued es = [.search "a"] ∧ es.map (·.granted) = [true, false] ∧
      granted es = (issued es).length := by
  intro b m ops es
  obtain ⟨hkept, honce⟩ := (budget_kept b {} 1).1 ops
  -- each of the three operations asks at most once, as the call by itself does
  have hops : ∀ op ∈ ops, op.AsksOnce := by
    have hm : m.AsksOnce := fun _ _ => .search fun _ => .done _
    have hcall : Operation.AsksOnce (.call (.lookup "b" fun _ => .done ())) := fun _ _ => rfl
    simp only [ops, List.forall_mem_cons]
    exact ⟨trivial, hm, hcall, fun _ h => absurd h List.not_mem_nil⟩
  exact ⟨hkept, rfl, rfl, rfl, honce hops es List.prefix_rfl⟩

/-- Two searches, the second one only if the first one succeeds. -/
def searchBoth (query next : String) : Inquiry (Answer Results) :=
  .search query fun
    | .error e => .done (.error e)
    | .ok _ => .search next .done

/-- **The count can be wrong.** Both searches are made within one costly call, so a budget of one
does not keep them apart, and what is reported is one call. A costly call that never contacts the
backend is reported just so. -/
theorem miscount_of_searchBoth :
    let b : Backend := ⟨fun _ _ => .ok {}, fun _ _ => .ok none⟩
    let m : Method := ⟨"m", fun _ _ => suggestionScore,
      fun _ _ => .ask (searchBoth "a" "b") fun _ => .done .noAction⟩
    (Session.start 1).costly b (searchBoth "a" "b") =
        (some (.ok {}), ⟨⟨0, 1⟩, [.search "a", .search "b"]⟩) ∧
      (Session.start 1).costly b (.done ()) = (some (), ⟨⟨0, 1⟩, []⟩) ∧
      (Runner.run ⟨[m], 1⟩ b {}).costlyCalls = 1 ∧
      (Runner.run ⟨[m], 1⟩ b {}).calls = [.search "a", .search "b"] := by
  intro b m
  -- the one method promises something, so it gets its turn
  have hcandidates : Runner.candidates ⟨[m], 1⟩ {} = [m] := by
    simp [Runner.candidates, m, suggestionScore, Score.isPositive]
  have hrun : (Runner.run ⟨[m], 1⟩ b {}) =
      ⟨{}, .noAction, none, 1, [.search "a", .search "b"]⟩ := by
    rw [Runner.run, hcandidates]
    rfl
  exact ⟨rfl, rfl, by rw [hrun], by rw [hrun]⟩

end WikiSearch.Fallback
