import WikiSearch.Fallback.Results

/-!
# WikiSearch — costly calls

A fallback may ask the search backend for more, but that is costly, so a request has
a budget of costly calls. A costly call beyond the budget is refused and contacts
nobody; one that fails counts like any other.

What is done within a costly call is up to whoever makes it. It is a program of its
own (`Inquiry`), which has the backend at hand and may call it once, several times or
not at all. The budget is charged when the program is let at the backend, before it
runs and whatever it does then.
-/

namespace WikiSearch.Fallback

/-- A call to the backend. -/
inductive Call where
  | search (query : String)
  | lookup (query : String)
deriving Repr, DecidableEq, Inhabited

/-- Why a call gave no answer. -/
inductive BackendError where
  | request (message : String)
  | timeout
deriving Repr, DecidableEq, Inhabited

/-- What a reader is told. -/
def BackendError.message : BackendError → String
  | request message => "backend request failed: " ++ message
  | timeout => "backend request timed out"

/-- The answer to a call, or the reason why there is none. -/
abbrev Answer (α : Type) := Except BackendError α

/-- A search backend. Its answers may depend on the calls that it has had before. -/
structure Backend where
  /-- Runs a query, after some earlier calls. -/
  search : List Call → String → Answer Results
  lookup : List Call → String → Answer (Option Suggestion)

/-! ## What is done within a costly call -/

/-- What is asked of the backend: calls one after the other, each of which may depend on
the answers to the ones before, and in the end what comes of them. -/
inductive Inquiry (α : Type) where
  | done (result : α)
  | search (query : String) (next : Answer Results → Inquiry α)
  | lookup (query : String) (next : Answer (Option Suggestion) → Inquiry α)

namespace Inquiry

variable {α β : Type}

/-- What comes of asking a backend that has had some calls before, and the calls that it
has then had on top of these. -/
def run (b : Backend) : Inquiry α → List Call → α × List Call
  | done result, _ => (result, [])
  | search query next, past =>
    let (result, calls) := (next (b.search past query)).run b (past ++ [.search query])
    (result, .search query :: calls)
  | lookup query next, past =>
    let (result, calls) := (next (b.lookup past query)).run b (past ++ [.lookup query])
    (result, .lookup query :: calls)

/-- Makes something else of what comes of it. -/
def map (f : α → β) : Inquiry α → Inquiry β
  | done result => .done (f result)
  | search query next => .search query fun answer => (next answer).map f
  | lookup query next => .lookup query fun answer => (next answer).map f

/-- The calls are the same, whatever is made of what comes of them. -/
theorem run_map (f : α → β) (b : Backend) (call : Inquiry α) (past : List Call) :
    (call.map f).run b past = (f (call.run b past).1, (call.run b past).2) := by
  induction call generalizing past with
  | done result => rfl
  | search query next ih =>
    simp only [map, run, ih]
  | lookup query next ih =>
    simp only [map, run, ih]

end Inquiry

/-! ## The budget -/

/-- How many costly calls a request has left, and how many it has made. -/
structure Budget where
  remaining : Nat
  made : Nat
deriving Repr, DecidableEq, Inhabited

/-- Whether another costly call is allowed. -/
def Budget.allowsCall (b : Budget) : Bool := b.remaining > 0

/-- The state of a request: its budget, and the calls that reached the backend. -/
structure Session extends Budget where
  calls : List Call
deriving Repr, DecidableEq, Inhabited

namespace Session

/-- A request that may make so many costly calls. -/
def start (budget : Nat) : Session := ⟨⟨budget, 0⟩, []⟩

/-- The state after a costly call within which some calls reached the backend. -/
def spend (s : Session) (calls : List Call) : Session :=
  ⟨⟨s.remaining - 1, s.made + 1⟩, s.calls ++ calls⟩

/-- Makes a costly call, or refuses it if the budget is used up. -/
def costly {α : Type} (b : Backend) (call : Inquiry α) (s : Session) : Option α × Session :=
  if s.allowsCall then
    let (result, calls) := call.run b s.calls
    (some result, s.spend calls)
  else (none, s)

/-- Runs a query as a costly call. -/
def search (b : Backend) (query : String) (s : Session) : Option (Answer Results) × Session :=
  s.costly b (.search query .done)

/-- Looks a query up as a costly call. -/
def lookup (b : Backend) (query : String) (s : Session) :
    Option (Answer (Option Suggestion)) × Session :=
  s.costly b (.lookup query .done)

section Costly

variable {α : Type} {b : Backend} {s : Session}

theorem costly_of_allowed (h : 0 < s.remaining) (call : Inquiry α) :
    s.costly b call = (some (call.run b s.calls).1, s.spend (call.run b s.calls).2) :=
  if_pos (decide_eq_true h)

theorem costly_of_spent (h : s.remaining = 0) (call : Inquiry α) :
    s.costly b call = (none, s) :=
  if_neg (by simp [Budget.allowsCall, h])

end Costly

end Session

end WikiSearch.Fallback
