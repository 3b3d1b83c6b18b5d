import WikiSearch.Fallback.Runner
import WikiSearch.Proofs.Fallback.Score

/-!
# WikiSearch — which methods get a turn

A run scores all its methods at the start, leaves out those that promise nothing, sorts the others
and lets them act one after the other until one does something. What a method does may depend on
the budget that the ones before it have left, so turns are not independent; and a method may be
registered twice, so methods are told apart by their place in the registration.

What a run should come to is stated as a `Selection`: a ranking of the promising methods, some
turns along it, and an outcome. The ranking is said in terms of the numbers that scores stand for,
and it leaves no choice, with ties broken by place. That the sort of the runner gives this ranking
is a matter of its stability.

Main results:

* `pairwise_mergeSort_of_pairwise` — sorting keeps what is tied in the order that it had.
* `isRanking_ranked`, `IsRanking.unique` — the candidates of a runner are the ranking, and there
  is only one.
* `exists_turns`, `attempt_of_turns` — trying methods in an order comes to some turns.
* `run_eq_iff_selection` — the outcome of a run is the one that the selection names.
-/

namespace WikiSearch.Fallback

/-! ## What a run should come to -/

/-- A method, and its place among those that were registered. -/
abbrev Registered := Method × Nat

/-- The methods that promise something, the most promising ones first. Of two that promise the
same, the one that was registered first comes first. -/
structure IsRanking (methods : List Method) (score : Method → Score) (order : List Registered) :
    Prop where
  nodup : order.Nodup
  mem_iff : ∀ c, c ∈ order ↔ methods[c.2]? = some c.1 ∧ (score c.1).Exceeds .zero
  descending : order.Pairwise fun c d =>
    (score c.1).Exceeds (score d.1) ∨ (score c.1).value? = (score d.1).value? ∧ c.2 < d.2

/-- A method that was let act, and what it did. -/
structure Turn where
  candidate : Registered
  status : Status

/-- The turns lead from one state of a request to another: each method finds the request as the
last one has left it. -/
inductive Turns (b : Backend) (initial : Results) : Session → List Turn → Session → Prop where
  | done (s : Session) : Turns b initial s [] s
  | next {s s' s'' : Session} {status : Status} {turns : List Turn} (c : Registered) :
      (c.1.plan initial s.toBudget).run b s = (status, s') → Turns b initial s' turns s'' →
      Turns b initial s (⟨c, status⟩ :: turns) s''

/-- Methods get their turns in some order until one of them acts. -/
structure Ended (order : List Registered) (turns : List Turn) : Prop where
  inOrder : turns.map (·.candidate) <+: order
  idle : ∀ t ∈ turns.dropLast, t.status = .noAction
  ended : turns.map (·.candidate) = order ∨ ∃ t ∈ turns.getLast?, t.status ≠ .noAction

/-- What a run comes to: the ranking of its methods, their turns, the state of the request in the
end, and the outcome. -/
structure Selection (methods : List Method) (budget : Nat) (b : Backend) (initial : Results)
    (order : List Registered) (turns : List Turn) (finish : Session) (out : Outcome) : Prop where
  ranking : IsRanking methods (·.score initial ⟨budget, 0⟩) order
  taken : Turns b initial (.start budget) turns finish
  ended : Ended order turns
  once : (turns.map (·.candidate)).Nodup
  acted : ∀ t ∈ turns.getLast?, t.status ≠ .noAction →
    out.results = t.status.apply initial ∧ out.action = t.status.action ∧
      out.method = some t.candidate.1.name
  nobody : (∀ t ∈ turns, t.status = .noAction) →
    out.results = initial ∧ out.action = .noAction ∧ out.method = none
  calls : out.costlyCalls = finish.made ∧ out.calls = finish.calls

/-! ## The ranking -/

/-- Sorting keeps elements that are tied in the order that they had. -/
theorem pairwise_mergeSort_of_pairwise {α : Type} {le : α → α → Bool} {R : α → α → Prop}
    {l : List α} (htrans : ∀ a b c, le a b = true → le b c = true → le a c = true)
    (htotal : ∀ a b, (le a b || le b a) = true) (h : l.Pairwise R) :
    (l.mergeSort le).Pairwise fun a b => le a b = true ∧ (le b a = true → R a b) := by
  -- the sort is one of numbered elements, in which numbers break the ties
  rw [← List.mergeSort_zipIdx, List.pairwise_map]
  have hperm := List.mergeSort_perm l.zipIdx (List.zipIdxLE le)
  have hnumbers : ((l.zipIdx.mergeSort (List.zipIdxLE le)).map Prod.snd).Nodup := by
    rw [(hperm.map _).nodup_iff, List.zipIdx_map_snd]
    exact List.nodup_range'
  have hsorted := List.pairwise_mergeSort (List.zipIdxLE_trans htrans)
    (List.zipIdxLE_total htotal) l.zipIdx
  refine (hsorted.and (List.pairwise_map.mp hnumbers)).imp_of_mem ?_
  intro x y hx hy hxy
  rw [hperm.mem_iff, List.mem_zipIdx_iff_getElem?, List.getElem?_eq_some_iff] at hx hy
  obtain ⟨hxlength, hx⟩ := hx
  obtain ⟨hylength, hy⟩ := hy
  -- numbers only count where the order leaves a tie
  have hle : le x.1 y.1 = true := by
    by_contra hnot
    simp [List.zipIdxLE, hnot] at hxy
  refine ⟨hle, fun htie => ?_⟩
  have hnumber : x.2 ≤ y.2 := by simpa [List.zipIdxLE, hle, htie] using hxy.1
  rw [← hx, ← hy]
  exact List.pairwise_iff_getElem.mp h _ _ _ _ (Nat.lt_of_le_of_ne hnumber hxy.2)

section Ranking

variable (methods : List Method) (score : Method → Score)

/-- Whether a method promises at least as much as another one. -/
def promisesMore (c d : Registered) : Bool := (score d.1).rank ≤ (score c.1).rank

/-- The methods that promise something, with their places. -/
def promising : List Registered := methods.zipIdx.filter fun c => (score c.1).isPositive

/-- The ranking as the runner computes it. -/
def ranked : List Registered := (promising methods score).mergeSort (promisesMore score)

/-- Promises are compared by numbers, so the comparison can be chained. -/
theorem promisesMore_trans (c d e : Registered) (hcd : promisesMore score c d = true)
    (hde : promisesMore score d e = true) : promisesMore score c e = true := by
  unfold promisesMore at *
  rw [decide_eq_true_eq] at *
  omega

/-- Of two methods one promises at least as much as the other. -/
theorem promisesMore_total (c d : Registered) :
    (promisesMore score c d || promisesMore score d c) = true := by
  unfold promisesMore
  rw [Bool.or_eq_true, decide_eq_true_eq, decide_eq_true_eq]
  omega

/-- The places rise along the list. -/
theorem pairwise_promising : (promising methods score).Pairwise fun c d => c.2 < d.2 := by
  have hplaces : methods.zipIdx.Pairwise fun c d => c.2 < d.2 := by
    have hrange : (methods.zipIdx.map Prod.snd).Pairwise (· < ·) := by
      rw [List.zipIdx_map_snd]
      exact List.pairwise_lt_range'
    exact List.pairwise_map.mp hrange
  exact hplaces.filter _

theorem mem_ranked_iff (c : Registered) :
    c ∈ ranked methods score ↔ methods[c.2]? = some c.1 ∧ (score c.1).isPositive = true := by
  rw [ranked, List.mem_mergeSort, promising, List.mem_filter, List.mem_zipIdx_iff_getElem?]

/-- **What the runner computes is a ranking.** -/
theorem isRanking_ranked : IsRanking methods score (ranked methods score) := by
  have hplaces := pairwise_promising methods score
  refine ⟨?_, ?_, ?_⟩
  · -- sorting repeats nothing, and no two methods have one place
    rw [ranked, (List.mergeSort_perm _ _).nodup_iff]
    exact hplaces.imp fun hlt heq => absurd (congrArg Prod.snd heq) (Nat.ne_of_lt hlt)
  · intro c
    rw [mem_ranked_iff, Score.isPositive_iff]
  · have hsorted := pairwise_mergeSort_of_pairwise (promisesMore_trans score)
      (promisesMore_total score) hplaces
    refine List.Pairwise.imp_of_mem ?_ hsorted
    -- the scores are positive, so ranks compare them as numbers
    intro c d hc hd hcd
    have hcnumber := Score.isUnsigned_of_isPositive ((mem_ranked_iff methods score c).mp hc).2
    have hdnumber := Score.isUnsigned_of_isPositive ((mem_ranked_iff methods score d).mp hd).2
    obtain ⟨hle, htie⟩ := hcd
    rw [promisesMore, decide_eq_true_eq] at hle htie
    rw [Score.exceeds_iff hcnumber hdnumber, Score.value?_eq_iff hcnumber hdnumber]
    rcases Int.lt_or_eq_of_le hle with hlt | heq
    · exact .inl hlt
    · exact .inr ⟨heq.symm, htie (by omega)⟩

/-- The runner tries the methods in the order of the ranking. -/
theorem candidates_eq_ranked (budget : Nat) (initial : Results) :
    Runner.candidates ⟨methods, budget⟩ initial =
      (ranked methods (·.score initial ⟨budget, 0⟩)).map (·.1) := by
  let scored (m : Method) : Method × Score := (m, m.score initial ⟨budget, 0⟩)
  -- the runner keeps scores beside the methods, and not places
  have hpromising : (promising methods (·.score initial ⟨budget, 0⟩)).map (fun c => scored c.1) =
      (methods.map scored).filter (·.2.isPositive) := by
    rw [← List.zipIdx_map_fst 0 methods, List.map_map, List.filter_map, List.zipIdx_map_fst]
    rfl
  have hsort := List.map_mergeSort
    (l := promising methods (·.score initial ⟨budget, 0⟩)) (f := fun c => scored c.1)
    (r := promisesMore (·.score initial ⟨budget, 0⟩)) (s := fun a b => b.2.rank ≤ a.2.rank)
    (fun _ _ _ _ => rfl)
  rw [hpromising] at hsort
  show List.map (·.1) (((methods.map scored).filter (·.2.isPositive)).mergeSort _) = _
  rw [← hsort, List.map_map]
  rfl

/-- Infinity comes first, what is tied comes as it was registered, and neither what is no number
nor what is below zero is tried. -/
example (plan : Results → Budget → Plan) :
    (Runner.candidates ⟨[⟨"half", fun _ _ => ⟨0x3F000000⟩, plan⟩,
        ⟨"no number", fun _ _ => ⟨0x7FC00000⟩, plan⟩,
        ⟨"minus one", fun _ _ => ⟨0xBF800000⟩, plan⟩,
        ⟨"another half", fun _ _ => ⟨0x3F000000⟩, plan⟩,
        ⟨"infinity", fun _ _ => ⟨0x7F800000⟩, plan⟩], 1⟩ {}).map (·.name) =
      ["infinity", "half", "another half"] := by
  cbv

/-- There is only one ranking. -/
theorem IsRanking.unique {methods : List Method} {score : Method → Score}
    {order order' : List Registered} (h : IsRanking methods score order)
    (h' : IsRanking methods score order') : order = order' := by
  have hperm : order.Perm order' := by
    rw [List.perm_ext_iff_of_nodup h.nodup h'.nodup]
    intro c
    rw [h.mem_iff, h'.mem_iff]
  refine hperm.eq_of_pairwise ?_ h.descending h'.descending
  -- no two methods come before each other
  rintro c d - - (hfirst | ⟨htie, hplace⟩) (hfirst' | ⟨htie', hplace'⟩)
  · exact absurd hfirst' hfirst.asymm
  · exact absurd htie'.symm hfirst.value?_ne
  · exact absurd htie.symm hfirst'.value?_ne
  · omega

/-- No candidate promises more than the ones before it. -/
theorem pairwise_candidates (budget : Nat) (initial : Results) :
    (Runner.candidates ⟨methods, budget⟩ initial).Pairwise fun m m' =>
      ¬ (m'.score initial ⟨budget, 0⟩).Exceeds (m.score initial ⟨budget, 0⟩) := by
  rw [candidates_eq_ranked, List.pairwise_map]
  refine (isRanking_ranked methods _).descending.imp ?_
  rintro c d (hfirst | ⟨htie, -⟩)
  · exact hfirst.asymm
  · exact fun hfirst => hfirst.value?_ne htie.symm

end Ranking

/-! ## Turns -/

section Attempts

open Runner

variable {b : Backend} {initial : Results} {order : List Registered} {turns : List Turn}
  {s finish : Session} {c : Registered} {t : Turn}

/-- The method that acted, and what it did. -/
def actor? (turns : List Turn) : Option (Method × Status) :=
  (turns.find? (!·.status.isNoAction)).map fun t => (t.candidate.1, t.status)

theorem isNoAction_iff {status : Status} : status.isNoAction = true ↔ status = .noAction := by
  cases status <;> simp [Status.isNoAction]

theorem actor?_cons_of_idle (h : t.status = .noAction) : actor? (t :: turns) = actor? turns := by
  rw [actor?, actor?, List.find?_cons_of_neg]
  rw [h]
  decide

/-- The first one who does something is the actor. -/
theorem actor?_cons_of_acted (h : t.status ≠ .noAction) :
    actor? (t :: turns) = some (t.candidate.1, t.status) := by
  rw [actor?, List.find?_cons_of_pos]
  · rfl
  · rw [Bool.not_eq_true', Bool.eq_false_iff, Ne, isNoAction_iff]
    exact h

/-- If nobody did anything, there is no actor. -/
theorem actor?_eq_none (h : ∀ t ∈ turns, t.status = .noAction) : actor? turns = none := by
  induction turns with
  | nil => rfl
  | cons t turns ih =>
    rw [actor?_cons_of_idle (h t (List.mem_cons_self ..))]
    exact ih fun u hu => h u (List.mem_cons_of_mem _ hu)

/-- If only the last method may have acted, it is the one that did or nobody is. -/
theorem actor?_of_idle (hidle : ∀ t ∈ turns.dropLast, t.status = .noAction)
    (hlast : turns.getLast? = some t) (hacted : t.status ≠ .noAction) :
    actor? turns = some (t.candidate.1, t.status) := by
  induction turns with
  | nil => contradiction
  | cons u turns ih =>
    -- the last turn is the first one, or it comes behind an idle one
    cases turns with
    | nil =>
      obtain rfl := Option.some.inj hlast
      exact actor?_cons_of_acted hacted
    | cons v turns =>
      rw [actor?_cons_of_idle (hidle u (List.mem_cons_self ..))]
      exact ih (fun w hw => hidle w (List.mem_cons_of_mem _ hw)) hlast

namespace Ended

theorem nil : Ended [] [] := ⟨List.nil_prefix, fun _ ht => absurd ht List.not_mem_nil, .inl rfl⟩

/-- A method that does nothing hands on to the next one. -/
theorem cons_idle_iff (h : t.status = .noAction) :
    Ended (c :: order) (t :: turns) ↔ t.candidate = c ∧ Ended order turns := by
  -- one more idle turn in front changes neither who may have acted nor who acted last
  have hfront : (∀ u ∈ (t :: turns).dropLast, u.status = .noAction) ↔
      ∀ u ∈ turns.dropLast, u.status = .noAction := by
    cases turns with
    | nil => rfl
    | cons v turns => rw [List.dropLast_cons_cons, List.forall_mem_cons, and_iff_right h]
  have hlast : (∃ u ∈ (t :: turns).getLast?, u.status ≠ .noAction) ↔
      ∃ u ∈ turns.getLast?, u.status ≠ .noAction := by
    cases turns with
    | nil => simp [h]
    | cons v turns => rw [List.getLast?_cons_cons]
  constructor
  · rintro ⟨hstart, hidle, hended⟩
    rw [List.map_cons, List.cons_prefix_cons] at hstart
    refine ⟨hstart.1, hstart.2, hfront.mp hidle, ?_⟩
    exact hended.imp (fun hall => (List.cons.inj hall).2) hlast.mp
  · rintro ⟨rfl, hstart, hidle, hended⟩
    refine ⟨List.cons_prefix_cons.mpr ⟨rfl, hstart⟩, hfront.mpr hidle, ?_⟩
    exact hended.imp (congrArg (t.candidate :: ·)) hlast.mpr

/-- Behind a method that acts there is no other turn. -/
theorem cons_acted_iff (h : t.status ≠ .noAction) :
    Ended (c :: order) (t :: turns) ↔ t.candidate = c ∧ turns = [] := by
  constructor
  · rintro ⟨hstart, hidle, -⟩
    rw [List.map_cons, List.cons_prefix_cons] at hstart
    refine ⟨hstart.1, ?_⟩
    -- a turn behind this one would mean that nothing was done in it
    cases turns with
    | nil => rfl
    | cons v turns => exact absurd (hidle t (List.mem_cons_self ..)) h
  · rintro ⟨rfl, rfl⟩
    exact ⟨List.cons_prefix_cons.mpr ⟨rfl, List.nil_prefix⟩, fun _ hu => absurd hu List.not_mem_nil,
      .inr ⟨t, rfl, h⟩⟩

end Ended

/-- Trying methods in an order comes to some turns. -/
theorem exists_turns (b : Backend) (initial : Results) (order : List Registered) (s : Session) :
    ∃ turns finish, Turns b initial s turns finish ∧ Ended order turns := by
  induction order generalizing s with
  | nil => exact ⟨[], s, .done s, .nil⟩
  | cons c order ih =>
    -- the first method has its turn, and what it did decides whether there is another one
    obtain ⟨status, s', hrun⟩ : ∃ status s', (c.1.plan initial s.toBudget).run b s = (status, s') :=
      ⟨_, _, rfl⟩
    by_cases hidle : status = .noAction
    · obtain ⟨turns, finish, hturns, hended⟩ := ih s'
      exact ⟨_, finish, .next c hrun hturns, (Ended.cons_idle_iff hidle).mpr ⟨rfl, hended⟩⟩
    · exact ⟨_, s', .next c hrun (.done s'), (Ended.cons_acted_iff hidle).mpr ⟨rfl, rfl⟩⟩

/-- What comes of trying methods is what the turns tell. -/
theorem attempt_of_turns (hturns : Turns b initial s turns finish) (hended : Ended order turns) :
    attempt b initial (order.map (·.1)) s = (actor? turns, finish) := by
  induction hturns generalizing order with
  | done s =>
    -- nobody had a turn, so there is nobody in the order
    rcases hended.ended with hall | ⟨t, ht, -⟩
    · rw [← hall]
      rfl
    · contradiction
  | @next s s' s'' status turns c hrun hturns ih =>
    cases order with
    | nil => exact absurd hended.inOrder (by simp)
    | cons d order =>
      rw [List.map_cons, attempt]
      by_cases hidle : status = .noAction
      · obtain ⟨rfl, hrest⟩ := (Ended.cons_idle_iff (c := d) hidle).mp hended
        rw [actor?_cons_of_idle hidle, hrun]
        exact (if_pos (isNoAction_iff.mpr hidle)).trans (ih hrest)
      · -- behind a method that acted nobody else had a turn
        obtain ⟨rfl, rfl⟩ := (Ended.cons_acted_iff (c := d) hidle).mp hended
        cases hturns
        rw [actor?_cons_of_acted hidle, hrun]
        exact if_neg (mt isNoAction_iff.mp hidle)

end Attempts

/-! ## Runs -/

/-- What is reported of the method that acted, if one did. -/
def Outcome.ofAttempt (initial : Results) (attempted : Option (Method × Status) × Session) :
    Outcome :=
  match attempted with
  | (some (m, status), s) => ⟨status.apply initial, status.action, some m.name, s.made, s.calls⟩
  | (none, s) => ⟨initial, .noAction, none, s.made, s.calls⟩

/-- A run reports what its attempts came to. -/
theorem run_eq_ofAttempt (r : Runner) (b : Backend) (initial : Results) :
    r.run b initial =
      .ofAttempt initial (Runner.attempt b initial (r.candidates initial) (.start r.budget)) :=
  rfl

section Selections

variable {methods : List Method} {budget : Nat} {b : Backend} {initial : Results}
  {order : List Registered} {turns : List Turn} {finish : Session} {out : Outcome}

/-- Either nobody acted, or the last one did. -/
theorem Ended.cases (h : Ended order turns) :
    (∀ t ∈ turns, t.status = .noAction) ∨ ∃ t, turns.getLast? = some t ∧ t.status ≠ .noAction := by
  cases hlast : turns.getLast? with
  | none =>
    rw [List.getLast?_eq_none_iff.mp hlast]
    exact .inl fun _ ht => absurd ht List.not_mem_nil
  | some t =>
    by_cases hidle : t.status = .noAction
    · -- the last one did nothing either
      have hfront := h.idle
      obtain ⟨front, rfl⟩ := List.getLast?_eq_some_iff.mp hlast
      rw [List.dropLast_concat] at hfront
      refine .inl fun u hu => ?_
      rcases List.mem_append.mp hu with hu | hu
      · exact hfront u hu
      · rw [List.mem_singleton.mp hu]
        exact hidle
    · exact .inr ⟨t, rfl, hidle⟩

/-- The turns in a ranking make a selection, with the outcome that they tell. -/
theorem selection_of_turns (hranking : IsRanking methods (·.score initial ⟨budget, 0⟩) order)
    (htaken : Turns b initial (.start budget) turns finish) (hended : Ended order turns) :
    Selection methods budget b initial order turns finish
      (.ofAttempt initial (actor? turns, finish)) where
  ranking := hranking
  taken := htaken
  ended := hended
  once := hranking.nodup.sublist hended.inOrder.sublist
  acted t ht hacted := by
    rw [actor?_of_idle hended.idle ht hacted]
    exact ⟨rfl, rfl, rfl⟩
  nobody hidle := by
    rw [actor?_eq_none hidle]
    exact ⟨rfl, rfl, rfl⟩
  calls := by
    cases actor? turns <;> exact ⟨rfl, rfl⟩

/-- What a selection says of the outcome is all that there is to it. -/
theorem Selection.out_eq (h : Selection methods budget b initial order turns finish out) :
    out = .ofAttempt initial (actor? turns, finish) := by
  obtain ⟨results, action, method, costlyCalls, calls⟩ := out
  obtain ⟨rfl, rfl⟩ := h.calls
  -- what is left is who acted, and with which results
  rcases h.ended.cases with hidle | ⟨t, ht, hacted⟩
  · obtain ⟨rfl, rfl, rfl⟩ := h.nobody hidle
    rw [actor?_eq_none hidle]
    rfl
  · obtain ⟨rfl, rfl, rfl⟩ := h.acted t ht hacted
    rw [actor?_of_idle h.ended.idle ht hacted]
    rfl

/-- **The outcome of a run.** The methods that promise something are ranked by what they promise,
ties broken by who was registered first. They get a turn in this order, each at most once, each in
the state in which the last one has left the request, until one of them acts or all had their turn.
What the method that acted did to the first results is what is reported; if nobody acted, these
are reported as they are. The runner's outcome is the one and only outcome that fits this. -/
theorem run_eq_iff_selection (methods : List Method) (budget : Nat) (b : Backend)
    (initial : Results) (out : Outcome) :
    Runner.run ⟨methods, budget⟩ b initial = out ↔
      ∃ order turns finish, Selection methods budget b initial order turns finish out := by
  have hranked := isRanking_ranked methods (·.score initial ⟨budget, 0⟩)
  rw [run_eq_ofAttempt, candidates_eq_ranked]
  -- the ranking is the only one, and along it the turns are the only ones
  constructor
  · rintro rfl
    obtain ⟨turns, finish, htaken, hended⟩ := exists_turns b initial
      (ranked methods (·.score initial ⟨budget, 0⟩)) (.start budget)
    rw [attempt_of_turns htaken hended]
    exact ⟨_, turns, finish, selection_of_turns hranked htaken hended⟩
  · rintro ⟨order, turns, finish, h⟩
    rw [hranked.unique h.ranking, attempt_of_turns h.taken h.ended, h.out_eq]

end Selections

end WikiSearch.Fallback
