import WikiSearch.Proofs.Fallback.Ruling
import WikiSearch.Proofs.Locality

/-!
# WikiSearch — an index that knows nothing better

The index of known good queries is asked for the free text of a query. If it answers with the
query as typed, there is nothing to propose, and the answer is ignored.

The text that was looked up may be another one. Signs, escapes, directives, excluded terms and
spare blanks are no part of the free text, and a query that is typed without them counts as
another query. So an index that answers with what it was asked (an echo) is ignored for the
queries that are typed the way in which their free text is written; for any other query, an echo is
taken for a better one, like every answer that differs from what was typed.

Main results:

* `status_eq_noAction_iff` — when an answer is ignored.
* `freeText_of_blank` — a blank in front of a query changes nothing about its free text.
* `answer_ignored_iff` — when an answer is ignored and what becomes of it otherwise; for which
  queries all echoes are ignored.
* `exists_echo_proposed` — a query in whose place the index proposes what it was asked.
-/

namespace WikiSearch.Fallback

/-- Whatever the settings, the backend, the first results and the state of the request are: a
look-up that is answered with the text that was looked up leads to no action. -/
def IgnoresEcho (q : Query) : Prop :=
  ∀ (settings : IndexLookupSettings) (m : Method), indexLookup? settings q = some m →
    ∀ (b : Backend) (initial : Results) (s : Session) (snippet : String),
      b.lookup s.calls q.freeText = .ok (some ⟨q.freeText, snippet⟩) →
      ((m.plan initial s.toBudget).run b s).1 = .noAction

/-! ## One look-up -/

section Lookup

variable (settings : IndexLookupSettings) {q : Query} {b : Backend} {initial : Results}
  {s : Session} {t : Suggestion}

/-- An answer that differs from the query as typed is offered, and so leads to an action. -/
theorem acted_of_lookup (hunrevised : initial.isRevised = false) (hallowed : 1 ≤ s.remaining)
    (hanswer : b.lookup s.calls q.freeText = .ok (some t)) (hdiffers : t.text ≠ q.text) :
    let status :=
      (((indexLookup settings q.text q.freeText).plan initial s.toBudget).run b s).1
    status.isNoAction = false ∧
      ∃ calls, Acted b (s.calls ++ [.lookup q.freeText]) initial t
        (settings.mayReplace = true ∧ initial.totalHits = 0 ∧ 2 ≤ s.remaining)
        (status.apply initial) status.action calls := by
  obtain ⟨status, calls, after, hrun, hacts, hacted, -⟩ := acted_offer b
    (settings.mayReplace && decide (initial.totalHits = 0)) t (s.spend [.lookup q.freeText]) initial
  rw [plan_indexLookup_run_of_answer hunrevised hallowed hanswer hdiffers, hrun]
  refine ⟨hacts, calls, hacted.congr ?_⟩
  -- the look-up has taken one call off what was left
  have hleft : 1 ≤ s.remaining - 1 ↔ 2 ≤ s.remaining := by omega
  rw [Bool.and_eq_true, decide_eq_true_eq, and_assoc, ← hleft]
  exact Iff.rfl

/-- **When an answer is ignored**: if nothing is looked up at all, or if the answer is the query as
typed. -/
theorem status_eq_noAction_iff (hanswer : b.lookup s.calls q.freeText = .ok (some t)) :
    (((indexLookup settings q.text q.freeText).plan initial s.toBudget).run b s).1 = .noAction ↔
      initial.isRevised = true ∨ s.remaining = 0 ∨ t.text = q.text := by
  by_cases hidle : initial.isRevised = true ∨ s.remaining = 0
  · -- nothing is looked up
    rw [plan_indexLookup_run_idle hidle, ← or_assoc]
    simp only [hidle, true_or]
  · rw [not_or] at hidle
    have hunrevised : initial.isRevised = false := Bool.eq_false_iff.mpr hidle.1
    have hallowed : 1 ≤ s.remaining := Nat.pos_of_ne_zero hidle.2
    -- the index is asked, and only the text of its answer is looked at
    by_cases htyped : t.text = q.text
    · have hvain : ∀ t', b.lookup s.calls q.freeText = .ok (some t') → t'.text = q.text := by
        intro t' ht'
        rw [hanswer, Except.ok.injEq, Option.some.injEq] at ht'
        rw [← ht']
        exact htyped
      rw [plan_indexLookup_run_in_vain hunrevised hallowed hvain]
      simp only [htyped, or_true]
    · obtain ⟨hstatus, -⟩ := acted_of_lookup settings hunrevised hallowed hanswer htyped
      have hacts : ¬ (((indexLookup settings q.text q.freeText).plan initial s.toBudget).run b
          s).1 = .noAction := by
        intro hno
        rw [hno] at hstatus
        contradiction
      simp only [hacts, hunrevised, hidle.2, htyped, Bool.false_eq_true, or_self]

end Lookup

/-! ## A blank in front of a query -/

section Blank

open Query

variable {registry : Registry} {options : QueryOptions} {q q' : Query}

theorem nodeText?_shift (n : Nat) (node : Node) : nodeText? (node.shift n) = nodeText? node := by
  cases node <;> rw [Node.shift] <;> rfl

/-- The free text of a query does not depend on where its clauses stand. -/
theorem freeText_of_shift {n : Nat} (h : q'.clauses = q.clauses.map (Clause.shift n)) :
    q'.freeText = q.freeText := by
  -- which clauses count and what they say are both told without their places
  have hoccur : ((·.occur ≠ .mustNot : Clause Node → Bool)) ∘ Clause.shift n =
      (·.occur ≠ .mustNot : Clause Node → Bool) := by
    funext c
    cases c
    rw [Function.comp_apply, Clause.shift]
  have htext : (nodeText? ·.node) ∘ Clause.shift n = (nodeText? ·.node) := by
    funext c
    cases c
    rw [Function.comp_apply, Clause.shift, nodeText?_shift]
  rw [freeText, freeText, h, List.filter_map, List.filterMap_map, hoccur, htext]

/-- A blank in front of a query moves its clauses by one place, and so leaves its free text. -/
theorem freeText_of_blank (h : parse registry options q.text = .ok q)
    (h' : parse registry options (" " ++ q.text) = .ok q') : q'.freeText = q.freeText := by
  have hblank : Text.isBlank ' ' = true := by decide
  -- the blank in front moves all tokens by one character
  have hscan : Token.scan 0 true (" " ++ q.text).toList =
      (Token.scan 0 true q.text.toList).map (Token.shift 1) := by
    rw [String.toList_append, ← Token.scan_shift 1 0]
    exact Token.scan_blank hblank 0 true q.text.toList
  refine freeText_of_shift (n := 1) ?_
  rw [clauses_of_parse h, clauses_of_parse h', hscan, List.map_map, List.map_map]
  refine List.map_congr_left fun t _ => ?_
  exact congrArg Prod.fst (tokenClause_shift registry options 1 t)

end Blank

/-! ## All look-ups -/

/-- The method for the index is built if it is enabled and there is text to look up. -/
theorem indexLookup?_eq_some_iff {settings : IndexLookupSettings} {q : Query} {m : Method} :
    indexLookup? settings q = some m ↔ (settings.enabled && q.hasCandidateTerms) = true ∧
      m = indexLookup settings q.text q.freeText := by
  rw [indexLookup?, Option.ite_none_right_eq_some, Option.some.injEq, @eq_comm _ m]

/-- **When all echoes are ignored**: for a query that is typed as it is looked up, or that has
nothing to look up. -/
theorem ignoresEcho_iff_freeText_eq (q : Query) :
    IgnoresEcho q ↔ (q.hasCandidateTerms = true → q.freeText = q.text) := by
  constructor
  · intro hignores hterms
    -- an index that answers all look-ups with what was looked up
    have hnoAction := hignores ⟨true, false⟩ _ (indexLookup?_eq_some_iff.mpr ⟨hterms, rfl⟩)
      ⟨fun _ _ => .ok {}, fun _ key => .ok (some ⟨key, ""⟩)⟩ {} (.start 1) "" rfl
    rcases (status_eq_noAction_iff _ rfl).mp hnoAction with hrevised | hspent | htyped
    · exact absurd hrevised (by decide)
    · exact absurd hspent (by decide)
    · exact htyped
  · intro htyped settings m hm b initial s snippet hecho
    obtain ⟨hbuilt, rfl⟩ := indexLookup?_eq_some_iff.mp hm
    rw [Bool.and_eq_true] at hbuilt
    exact (status_eq_noAction_iff settings hecho).mpr (.inr (.inr (htyped hbuilt.2)))

/-- **An answer that is the query as typed is ignored**, and apart from that only those of which
nothing comes anyway, on revised results or with the budget used up. Of any other answer becomes
what becomes of every suggestion: it is shown, or run in place of the query. So all echoes are
ignored exactly for the queries that are typed as they are looked up, and for those without text to
look up. That is not a matter of what a query says: a blank in front of it changes nothing about
the text that is looked up, so echoes are not ignored both with the blank and without. -/
theorem answer_ignored_iff (q : Query) :
    (∀ settings m, indexLookup? settings q = some m → ∀ b initial s t,
      b.lookup s.calls q.freeText = .ok (some t) →
      let status := ((m.plan initial s.toBudget).run b s).1
      (t.text = q.text → status = .noAction) ∧
      (status = .noAction ↔ initial.isRevised = true ∨ s.remaining = 0 ∨ t.text = q.text) ∧
      (status ≠ .noAction →
        ∃ calls, Acted b (s.calls ++ [.lookup q.freeText]) initial t
          (settings.mayReplace = true ∧ initial.totalHits = 0 ∧ 2 ≤ s.remaining)
          (status.apply initial) status.action calls)) ∧
    (IgnoresEcho q ↔ (q.hasCandidateTerms = true → q.freeText = q.text)) ∧
    ∀ registry options q', Query.parse registry options q.text = .ok q →
      Query.parse registry options (" " ++ q.text) = .ok q' → q.hasCandidateTerms = true →
      ¬ (IgnoresEcho q ∧ IgnoresEcho q') := by
  refine ⟨?_, ignoresEcho_iff_freeText_eq q, ?_⟩
  · intro settings m hm b initial s t hanswer status
    obtain ⟨-, rfl⟩ := indexLookup?_eq_some_iff.mp hm
    have hiff : status = .noAction ↔
        initial.isRevised = true ∨ s.remaining = 0 ∨ t.text = q.text :=
      status_eq_noAction_iff settings hanswer
    refine ⟨fun htyped => hiff.mpr (.inr (.inr htyped)), hiff, fun hacts => ?_⟩
    rw [Ne, hiff, not_or, not_or] at hacts
    obtain ⟨hunrevised, hleft, hdiffers⟩ := hacts
    exact (acted_of_lookup settings (Bool.eq_false_iff.mpr hunrevised) (Nat.pos_of_ne_zero hleft)
      hanswer hdiffers).2
  · rintro registry options q' hparse hparse' hterms ⟨hignores, hignores'⟩
    have hfree := freeText_of_blank hparse hparse'
    have hterms' : q'.hasCandidateTerms = true := by
      rw [Query.hasCandidateTerms, hfree]
      exact hterms
    have htext' : q'.text = " " ++ q.text := by
      rw [(Query.parse_eq_ok_iff.mp hparse').2.2]
      rfl
    -- one text would be typed with a blank in front and without
    have htyped := (ignoresEcho_iff_freeText_eq q).mp hignores hterms
    have htyped' := (ignoresEcho_iff_freeText_eq q').mp hignores' hterms'
    rw [hfree, htyped, htext'] at htyped'
    have hlength := congrArg String.length htyped'
    rw [String.length_append] at hlength
    exact absurd hlength (by simp)

/-- The index is asked for a word and answers with the word and the blank that was typed in front of
it. The call is made, and nothing comes of it. -/
theorem answer_ignored_of_typed :
    let q : Query := ⟨" catz", [⟨.must, false, .word "catz" ⟨1, 5⟩, ⟨1, 5⟩⟩], []⟩
    let m := indexLookup ⟨true, true⟩ " catz" "catz"
    let index : Backend := ⟨fun _ _ => .ok {}, fun _ _ => .ok (some ⟨" catz", "catz"⟩)⟩
    indexLookup? ⟨true, true⟩ q = some m ∧ q.freeText = "catz" ∧
      (m.plan {} ⟨1, 0⟩).run index (.start 1) = (.noAction, ⟨⟨0, 1⟩, [.lookup "catz"]⟩) := by
  intro q m index
  have hkey : q.freeText = "catz" := by decide +kernel
  have hm : indexLookup? ⟨true, true⟩ q = some m :=
    indexLookup?_eq_some_iff.mpr ⟨by decide +kernel, by rw [hkey]⟩
  -- the answer is the query as typed, though not the text that was looked up
  have hignored : ((m.plan {} ⟨1, 0⟩).run index (.start 1)).1 = .noAction :=
    ((answer_ignored_iff q).1 ⟨true, true⟩ m hm index {} (.start 1) ⟨" catz", "catz"⟩ rfl).1 rfl
  refine ⟨hm, hkey, Prod.ext hignored ?_⟩
  rfl

/-- With a blank in front of it, a word that the index knows as a good query is proposed in its own
place. -/
theorem exists_echo_proposed :
    ∃ q m, Query.parse (.builtin {}) {} " catz" = .ok q ∧ q.freeText = "catz" ∧
      indexLookup? { enabled := true } q = some m ∧
      (let index : Backend := ⟨fun _ _ => .ok {}, fun _ key => .ok (some ⟨key, key⟩)⟩
      (m.plan {} ⟨1, 0⟩).run index (.start 1) =
        (.suggest ⟨"catz", "catz"⟩, ⟨⟨0, 1⟩, [.lookup "catz"]⟩)) ∧
      ¬ IgnoresEcho q := by
  have hscan : Token.scan 0 true " catz".toList = [⟨.word "catz", none, ⟨1, 5⟩, 1⟩] := by
    decide +kernel
  obtain ⟨q, hparse, htext, hfree⟩ : ∃ q, Query.parse (.builtin {}) {} " catz" = .ok q ∧
      q.text = " catz" ∧ q.freeText = "catz" := by
    refine ⟨_, Query.parse_of_length_le _ _ _ (by decide), rfl, ?_⟩
    rw [hscan]
    rfl
  have hterms : q.hasCandidateTerms = true := by
    rw [Query.hasCandidateTerms, hfree]
    rfl
  refine ⟨q, _, hparse, hfree, indexLookup?_eq_some_iff.mpr ⟨hterms, rfl⟩, ?_, fun hignores => ?_⟩
  · rw [htext, hfree]
    rfl
  · -- the word is not what was typed
    have htyped := (ignoresEcho_iff_freeText_eq q).mp hignores hterms
    rw [hfree, htext] at htyped
    exact absurd htyped (by decide)

end WikiSearch.Fallback
