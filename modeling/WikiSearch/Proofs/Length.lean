import Mathlib.Data.Finset.Card
import Mathlib.Order.Interval.Finset.Nat
import WikiSearch.Proofs.Layout

/-!
# WikiSearch — the length limits

A query is refused for its length alone. The hard limit counts all characters; the
soft limit counts those that lie in no exempt candidate. The reader computes the
second number by a subtraction of span lengths. Since the spans of the tokens are
apart and inside the text, that difference is never cut off at zero, and it is the
number of characters that count.

Main results:

* `card_counted` — the characters that count, as a difference of lengths.
* `parse_error_iff` — exactly which queries are refused, and with which numbers.
* `exempt_bound_iff` — when the text outside of exempt directives keeps to the soft
  limit, and which queries exceed it.
-/

namespace WikiSearch

open Text

/-! ## Counting the offsets of a list of spans -/

/-- A span inside a text holds as many of its offsets as it is long. -/
theorem Span.card_filter_mem {s : Span} {n : Nat} (h : s.stop ≤ n) :
    ((Finset.range n).filter (· ∈ s)).card = s.length := by
  have hIco : (Finset.range n).filter (· ∈ s) = Finset.Ico s.start s.stop := by
    ext i
    simp only [Finset.mem_filter, Finset.mem_range, Finset.mem_Ico, Span.mem_iff]
    omega
  rw [hIco, Nat.card_Ico, Span.length]

/-- Spans that are apart hold as many offsets as they are long together. -/
theorem card_filter_exists_mem {spans : List Span} {n : Nat}
    (hapart : spans.Pairwise fun s t => s.stop ≤ t.start) (hinside : ∀ s ∈ spans, s.stop ≤ n) :
    ((Finset.range n).filter fun i => ∃ s ∈ spans, i ∈ s).card = (spans.map (·.length)).sum := by
  induction spans with
  | nil => simp
  | cons s spans ih =>
    obtain ⟨hs, hrest⟩ := List.pairwise_cons.mp hapart
    -- the later spans start where this one has ended
    have hdisjoint : Disjoint ((Finset.range n).filter (· ∈ s))
        ((Finset.range n).filter fun i => ∃ t ∈ spans, i ∈ t) := by
      rw [Finset.disjoint_filter]
      rintro i - his ⟨t, ht, hit⟩
      have hle := hs t ht
      rw [Span.mem_iff] at his hit
      omega
    have hunion : ((Finset.range n).filter fun i => ∃ t ∈ s :: spans, i ∈ t) =
        (Finset.range n).filter (· ∈ s) ∪ (Finset.range n).filter fun i => ∃ t ∈ spans, i ∈ t := by
      rw [← Finset.filter_or]
      simp only [List.mem_cons, exists_eq_or_imp]
    rw [hunion, Finset.card_union_of_disjoint hdisjoint,
      Span.card_filter_mem (hinside s (List.mem_cons_self ..)),
      ih hrest fun t ht => hinside t (List.mem_cons_of_mem _ ht), List.map_cons, List.sum_cons]

/-! ## The characters that count -/

namespace Token

/-- The offsets of a text of `n` characters that lie in no exempt candidate. -/
def counted (options : QueryOptions) (n : Nat) (tokens : List Token) : Finset Nat :=
  (Finset.range n).filter fun i => ∀ t ∈ tokens, t.isExempt options = true → i ∉ t.span

section Scan

variable (options : QueryOptions) (cs : List Char)

/-- Some of the tokens of a text hold as many of its offsets as they are long. -/
theorem card_filter_scan (p : Token → Bool) :
    ((Finset.range cs.length).filter fun i => ∃ t ∈ scan 0 true cs, p t = true ∧ i ∈ t.span).card
      = (((scan 0 true cs).filter p).map (·.span.length)).sum := by
  have htiling := scan_tiling 0 true cs
  have hsub : (((scan 0 true cs).filter p).map (·.span)).Sublist ((scan 0 true cs).map (·.span)) :=
    List.filter_sublist.map _
  have hinside : ∀ s ∈ ((scan 0 true cs).filter p).map (·.span), s.stop ≤ cs.length := by
    intro s hs
    have hle := (htiling.bounds s (hsub.subset hs)).2.2
    omega
  have hcard := card_filter_exists_mem (htiling.ordered.sublist hsub) hinside
  rw [List.map_map] at hcard
  rw [show (fun t : Token => t.span.length) = (·.length) ∘ (·.span) from rfl, ← hcard]
  refine congrArg Finset.card (Finset.filter_congr fun i _ => ?_)
  -- tokens and their spans hold the same offsets
  constructor
  · rintro ⟨t, ht, hp, hi⟩
    exact ⟨t.span, List.mem_map_of_mem (List.mem_filter.mpr ⟨ht, hp⟩), hi⟩
  · rintro ⟨s, hs, hi⟩
    obtain ⟨t, ht, rfl⟩ := List.mem_map.mp hs
    obtain ⟨ht, hp⟩ := List.mem_filter.mp ht
    exact ⟨t, ht, hp, hi⟩

/-- **The characters that count.** What is left of the length when the exempt
candidates are taken off is the number of characters outside of them. -/
theorem card_counted :
    exemptTotal options (scan 0 true cs) + (counted options cs.length (scan 0 true cs)).card
      = cs.length := by
  have hsplit := Finset.card_filter_add_card_filter_not (s := Finset.range cs.length)
    (p := fun i => ∃ t ∈ scan 0 true cs, t.isExempt options = true ∧ i ∈ t.span)
  rw [card_filter_scan cs (·.isExempt options), Finset.card_range] at hsplit
  simp only [not_exists, not_and] at hsplit
  exact hsplit

end Scan

end Token

/-! ## Which queries are refused -/

namespace Query

/-- **The length limits.** Let a text have `n` characters, let `limit` be the soft limit
as it is applied, and let the exempt candidates take up `exempt` characters, which is
never more than there are. The text is refused if it is above the hard limit, with its
length; or else if both its length and what the exempt candidates leave of it are
above the soft limit, with the number of characters outside of exempt candidates. No
other text is refused. -/
theorem parse_error_iff (registry : Registry) (options : QueryOptions) (text : String) :
    let n := text.toList.length
    let limit := options.effectiveLimit
    let tokens := Token.scan 0 true text.toList
    let exempt := Token.exemptTotal options tokens
    ((∃ e, parse registry options text = .error e) ↔
      n > 2048 ∨ (n > limit ∧ n - exempt > limit)) ∧
    (∀ e, parse registry options text = .error e ↔
      (n > 2048 ∧ e = ⟨n, 2048, false⟩) ∨
      (n ≤ 2048 ∧ n > limit ∧ n - exempt > limit ∧
        e = ⟨n - exempt, limit, decide (exempt > 0)⟩)) ∧
    exempt ≤ n ∧ n - exempt = (Token.counted options n tokens).card := by
  intro n limit tokens exempt
  -- the difference of lengths is exact, so `omega` can work with it
  have hcounted : exempt + (Token.counted options n tokens).card = n :=
    Token.card_counted options text.toList
  have herror : ∀ e, parse registry options text = .error e ↔
      (n > 2048 ∧ e = ⟨n, 2048, false⟩) ∨
      (n ≤ 2048 ∧ n > limit ∧ n - exempt > limit ∧
        e = ⟨n - exempt, limit, decide (exempt > 0)⟩) := fun e => parse_eq_error_iff
  refine ⟨?_, herror, by omega, by omega⟩
  constructor
  · rintro ⟨e, he⟩
    rcases (herror e).mp he with ⟨hlong, -⟩ | ⟨-, hlong, hrest, -⟩
    · exact .inl hlong
    · exact .inr ⟨hlong, hrest⟩
  · intro hlong
    by_cases hhard : n > 2048
    · exact ⟨_, (herror _).mpr (.inl ⟨hhard, rfl⟩)⟩
    · have hsoft := hlong.resolve_left hhard
      exact ⟨_, (herror _).mpr (.inr ⟨by omega, hsoft.1, hsoft.2, rfl⟩)⟩

/-! ## What exemptions let through -/

/-- Whether a clause is a directive whose keyword is exempt. -/
def isExemptDirective (options : QueryOptions) (c : Clause Node) : Bool :=
  match c.node with
  | .directive d _ => options.isExempt d.key
  | _ => false

/-- The length of the clauses that are directives of exempt keywords, signs included. -/
def exemptTotal (options : QueryOptions) (q : Query) : Nat :=
  ((q.clauses.filter (isExemptDirective options)).map (·.span.length)).sum

end Query

namespace Token

/-- Whether a token is a candidate that becomes a directive. -/
def isRecognized (registry : Registry) (t : Token) : Bool :=
  match t.content with
  | .keyword c => registry.recognizes c
  | _ => false

/-- The length of the exempt candidates that become plain words, signs included. -/
def degradedTotal (registry : Registry) (options : QueryOptions) (tokens : List Token) : Nat :=
  ((tokens.filter fun t => t.isExempt options && !t.isRecognized registry).map
    (·.span.length)).sum

end Token

namespace Query

section Exemptions

variable (registry : Registry) (options : QueryOptions)

/-- The exempt directives of a query are the exempt candidates that are recognized. -/
theorem isExemptDirective_tokenClause (t : Token) :
    isExemptDirective options (tokenClause registry options t).1 =
      (t.isExempt options && t.isRecognized registry) := by
  rw [isExemptDirective, node_tokenClause, tokenNode, Token.isExempt, Token.isRecognized]
  cases t.content with
  | word text => rfl
  | phrase p => rfl
  | keyword c =>
    simp only
    -- a candidate that is not recognized leaves a word, which is exempt from nothing
    cases hc : registry.recognizes c with
    | false => rw [resolve_of_not_recognizes hc, Bool.and_false]
    | true =>
      obtain ⟨parsed, hparsed⟩ :=
        resolve_of_recognizes hc ((t.occur options).1 = .mustNot) ⟨t.textStart, t.span.stop⟩
      rw [hparsed, Bool.and_true]

/-- An exempt candidate becomes an exempt directive, or it is degraded. -/
theorem exemptTotal_eq_add (text : String) (tokens : List Token) :
    Token.exemptTotal options tokens =
      (ofTokens registry options text tokens).exemptTotal options +
        Token.degradedTotal registry options tokens := by
  simp only [Token.exemptTotal, exemptTotal, ofTokens, Token.degradedTotal]
  induction tokens with
  | nil => rfl
  | cons t tokens ih =>
    have ht := isExemptDirective_tokenClause registry options t
    simp only [List.map_cons, List.filter_cons]
    rw [ht]
    -- an exempt token is a directive or was degraded, and adds its length on that side
    cases t.isExempt options <;> cases t.isRecognized registry <;>
      simp only [Bool.and_true, Bool.and_false, Bool.not_true, Bool.not_false, Bool.false_eq_true,
        if_true, if_false, List.map_cons, List.sum_cons, span_tokenClause] <;> omega

/-- A query that is read although the text outside of its exempt directives is above the
soft limit: the text degraded from exempt candidates brings it there. -/
theorem exists_exceeding_iff (text : String) :
    let n := text.toList.length
    let tokens := Token.scan 0 true text.toList
    let rest := n - Token.exemptTotal options tokens
    (∃ q, parse registry options text = .ok q ∧
      n - q.exemptTotal options > options.effectiveLimit) ↔
    n ≤ 2048 ∧ rest ≤ options.effectiveLimit ∧
      rest + Token.degradedTotal registry options tokens > options.effectiveLimit := by
  intro n tokens rest
  have hcounted : Token.exemptTotal options tokens + (Token.counted options n tokens).card = n :=
    Token.card_counted options text.toList
  have hadd : Token.exemptTotal options tokens =
      (ofTokens registry options text tokens).exemptTotal options +
        Token.degradedTotal registry options tokens :=
    exemptTotal_eq_add registry options text tokens
  have hok : ∀ q, parse registry options text = .ok q ↔
      n ≤ 2048 ∧ (n ≤ options.effectiveLimit ∨ rest ≤ options.effectiveLimit) ∧
        q = ofTokens registry options text tokens := fun q => parse_eq_ok_iff
  -- what was read was within the limit without the exempt candidates, some of which became words
  constructor
  · rintro ⟨q, hparse, hlong⟩
    obtain ⟨hhard, hsoft, rfl⟩ := (hok q).mp hparse
    exact ⟨hhard, by omega, by omega⟩
  · rintro ⟨hhard, hsoft, hlong⟩
    exact ⟨_, (hok _).mpr ⟨hhard, .inr hsoft, rfl⟩, by omega⟩

/-- One exempt candidate that is degraded is enough: behind blanks that fill the query
up to the soft limit it is let through. -/
theorem exists_exceeding_of_degraded {cs : List Char} {t : Token} (hcs : cs.length ≤ 2048)
    (ht : t ∈ Token.scan 0 true cs) (hexempt : t.isExempt options = true)
    (hdegraded : t.isRecognized registry = false) (hlimit : options.effectiveLimit < 2048) :
    ∃ text q, parse registry options text = .ok q ∧
      text.toList.length - q.exemptTotal options > options.effectiveLimit := by
  obtain ⟨c, hc⟩ : ∃ c, t.content = .keyword c := by
    rw [Token.isExempt] at hexempt
    cases hcontent : t.content with
    | word text => simp [hcontent] at hexempt
    | phrase p => simp [hcontent] at hexempt
    | keyword c => exact ⟨c, rfl⟩
  obtain ⟨source, hlength, hscan⟩ := Token.exists_source_of_candidate ht hc
  have hbounds := (Token.scan_tiling 0 true cs).bounds t.span (List.mem_map_of_mem ht)
  rw [Span.length] at hlength
  -- as many blanks as it takes to be one character above the limit
  set k := options.effectiveLimit + 1 - source.length with hk
  refine ⟨String.ofList (List.replicate k ' ' ++ source),
    (exists_exceeding_iff registry options _).mpr ?_⟩
  have hkey : options.isExempt c.key = true := by rwa [Token.isExempt, hc] at hexempt
  have hword : registry.recognizes c = false := by rwa [Token.isRecognized, hc] at hdegraded
  simp only [String.toList_ofList, Token.scan_replicate_blank, hscan, Token.exemptTotal,
    Token.degradedTotal, Token.isExempt, Token.isRecognized, hkey, hword, List.filter_cons,
    List.filter_nil, Bool.not_false, Bool.and_true, if_true, List.map_cons, List.map_nil,
    List.sum_cons, List.sum_nil, Span.length, List.length_append, List.length_replicate]
  omega

/-- **What exemptions let through.** The exemption of a keyword is granted to whatever looks
like one of its directives, before it is known what becomes of it. So the text outside
of the exempt directives of a query that is read stays within the soft limit only if
no exempt candidate is degraded to a word, or if the hard limit is all there is; and a
single query exceeds it exactly if what was degraded does not fit beside the rest. -/
theorem exempt_bound_iff :
    ((∀ text q, parse registry options text = .ok q →
        text.toList.length - q.exemptTotal options ≤ options.effectiveLimit) ↔
      options.effectiveLimit = 2048 ∨
      ∀ cs : List Char, cs.length ≤ 2048 → ∀ t ∈ Token.scan 0 true cs,
        t.isExempt options = true → t.isRecognized registry = true) ∧
    ∀ text : String,
      let n := text.toList.length
      let tokens := Token.scan 0 true text.toList
      let rest := n - Token.exemptTotal options tokens
      (∃ q, parse registry options text = .ok q ∧
        n - q.exemptTotal options > options.effectiveLimit) ↔
      n ≤ 2048 ∧ rest ≤ options.effectiveLimit ∧
        rest + Token.degradedTotal registry options tokens > options.effectiveLimit := by
  refine ⟨⟨?_, ?_⟩, fun text => exists_exceeding_iff registry options text⟩
  · -- a candidate that is degraded can be put where it exceeds the limit
    intro hbound
    by_contra! hgap
    obtain ⟨hlimit, cs, hcs, t, ht, hexempt, hdegraded⟩ := hgap
    have hle : options.effectiveLimit ≤ 2048 := effectiveLimit_le options
    obtain ⟨text, q, hparse, hlong⟩ := exists_exceeding_of_degraded registry options hcs ht
      hexempt (by simpa using hdegraded) (by omega)
    have := hbound text q hparse
    omega
  · -- what exceeds the limit was degraded, and nothing is
    intro hsafe text q hparse
    by_contra! hlong
    obtain ⟨hhard, hrest, hsum⟩ :=
      (exists_exceeding_iff registry options text).mp ⟨q, hparse, hlong⟩
    rcases hsafe with hlimit | hsafe
    · omega
    · have hnone : (Token.scan 0 true text.toList).filter
          (fun t => t.isExempt options && !t.isRecognized registry) = [] := by
        rw [List.filter_eq_nil_iff]
        intro t ht hgap
        rw [Bool.and_eq_true, Bool.not_eq_true'] at hgap
        rw [hsafe text.toList hhard t ht hgap.1] at hgap
        exact absurd hgap.2 (by decide)
      rw [Token.degradedTotal, hnone, List.map_nil, List.sum_nil] at hsum
      omega

end Exemptions

/-- Without the feature of an exempt keyword, a plain word of 16 characters passes a limit
of ten. -/
theorem exists_exceeding_without_pageid :
    let options : QueryOptions := { maxLength := some 10 }
    ∃ registry, Registry.build [.builtins {}, .retain (!·.answersTo "pageid")] = .ok registry ∧
      ∃ q, parse registry options "pageid:1|2|3|4|5" = .ok q ∧
        "pageid:1|2|3|4|5".toList.length - q.exemptTotal options > options.effectiveLimit := by
  refine ⟨_, rfl, (exists_exceeding_iff _ _ _).mpr ?_⟩
  decide +kernel

end Query
end WikiSearch
