import WikiSearch.Proofs.Token.Cursor

/-!
# WikiSearch — reading tokens is safe and comes to an end

A reader that is asked for one token after another goes on for as long as it is given one. That it
stops has to come from the tokens: each of them moves the position on, and behind the last one the
reader says that there is none. That it may go on has to come from the positions: wherever it is
asked again, it still stands in the text.

Both are read off what a single call does (`next_cases`), which holds at any offset of the text
and not only at those that are reached. What a whole run does follows by induction: the calls keep
to the rules for tokens, and there is one list of tokens that does. So the reader by offsets
is the reader of lists, without a fault.

Main results:

* `next_cases` — what a call for the next token does, with `Step` for one that takes a token.
* `tokens_eq` — the tokens of a text, by offsets.
* `Reached.tokensFrom_eq` — what was taken in front of a position that is reached, and what will
  be taken behind it, make up the tokens of the text.
* `Tiling.length_le` — no more tokens than characters that are not blank.
* `tokens_without_fault` — all of it, for every text.
-/

namespace WikiSearch

open Text

/-! ## One call -/

/-- Blanks make no difference to what the rules say about the text behind them. -/
theorem Tokenization.blanks_iff {full blanks rest : List Char} {pos : Nat} {ts : List Token}
    (hblanks : ∀ c ∈ blanks, isBlank c = true) (h : full.drop pos = blanks ++ rest) :
    Tokenization full pos ts ↔ Tokenization full (pos + blanks.length) ts := by
  induction blanks generalizing pos with
  | nil => rfl
  | cons b blanks ih =>
    rw [List.forall_mem_cons] at hblanks
    rw [Tokenization.blank_iff h hblanks.1, ih hblanks.2 (Cursor.drop_succ h), List.length_cons,
      Nat.add_assoc, Nat.add_comm 1]

namespace Cursor

variable {cs : List Char} {i j : Nat} {t : Token} {ts : List Token}

/-- A call at offset `i` that takes the token `t` and stops at `j`. -/
structure Step (cs : List Char) (i : Nat) (t : Token) (j : Nat) : Prop where
  /-- The text of the token does not start in front of the position. -/
  le_textStart : i ≤ t.textStart
  textStart_lt : t.textStart < j
  /-- The reader does not leave the text. -/
  stop_le : j ≤ cs.length
  /-- By the rules the token stands in front of all that is found behind it. -/
  tokenization {ts : List Token} : Tokenization cs j ts → Tokenization cs i (t :: ts)

/-- **What a call does.** Either only blanks are left, and the reader moves to the end of the text;
or it takes a token that stands behind its position, and moves to where that token ends. -/
theorem next_cases (hle : i ≤ cs.length) :
    (next cs i = .ok (none, cs.length) ∧ Tokenization cs i []) ∨
      ∃ t j, next cs i = .ok (some t, j) ∧ Step cs i t j := by
  obtain ⟨blanks, rest, hdrop, hrun⟩ := exists_run isBlank (cs.drop i)
  have hlength := congrArg List.length hdrop
  rw [List.length_drop, List.length_append] at hlength
  -- what is behind the blanks decides
  cases rest with
  | nil =>
    rw [List.length_nil] at hlength
    have hend : i + blanks.length = cs.length := by omega
    left
    constructor
    · rw [next_of_nil hrun (by rw [hdrop, List.append_nil]), hend]
    · rw [Tokenization.blanks_iff hrun.all hdrop, Tokenization.nil_iff (drop_add hdrop)]
  | cons c rest =>
    have hstart := drop_add hdrop
    have hblank : isBlank c = false := hrun.stops c rfl
    obtain ⟨boundary, hboundary, hnext⟩ := next_of_cons hrun hdrop
    have hbounds := Token.bounds_first boundary hstart hblank
    have hsource := readSigned_source_ne_nil boundary rest hblank
    -- the bounds of a token are those of the first one of the text behind the blanks
    refine .inr ⟨_, _, hnext, ?_, ?_, hbounds.2, fun hts => ?_⟩
    · show i ≤ i + blanks.length + _
      omega
    · -- whatever stands behind the sign, it is not empty
      exact Nat.lt_add_of_pos_right (List.length_pos_iff.mpr hsource)
    · rw [Tokenization.blanks_iff hrun.all hdrop, Tokenization.cons_iff hstart hblank hboundary]
      exact ⟨_, rfl, hts⟩

theorem step_of_next (hle : i ≤ cs.length) (h : next cs i = .ok (some t, j)) :
    Step cs i t j := by
  -- of the two things that a call can do, it did the one that takes a token
  rcases next_cases hle with ⟨hnone, -⟩ | ⟨u, k, hsome, hstep⟩
  · rw [hnone] at h
    cases h
  · rw [hsome] at h
    cases h
    exact hstep

/-- Behind the end of the text there is no token. -/
theorem le_of_next (h : next cs i = .ok (some t, j)) : i ≤ cs.length := by
  by_contra hgt
  have hnil : cs.drop i = [] := List.drop_eq_nil_of_le (by omega)
  rw [next_of_nil ⟨by simp, by simp⟩ hnil] at h
  cases h

/-- **Progress.** A call that takes a token leaves less of the text. -/
theorem length_sub_lt_of_next (h : next cs i = .ok (some t, j)) :
    cs.length - j < cs.length - i := by
  have hstep := step_of_next (le_of_next h) h
  have hlt := Nat.lt_of_le_of_lt hstep.le_textStart hstep.textStart_lt
  have hstop := hstep.stop_le
  omega

/-! ## All calls -/

/-- The tokens from an offset on: the reader asks for the next one until there is none. -/
def tokensFrom (cs : List Char) (i : Nat) : Except Fault (List Token) :=
  match _h : next cs i with
  | .error fault => .error fault
  | .ok (none, _) => .ok []
  | .ok (some t, j) => do
    let ts ← tokensFrom cs j
    return t :: ts
termination_by cs.length - i
decreasing_by exact length_sub_lt_of_next _h

/-- The tokens of a text. -/
def tokens (cs : List Char) : Except Fault (List Token) := tokensFrom cs 0

theorem tokensFrom_of_some (h : next cs i = .ok (some t, j)) :
    tokensFrom cs i = (tokensFrom cs j >>= fun ts => .ok (t :: ts)) := by
  rw [tokensFrom.eq_def]
  split
  · rename_i fault hfault
    rw [h] at hfault
    cases hfault
  · rename_i k hnone
    rw [h] at hnone
    cases hnone
  · rename_i u k hsome
    rw [h] at hsome
    cases hsome
    rfl

/-- A run from an offset of the text ends without a fault, and its tokens keep to the rules. -/
theorem exists_tokensFrom (hle : i ≤ cs.length) :
    ∃ ts, tokensFrom cs i = .ok ts ∧ Tokenization cs i ts := by
  fun_induction tokensFrom cs i with
  | case1 i fault h =>
    -- no call of the reader has a fault
    rcases next_cases hle with ⟨hnone, -⟩ | ⟨t, j, hsome, -⟩
    · rw [hnone] at h
      cases h
    · rw [hsome] at h
      cases h
  | case2 i j h =>
    rcases next_cases hle with ⟨-, hrules⟩ | ⟨t, k, hsome, -⟩
    · exact ⟨[], rfl, hrules⟩
    · rw [hsome] at h
      cases h
  | case3 i t j h ih =>
    -- the call leaves a position in the text, from which the run goes on
    have hstep := step_of_next hle h
    obtain ⟨ts, hts, hrules⟩ := ih hstep.stop_le
    refine ⟨t :: ts, ?_, hstep.tokenization hrules⟩
    rw [hts]
    rfl

/-- The rules leave no choice, so the tokens are those that the reader of lists finds. -/
theorem tokens_eq (cs : List Char) : tokens cs = .ok (Token.scan 0 true cs) := by
  obtain ⟨ts, hts, hrules⟩ := exists_tokensFrom (Nat.zero_le cs.length)
  rw [tokens, hts, (tokenization_start_iff cs ts).mp hrules]

/-! ## The states of a run -/

/-- The reader has taken some tokens and stands at an offset. -/
inductive Reached (cs : List Char) : List Token → Nat → Prop where
  | start : Reached cs [] 0
  | next {ts : List Token} {t : Token} {i j : Nat} : Reached cs ts i →
      Cursor.next cs i = .ok (some t, j) → Reached cs (ts ++ [t]) j

namespace Reached

/-- The reader does not leave the text. -/
theorem position_le (h : Reached cs ts i) : i ≤ cs.length := by
  induction h with
  | start => exact Nat.zero_le _
  | next _ hnext ih => exact (step_of_next ih hnext).stop_le

/-- What has been taken and what will be taken make up the tokens of the text. -/
theorem tokensFrom_eq (h : Reached cs ts i) :
    ∃ more, tokensFrom cs i = .ok more ∧ ts ++ more = Token.scan 0 true cs := by
  induction h with
  | start => exact ⟨_, tokens_eq cs, rfl⟩
  | @next ts t i j hreached hnext ih =>
    -- what was to come before this call has the token of the call in front
    obtain ⟨all, hall, hts⟩ := ih
    obtain ⟨more, hmore, -⟩ := exists_tokensFrom (hreached.next hnext).position_le
    rw [tokensFrom_of_some hnext, hmore, ok_bind] at hall
    cases hall
    refine ⟨more, hmore, ?_⟩
    rw [List.append_assoc, List.singleton_append, hts]

end Reached

end Cursor

/-! ## Numbers of tokens -/

/-- Every span starts with a character of its own that is not blank. -/
theorem Tiling.length_le {pos : Nat} {cs : List Char} {spans : List Span}
    (h : Tiling pos cs spans) : spans.length ≤ cs.countP (fun c => !isBlank c) := by
  induction h with
  | done => exact Nat.le_refl _
  | blank hc _ ih => rwa [List.countP_cons_of_neg (by simp [hc])]
  | take hc _ ih =>
    rw [List.cons_append, List.countP_cons_of_pos (by simp [hc]), List.countP_append,
      List.length_cons]
    omega

theorem Token.length_scan_le (cs : List Char) :
    (Token.scan 0 true cs).length ≤ cs.countP (fun c => !isBlank c) := by
  have h := (Token.scan_tiling 0 true cs).length_le
  rwa [List.length_map] at h

/-! ## Main result -/

namespace Cursor

/-- What can be relied on in a state of a run. -/
structure Secure (cs : List Char) (ts : List Token) (i : Nat) : Prop where
  /-- The position is in the text, or at its end. -/
  position_le : i ≤ cs.length
  /-- The next call has no fault. It moves to the end of the text, or takes a token and moves
  beyond the offset where the text of that token starts. -/
  next : Cursor.next cs i = .ok (none, cs.length) ∨
    ∃ t j, Cursor.next cs i = .ok (some t, j) ∧ i ≤ t.textStart ∧ t.textStart < j ∧
      j ≤ cs.length
  /-- No more tokens have been taken than there are characters that are not blank. -/
  length_le : ts.length ≤ cs.countP (fun c => !isBlank c)

/-- **Reading by offsets is safe, and it ends.** For every text, no state that the reader
reaches from its start is followed by a fault: its positions, in every loop and behind every
step back, are in the text, every character that it takes by an offset is there, no difference of
offsets is negative, and no slice ends in front of its start or behind the end of the text. Every
token moves it beyond the start of the text of that token; and so the reader comes to an end,
with the tokens of the text, of which there are no more than characters that are not blank. -/
theorem tokens_without_fault (cs : List Char) :
    (∀ ts i, Reached cs ts i → Secure cs ts i) ∧
      tokens cs = .ok (Token.scan 0 true cs) ∧
      (Token.scan 0 true cs).length ≤ cs.countP (fun c => !isBlank c) := by
  refine ⟨fun ts i h => ⟨h.position_le, ?_, ?_⟩, tokens_eq cs, Token.length_scan_le cs⟩
  · rcases next_cases h.position_le with ⟨hnone, -⟩ | ⟨t, j, hsome, hstep⟩
    · exact .inl hnone
    · exact .inr ⟨t, j, hsome, hstep.le_textStart, hstep.textStart_lt, hstep.stop_le⟩
  · -- what has been taken is a part of all tokens
    obtain ⟨more, -, hall⟩ := h.tokensFrom_eq
    have hle := Token.length_scan_le cs
    rw [← hall, List.length_append] at hle
    omega

/-- A text in which a value with an escaped quote has a suffix and is followed by an open phrase. -/
def escapesText : List Char := "+incategory:\"a\\\"b\"c -\"x\\".toList

/-- Its first token. -/
def escapesToken : Token :=
  ⟨.keyword ⟨⟨"incategory", "a\"b", "\"a\\\"b\"", some '"', "c"⟩, "incategory:\"a\\\"b\"c"⟩,
    some .require, ⟨0, 19⟩, 1⟩

/-- Behind that token the reader goes on as safely. -/
theorem tokens_without_fault_of_escapes :
    Reached escapesText [escapesToken] 19 ∧ Secure escapesText [escapesToken] 19 := by
  have hnext : Cursor.next escapesText 0 = .ok (some escapesToken, 19) := by decide +kernel
  have hreached := Reached.start.next hnext
  exact ⟨hreached, (tokens_without_fault escapesText).1 _ _ hreached⟩

end Cursor

end WikiSearch
