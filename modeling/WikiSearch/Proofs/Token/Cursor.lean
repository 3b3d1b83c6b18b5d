import WikiSearch.Proofs.Token.Tokenization

/-!
# WikiSearch — reading tokens by offsets

The readers of tokens take characters off the front of what is left, and there is nothing in that
which could go wrong. A reader that leaves the text in place and moves one offset over it does the
same work, but with every access it relies on what it knows about that offset: that there is a
character in front of it, or that a slice ends behind its start. Here such a reader is written
down with all of its accesses checked. Whatever misses is a `Fault`, and the reader stops with it.

The position is set by `moveTo` alone, which checks it too. So a reader without a fault has never
stood behind the end of the text, in none of its loops and not when it went back either.

None of the readers has a fault, and each of them takes what the reader of a list takes from the
text behind its offset. Both are said by one equation for each reader.

Main results:

* `takeWord_eq`, `takeQuoted_eq`, `takePhrase_eq` — words, quoted texts and phrases.
* `takeCandidate_of_some`, `takeCandidate_of_none` — candidates for a directive, where the reader
  takes slices of the text and where it goes back.
* `isAtBoundary_eq` — the character in front of a token.
* `next_of_nil`, `next_of_cons` — the next token.
-/

namespace WikiSearch.Cursor

open Text

/-! ## Checked accesses -/

/-- What an offset can do wrong. -/
inductive Fault where
  /-- The reader stands behind the end of the text. -/
  | position (i : Nat)
  /-- There is no character at the offset. -/
  | index (i : Nat)
  /-- A difference of offsets is negative. -/
  | difference (i k : Nat)
  /-- A slice ends in front of its start, or behind the end of the text. -/
  | slice (start stop : Nat)
deriving Repr, DecidableEq

theorem ok_bind {α β : Type} (a : α) (f : α → Except Fault β) :
    (Except.ok a >>= f) = f a := rfl

theorem pure_eq {α : Type} (a : α) : (pure a : Except Fault α) = .ok a := rfl

section Accesses

variable (cs : List Char)

/-- The character `k` places ahead, which may be behind the end. -/
def peek (i k : Nat) : Option Char := cs[i + k]?

/-- Sets the position. -/
def moveTo (j : Nat) : Except Fault {k // k = j} :=
  if j ≤ cs.length then .ok ⟨j, rfl⟩ else .error (.position j)

/-- Moves the position on by one character, unless the text is at its end. -/
def advance (i : Nat) : Except Fault {j // j = if i < cs.length then i + 1 else i} :=
  moveTo cs _

/-- The character at an offset. -/
def charAt (i : Nat) : Except Fault Char :=
  match cs[i]? with
  | some c => .ok c
  | none => .error (.index i)

/-- The difference of two offsets. -/
def minus (i k : Nat) : Except Fault Nat :=
  if k ≤ i then .ok (i - k) else .error (.difference i k)

/-- The characters from one offset up to, and without, another one. -/
def slice (start stop : Nat) : Except Fault (List Char) :=
  if start ≤ stop ∧ stop ≤ cs.length then .ok ((cs.drop start).take (stop - start))
  else .error (.slice start stop)

end Accesses

section Offsets

variable {cs rest source : List Char} {i j k : Nat} {c : Char}

theorem peek_zero (cs : List Char) (i : Nat) : peek cs i 0 = (cs.drop i).head? := by
  rw [List.head?_drop]
  rfl

theorem peek_one (cs : List Char) (i : Nat) : peek cs i 1 = peek cs (i + 1) 0 := rfl

theorem lt_of_peek (h : peek cs i 0 = some c) : i < cs.length :=
  (List.getElem?_eq_some_iff.mp h).1

theorem drop_of_peek (h : peek cs i 0 = some c) : cs.drop i = c :: cs.drop (i + 1) := by
  obtain ⟨hlt, rfl⟩ := List.getElem?_eq_some_iff.mp h
  exact List.drop_eq_getElem_cons hlt

theorem drop_of_peek_none (h : peek cs i 0 = none) : cs.drop i = [] := by
  rwa [peek_zero, List.head?_eq_none_iff] at h

theorem peek_of_drop (h : cs.drop i = c :: rest) : peek cs i 0 = some c := by
  rw [peek_zero, h, List.head?_cons]

theorem lt_of_drop (h : cs.drop i = c :: rest) : i < cs.length := lt_of_peek (peek_of_drop h)

theorem drop_add (h : cs.drop i = source ++ rest) : cs.drop (i + source.length) = rest := by
  rw [← List.drop_drop, h, List.drop_left]

theorem drop_succ (h : cs.drop i = c :: rest) : cs.drop (i + 1) = rest := by
  rw [← List.drop_drop, h, List.drop_one, List.tail_cons]

/-- In front of a character the position moves on, and so less of the text is left. -/
theorem length_sub_lt (h : peek cs i 0 = some c) (hj : j = if i < cs.length then i + 1 else i) :
    cs.length - j < cs.length - i := by
  have hlt := lt_of_peek h
  rw [if_pos hlt] at hj
  omega

/-- Two moves leave less of the text as well. The second of them may stand still. -/
theorem length_sub_lt_of_twice (h : peek cs i 0 = some c)
    (hj : j = if i < cs.length then i + 1 else i) (hk : k = if j < cs.length then j + 1 else j) :
    cs.length - k < cs.length - i := by
  have hlt := length_sub_lt h hj
  split at hk <;> omega

/-! Accesses to what has been seen before are no faults. -/

theorem moveTo_of_le (h : i ≤ cs.length) : moveTo cs i = .ok ⟨i, rfl⟩ := by
  rw [moveTo, if_pos h]

theorem advance_of_lt (h : i < cs.length) : advance cs i = .ok ⟨i + 1, (if_pos h).symm⟩ := by
  have hle : (if i < cs.length then i + 1 else i) ≤ cs.length := by
    rw [if_pos h]
    exact h
  rw [advance, moveTo_of_le hle]
  simp only [if_pos h]

theorem charAt_of_drop (h : cs.drop i = c :: rest) : charAt cs i = .ok c := by
  have hc : cs[i]? = some c := peek_of_drop h
  rw [charAt, hc]

theorem minus_add (i k : Nat) : minus (i + k) k = .ok i := by
  rw [minus, if_pos (Nat.le_add_left k i), Nat.add_sub_cancel]

theorem slice_of_drop {stop : Nat} (hle : i ≤ cs.length) (h : cs.drop i = source ++ rest)
    (hstop : stop = i + source.length) : slice cs i stop = .ok source := by
  have hlength := congrArg List.length h
  rw [List.length_drop, List.length_append] at hlength
  rw [slice, if_pos ⟨by omega, by omega⟩, h, hstop, Nat.add_sub_cancel_left, List.take_left]

end Offsets

/-! ## Readers

Each reader returns what it has read and the position behind that. -/

section Readers

variable (cs : List Char)

/-- Takes characters as long as they have a property. -/
def takeWhile (p : Char → Bool) (i : Nat) : Except Fault (List Char × Nat) :=
  match _h : peek cs i 0 with
  | none => return ([], i)
  | some c =>
    if p c then do
      let ⟨j, _hj⟩ ← advance cs i
      let (text, stop) ← takeWhile p j
      return (c :: text, stop)
    else return ([], i)
termination_by cs.length - i
decreasing_by exact length_sub_lt _h _hj

/-- The character that forms a pair with the one at the position, if that is a backslash. -/
def pairAt (p : Char → Bool) (c : Char) (i : Nat) : Option Char :=
  if c = '\\' then (peek cs i 1).filter p else none

/-- Takes a word. -/
def takeWord (i : Nat) : Except Fault (List Char × Nat) :=
  match _h : peek cs i 0 with
  | none => return ([], i)
  | some c =>
    if isBlank c then return ([], i)
    else match pairAt cs escapable c i with
    | some d => do
      -- over the backslash, and over the character that it makes literal
      let ⟨j, _hj⟩ ← advance cs i
      let ⟨k, _hk⟩ ← advance cs j
      let (text, stop) ← takeWord k
      return (d :: text, stop)
    | none => do
      let ⟨j, _hj⟩ ← advance cs i
      let (text, stop) ← takeWord j
      return (c :: text, stop)
termination_by cs.length - i
decreasing_by
  · exact length_sub_lt_of_twice _h _hj _hk
  · exact length_sub_lt _h _hj

/-- Takes what stands behind an opening quote. The second part says whether there is a closing
quote. -/
def takeQuoted (i : Nat) : Except Fault (List Char × Bool × Nat) :=
  match _h : peek cs i 0 with
  | none => return ([], false, i)
  | some c =>
    if c = '"' then do
      let ⟨j, _⟩ ← advance cs i
      return ([], true, j)
    else if (pairAt cs (fun d => d = '"' || d = '\\') c i).isSome then do
      let ⟨j, _hj⟩ ← advance cs i
      -- the second character of the pair is taken by its offset
      let d ← charAt cs j
      let ⟨k, _hk⟩ ← advance cs j
      let (text, closed, stop) ← takeQuoted k
      return (d :: text, closed, stop)
    else do
      let ⟨j, _hj⟩ ← advance cs i
      let (text, closed, stop) ← takeQuoted j
      return (c :: text, closed, stop)
termination_by cs.length - i
decreasing_by
  · exact length_sub_lt_of_twice _h _hj _hk
  · exact length_sub_lt _h _hj

/-- Takes the mark behind the closing quote of a phrase: its slop, and whether it is stemmed. -/
def takeMark (i : Nat) : Except Fault (Option Nat × Bool × Nat) := do
  if peek cs i 0 = some '~' then
    let ⟨j, _⟩ ← advance cs i
    let (digits, stop) ← takeWhile cs isDigit j
    if digits = [] then return (none, true, stop)
    else return (some (min (digitsValue digits) maxSlop), false, stop)
  else return (none, false, i)

/-- Takes a phrase, from its opening quote on. -/
def takePhrase (i : Nat) : Except Fault (Content × Nat) := do
  let ⟨j, _⟩ ← advance cs i
  let (text, closed, stop) ← takeQuoted cs j
  if closed then
    let (slop, stemmed, last) ← takeMark cs stop
    return (.phrase ⟨.ofList text, slop, stemmed, true⟩, last)
  else return (.phrase ⟨.ofList text, none, false, false⟩, stop)

/-- Takes the rest of a candidate that starts at `start`, from the opening quote of its value on. -/
def takeQuotedValue (key : List Char) (start valueStart : Nat) :
    Except Fault (Candidate × Nat) := do
  let ⟨inside, _⟩ ← advance cs valueStart
  let (value, _, valueStop) ← takeQuoted cs inside
  let (suffix, stop) ← takeWhile cs (fun c => !isBlank c) valueStop
  -- the value as typed is what stands in front of the suffix
  let suffixStart ← minus stop suffix.length
  let quotedValue ← slice cs valueStart suffixStart
  let literal ← slice cs start stop
  return (⟨⟨.ofList key, .ofList value, .ofList quotedValue, some '"', .ofList suffix⟩,
    .ofList literal⟩, stop)

/-- Takes the rest of a candidate, from its value on, which is a word. -/
def takeBareValue (key : List Char) (valueStart : Nat) : Except Fault (Candidate × Nat) := do
  let (value, stop) ← takeWord cs valueStart
  return (⟨⟨.ofList key, .ofList value, .ofList value, none, ""⟩,
    .ofList (key ++ ':' :: value)⟩, stop)

/-- Takes a candidate for a directive, if there is one. If not, the reader goes back to where it
started. -/
def takeCandidate (start : Nat) : Except Fault (Option Candidate × Nat) := do
  let (key, colon) ← takeWhile cs isKeyChar start
  if key ≠ [] ∧ peek cs colon 0 = some ':' ∧ (peek cs colon 1).any (fun c => !isBlank c) then
    let ⟨valueStart, _⟩ ← advance cs colon
    let (candidate, stop) ←
      (if peek cs valueStart 0 = some '"' then takeQuotedValue cs key start valueStart
      else takeBareValue cs key valueStart)
    return (some candidate, stop)
  else
    let ⟨back, _⟩ ← moveTo cs start
    return (none, back)

/-- Takes what a token holds, behind its sign. -/
def takeContent (boundary : Bool) (i : Nat) : Except Fault (Content × Nat) := do
  if peek cs i 0 = some '"' then takePhrase cs i
  else
    let (candidate, j) ← (if boundary then takeCandidate cs i else .ok (none, i))
    match candidate with
    | some candidate => return (.keyword candidate, j)
    | none =>
      let (text, stop) ← takeWord cs j
      return (.word (.ofList text), stop)

/-- The sign that is written with a character. -/
def signOf? : Char → Option Sign
  | '+' => some .require
  | '-' => some .exclude
  | _ => none

/-- Takes the sign of a token, if it has one. -/
def takeSign (i : Nat) : Except Fault (Option Sign × Nat) := do
  match (peek cs i 0).bind signOf? with
  | some sign =>
    if (peek cs i 1).any (fun c => !isBlank c) then
      let ⟨j, _⟩ ← advance cs i
      return (some sign, j)
    else return (none, i)
  | none => return (none, i)

/-- Whether an offset is at the start of the text or behind a blank. -/
def isAtBoundary (i : Nat) : Except Fault Bool := do
  if i = 0 then return true
  else
    let before ← minus i 1
    let c ← charAt cs before
    return isBlank c

/-- Takes the next token. Without one the text is at its end. -/
def next (i : Nat) : Except Fault (Option Token × Nat) := do
  let (_, start) ← takeWhile cs isBlank i
  if (peek cs start 0).isNone then return (none, start)
  else
    let boundary ← isAtBoundary cs start
    let (sign, textStart) ← takeSign cs start
    let (content, stop) ← takeContent cs boundary textStart
    return (some ⟨content, sign, ⟨start, stop⟩, textStart⟩, stop)

end Readers

/-! ## What the readers take -/

section Taking

variable {cs rest : List Char} {i : Nat} {c d : Char}

/-- Taking by a property moves the position over the longest run, and returns it. -/
theorem takeWhile_eq (p : Char → Bool) (i : Nat) :
    takeWhile cs p i =
      .ok ((readWhile p (cs.drop i)).text, i + (readWhile p (cs.drop i)).text.length) := by
  fun_induction takeWhile cs p i with
  | case1 i h =>
    rw [drop_of_peek_none h]
    rfl
  | case2 i c h hp ih =>
    -- a character with the property is taken, and the run goes on behind it
    have hlt := lt_of_peek h
    rw [drop_of_peek h]
    simp only [advance_of_lt hlt, ok_bind, ih (i + 1) (if_pos hlt).symm, pure_eq, readWhile,
      List.takeWhile_cons_of_pos hp, List.length_cons, Nat.add_assoc, Nat.add_comm 1]
  | case3 i c h hp =>
    rw [drop_of_peek h]
    simp only [readWhile, List.takeWhile_cons_of_neg hp, pure_eq, List.length_nil, Nat.add_zero]

/-- Every text starts with a longest run. -/
theorem exists_run (p : Char → Bool) (cs : List Char) :
    ∃ run rest, cs = run ++ rest ∧ IsRun p run rest :=
  ⟨_, _, (readWhile_split p cs).symm, isRun_readWhile p cs⟩

theorem takeWhile_of_isRun {p : Char → Bool} {run : List Char} (hrun : IsRun p run rest)
    (h : cs.drop i = run ++ rest) : takeWhile cs p i = .ok (run, i + run.length) := by
  rw [takeWhile_eq, h, readWhile_of_isRun hrun]

theorem length_source_push (r : Reading) (c : Char) (source : List Char) :
    (r.push c source).source.length = source.length + r.source.length := List.length_append

section Pair

variable {p : Char → Bool}

/-- A pair is a backslash and a character that it may make literal. -/
theorem pairAt_eq_some_iff :
    pairAt cs p c i = some d ↔ c = '\\' ∧ peek cs i 1 = some d ∧ p d = true := by
  unfold pairAt
  split
  case isTrue h => rw [Option.filter_eq_some_iff, and_iff_right h]
  case isFalse h => exact iff_of_false (by simp) fun hpair => h hpair.1

theorem lt_of_pairAt (h : pairAt cs p c i = some d) : i + 1 < cs.length := by
  obtain ⟨-, hd, -⟩ := pairAt_eq_some_iff.mp h
  rw [peek_one] at hd
  exact lt_of_peek hd

theorem drop_of_pairAt (hc : peek cs i 0 = some c) (h : pairAt cs p c i = some d) :
    cs.drop i = '\\' :: d :: cs.drop (i + 2) := by
  obtain ⟨rfl, hd, -⟩ := pairAt_eq_some_iff.mp h
  rw [peek_one] at hd
  rw [drop_of_peek hc, drop_of_peek hd]

/-- Behind a backslash that forms no pair stands a character that it cannot make literal. -/
theorem not_of_pairAt_eq_none (h : pairAt cs p c i = none) (hc : c = '\\')
    (hd : cs.drop (i + 1) = d :: rest) : p d = false := by
  by_contra hp
  have hpeek : peek cs i 1 = some d := by
    rw [peek_one, peek_of_drop hd]
  rw [pairAt_eq_some_iff.mpr ⟨hc, hpeek, by simpa using hp⟩] at h
  contradiction

end Pair

/-! ### Texts with escapes -/

/-- A word is taken as it is read, and the position moves over what it was typed as. -/
theorem takeWord_eq (i : Nat) :
    takeWord cs i =
      .ok ((readWord (cs.drop i)).text, i + (readWord (cs.drop i)).source.length) := by
  fun_induction takeWord cs i with
  | case1 i h =>
    rw [drop_of_peek_none h]
    rfl
  | case2 i c h hblank =>
    rw [drop_of_peek h, readWord_blank hblank]
    rfl
  | case3 i c h hblank d hpair ih =>
    -- both characters of the pair have been seen, and so there is a place behind each of them
    have hlt := lt_of_peek h
    have hlt' := lt_of_pairAt hpair
    rw [drop_of_pairAt h hpair, readWord_pair (pairAt_eq_some_iff.mp hpair).2.2,
      length_source_push, ← Nat.add_assoc]
    simp only [advance_of_lt hlt, advance_of_lt hlt', ok_bind,
      ih (i + 1) (if_pos hlt).symm (i + 2) (if_pos hlt').symm]
    rfl
  | case4 i c h hblank hpair ih =>
    -- a backslash without a pair is a character like any other
    have hlt := lt_of_peek h
    rw [drop_of_peek h, readWord_char (by simpa using hblank)
      fun d ds hc hd => not_of_pairAt_eq_none hpair hc hd, length_source_push, ← Nat.add_assoc]
    simp only [advance_of_lt hlt, ok_bind, ih (i + 1) (if_pos hlt).symm]
    rfl

/-- A quoted text is taken as it is read, the position moving over its closing quote too. -/
theorem takeQuoted_eq (i : Nat) :
    takeQuoted cs i =
      .ok ((readQuoted (cs.drop i)).1.text, (readQuoted (cs.drop i)).2,
        i + (readQuoted (cs.drop i)).1.source.length) := by
  fun_induction takeQuoted cs i with
  | case1 i h =>
    rw [drop_of_peek_none h]
    rfl
  | case2 i h =>
    rw [drop_of_peek h, readQuoted_quote]
    simp only [advance_of_lt (lt_of_peek h), ok_bind]
    rfl
  | case3 i c h hquote hpair ih =>
    -- the character behind the backslash has been seen, and so it is there
    obtain ⟨d, hd⟩ := Option.isSome_iff_exists.mp hpair
    have hlt := lt_of_peek h
    have hlt' := lt_of_pairAt hd
    have hdrop := drop_of_pairAt h hd
    have hchar := charAt_of_drop (drop_succ hdrop)
    rw [hdrop, readQuoted_pair (by simpa using (pairAt_eq_some_iff.mp hd).2.2),
      length_source_push, ← Nat.add_assoc]
    simp only [advance_of_lt hlt, hchar, advance_of_lt hlt', ok_bind,
      ih (i + 1) (if_pos hlt).symm (i + 2) (if_pos hlt').symm]
    rfl
  | case4 i c h hquote hpair ih =>
    have hlt := lt_of_peek h
    have hnone : pairAt cs (fun d => d = '"' || d = '\\') c i = none := by simpa using hpair
    rw [drop_of_peek h, readQuoted_char hquote fun d ds hc hd => by
        simpa using not_of_pairAt_eq_none hnone hc hd,
      length_source_push, ← Nat.add_assoc]
    simp only [advance_of_lt hlt, ok_bind, ih (i + 1) (if_pos hlt).symm]
    rfl

theorem takeMark_eq (i : Nat) :
    takeMark cs i = .ok ((readMark (cs.drop i)).slop, (readMark (cs.drop i)).stemmed,
      i + (readMark (cs.drop i)).source.length) := by
  unfold takeMark
  split
  case isTrue h =>
    rw [drop_of_peek h, readMark]
    simp only [advance_of_lt (lt_of_peek h), ok_bind, takeWhile_eq]
    split
    case isTrue hnone =>
      rw [hnone]
      rfl
    case isFalse =>
      simp only [pure_eq, List.length_cons, Nat.add_assoc, Nat.add_comm 1]
      rfl
  case isFalse h =>
    -- without the mark nothing is taken
    rw [peek_zero] at h
    rw [readMark]
    · rfl
    · intro rest hrest
      exact h (by rw [hrest, List.head?_cons])

theorem takePhrase_eq (h : cs.drop i = '"' :: rest) :
    takePhrase cs i = .ok ((readPhrase rest).content, i + (readPhrase rest).source.length) := by
  -- the mark is looked for where the quoted text has stopped
  have hstop : cs.drop (i + 1 + (readQuoted rest).1.source.length) = (readQuoted rest).1.rest := by
    refine drop_add ?_
    rw [drop_succ h, readQuoted_split]
  simp only [takePhrase, advance_of_lt (lt_of_drop h), ok_bind, takeQuoted_eq,
    drop_succ h, takeMark_eq, hstop, readPhrase]
  split
  · simp only [pure_eq, List.length_cons, List.length_append, Nat.add_assoc, Nat.add_comm 1]
  · simp only [pure_eq, List.length_cons, Nat.add_assoc, Nat.add_comm 1]

/-! ### Candidates -/

section Candidate

variable {key value suffix : List Char} {l : Lexeme}

/-- The value as typed starts at its opening quote. -/
theorem slice_quotedValue (h : cs.drop i = key ++ ':' :: '"' :: (value ++ rest)) :
    slice cs (i + key.length + 1) (i + key.length + 1 + 1 + value.length) =
      .ok ('"' :: value) := by
  have hstart := drop_succ (drop_add h)
  refine slice_of_drop (Nat.le_of_lt (lt_of_drop hstart)) hstart ?_
  rw [List.length_cons]
  omega

/-- The candidate as typed goes from its key to its suffix. -/
theorem slice_literal (h : cs.drop i = key ++ ':' :: '"' :: (value ++ (suffix ++ rest))) :
    slice cs i (i + key.length + 1 + 1 + value.length + suffix.length) =
      .ok (key ++ ':' :: '"' :: value ++ suffix) := by
  have hlt := lt_of_drop (drop_add h)
  have hall : cs.drop i = (key ++ ':' :: '"' :: value ++ suffix) ++ rest := by
    rw [h]
    simp only [List.append_assoc, List.cons_append]
  refine slice_of_drop (by omega) hall ?_
  simp only [List.length_append, List.length_cons]
  omega

/-- A quoted value is taken as it is read, with all of its slices inside the text. -/
theorem takeQuotedValue_eq (h : cs.drop i = key ++ ':' :: '"' :: rest) :
    ∃ c, (readQuotedValue key rest).content = .keyword c ∧
      takeQuotedValue cs key i (i + key.length + 1) =
        .ok (c, i + (readQuotedValue key rest).source.length) := by
  have hstart := drop_succ (drop_add h)
  rcases hread : readQuoted rest with ⟨⟨text, source, left⟩, closed⟩
  have hrest : source ++ left = rest := by
    rw [← readQuoted_split rest, hread]
  have hvalue : takeQuoted cs (i + key.length + 1 + 1) =
      .ok (text, closed, i + key.length + 1 + 1 + source.length) := by
    rw [takeQuoted_eq, drop_succ hstart, hread]
  have hstop : cs.drop (i + key.length + 1 + 1 + source.length) = left := by
    refine drop_add ?_
    rw [drop_succ hstart, hrest]
  -- the suffix is read right behind the value, so its length can be taken off again
  obtain ⟨suffix, after, rfl, hrun⟩ := exists_run (fun c => !isBlank c) left
  have hsuffix := takeWhile_of_isRun hrun hstop
  rw [← hrest] at h
  refine ⟨_, rfl, ?_⟩
  simp only [takeQuotedValue, advance_of_lt (lt_of_drop hstart), ok_bind, hvalue, hsuffix,
    minus_add, slice_quotedValue h, slice_literal h, pure_eq, readQuotedValue, hread,
    readWhile_of_isRun hrun]
  simp only [Except.ok.injEq, Prod.mk.injEq, true_and, List.length_append, List.length_cons]
  omega

theorem takeBareValue_eq (h : cs.drop i = key ++ ':' :: rest) :
    ∃ c, (readBareValue key rest).content = .keyword c ∧
      takeBareValue cs key (i + key.length + 1) =
        .ok (c, i + (readBareValue key rest).source.length) := by
  refine ⟨_, rfl, ?_⟩
  simp only [takeBareValue, takeWord_eq, drop_succ (drop_add h), ok_bind, pure_eq, readBareValue,
    Except.ok.injEq, Prod.mk.injEq, true_and, List.length_append, List.length_cons]
  omega

/-- A key is taken up to its colon, which is no character of a key. -/
theorem takeWhile_key (hkey : ∀ c ∈ key, isKeyChar c = true)
    (h : cs.drop i = key ++ ':' :: rest) :
    takeWhile cs isKeyChar i = .ok (key, i + key.length) := by
  rw [takeWhile_eq, h, readWhile_key hkey]

/-- Behind a key and its colon the reader takes a value, if there is no blank. -/
theorem takeCandidate_eq {d : Char} (hkey : IsKey key) (h : cs.drop i = key ++ ':' :: d :: rest)
    (hblank : isBlank d = false) :
    takeCandidate cs i = (do
      let (candidate, stop) ←
        (if d = '"' then takeQuotedValue cs key i (i + key.length + 1)
        else takeBareValue cs key (i + key.length + 1))
      return (some candidate, stop)) := by
  have hcolon := drop_add h
  have hstart := drop_succ hcolon
  have hvalue : (peek cs (i + key.length) 1).any (fun c => !isBlank c) = true := by
    rw [peek_one, peek_of_drop hstart, Option.any_some, hblank]
    rfl
  rw [takeCandidate, takeWhile_key hkey.2 h, ok_bind]
  simp only
  -- the colon and the character behind it have been seen
  rw [if_pos ⟨hkey.1, peek_of_drop hcolon, hvalue⟩]
  simp only [advance_of_lt (lt_of_drop hcolon), ok_bind, peek_of_drop hstart, Option.some.injEq]

/-- Where the text starts with a candidate, it is taken. -/
theorem takeCandidate_of_some (h : readCandidate? (cs.drop i) = some l) :
    ∃ c, l.content = .keyword c ∧ takeCandidate cs i = .ok (some c, i + l.source.length) := by
  -- a key and its colon, and behind them a quote or another character
  obtain ⟨key, hne, hkey, ⟨rest, hdrop, rfl⟩ | ⟨d, rest, hdrop, hquote, hblank, rfl⟩⟩ :=
    readCandidate?_eq_some h
  · obtain ⟨c, hc, htake⟩ := takeQuotedValue_eq hdrop
    refine ⟨c, hc, ?_⟩
    rw [takeCandidate_eq ⟨hne, hkey⟩ hdrop (by decide), if_pos rfl, htake]
    rfl
  · obtain ⟨c, hc, htake⟩ := takeBareValue_eq hdrop
    refine ⟨c, hc, ?_⟩
    rw [takeCandidate_eq ⟨hne, hkey⟩ hdrop hblank, if_neg hquote, htake]
    rfl

/-- Where it does not, the reader goes back to where it started. -/
theorem takeCandidate_of_none (hle : i ≤ cs.length) (h : ¬ StartsDirective (cs.drop i)) :
    takeCandidate cs i = .ok (none, i) := by
  obtain ⟨key, rest, hdrop, hrun⟩ := exists_run isKeyChar (cs.drop i)
  -- a key, a colon and a value that were seen would be the start of a directive
  have hnot : ¬ (key ≠ [] ∧ peek cs (i + key.length) 0 = some ':' ∧
      (peek cs (i + key.length) 1).any (fun c => !isBlank c)) := by
    rintro ⟨hne, hcolon, hvalue⟩
    obtain ⟨d, hd, hblank⟩ := (Option.any_eq_true _ _).mp hvalue
    rw [peek_one] at hd
    refine h ⟨key, d, cs.drop (i + key.length + 2), ?_, ⟨hne, hrun.all⟩, by simpa using hblank⟩
    rw [hdrop, ← drop_add hdrop, drop_of_peek hcolon, drop_of_peek hd]
  rw [takeCandidate, takeWhile_of_isRun hrun hdrop]
  simp only [ok_bind, if_neg hnot, moveTo_of_le hle, pure_eq]

end Candidate

/-! ### Tokens -/

/-- What a token holds is taken as it is read, from any position in the text. -/
theorem takeContent_eq (boundary : Bool) (hle : i ≤ cs.length) :
    takeContent cs boundary i = .ok ((readContent boundary (cs.drop i)).content,
      i + (readContent boundary (cs.drop i)).source.length) := by
  unfold takeContent
  split
  case isTrue hquote =>
    rw [drop_of_peek hquote, readContent_quote, takePhrase_eq (drop_of_peek hquote)]
  case isFalse hquote =>
    rw [peek_zero] at hquote
    -- a candidate is asked for at a boundary only, and is there where a directive starts
    by_cases hdirective : boundary = true ∧ StartsDirective (cs.drop i)
    · obtain ⟨rfl, hstarts⟩ := hdirective
      obtain ⟨l, hread⟩ := Option.isSome_iff_exists.mp (readCandidate?_isSome_iff.mpr hstarts)
      obtain ⟨c, hc, htake⟩ := takeCandidate_of_some hread
      rw [if_pos rfl, htake, readContent_of_readCandidate? hread, hc]
      rfl
    · have hnone : (if boundary then takeCandidate cs i else .ok (none, i)) = .ok (none, i) := by
        cases boundary with
        | false => rfl
        | true => exact takeCandidate_of_none hle fun hstarts => hdirective ⟨rfl, hstarts⟩
      rw [hnone, readContent_word hquote hdirective]
      simp only [ok_bind, takeWord_eq, pure_eq]

/-- A sign is written with its own character only. -/
theorem signOf?_eq_some_iff {s : Sign} : signOf? c = some s ↔ c = s.char := by
  unfold signOf?
  split
  · cases s <;> simp [Sign.char]
  · cases s <;> simp [Sign.char]
  · rename_i hplus hminus
    refine iff_of_false (by simp) ?_
    cases s with
    | require => exact hplus
    | exclude => exact hminus

/-- A sign is there if a character that is not blank follows it. -/
theorem sign?_cons (c : Char) (rest : List Char) :
    sign? (c :: rest) = if rest.head?.any (fun d => !isBlank d) then signOf? c else none := by
  -- both sides ask for the character of the sign and for one that is not blank
  ext s
  rw [sign?_eq_some_iff, List.getElem?_cons_zero, List.getElem?_cons_succ,
    ← List.head?_eq_getElem?, Option.some.injEq, ← signOf?_eq_some_iff]
  split
  case isTrue h =>
    obtain ⟨d, hd, hblank⟩ := (Option.any_eq_true _ _).mp h
    exact and_iff_left ⟨d, hd, by simpa using hblank⟩
  case isFalse h =>
    refine iff_of_false ?_ (by simp)
    rintro ⟨-, d, hd, hblank⟩
    exact h (by rw [hd, Option.any_some, hblank]; rfl)

theorem takeSign_eq (h : cs.drop i = c :: rest) :
    takeSign cs i = .ok (sign? (c :: rest), i + signLength (sign? (c :: rest))) := by
  have hnext : peek cs i 1 = rest.head? := by
    rw [peek_one, peek_zero, drop_succ h]
  have hlt := lt_of_drop h
  -- both readers look at the next character, one by its offset and one at the front of the list
  unfold takeSign
  rw [peek_of_drop h, Option.bind_some, hnext, sign?_cons]
  cases signOf? c with
  | none =>
    simp only [ite_self]
    rfl
  | some sign =>
    simp only
    split
    · simp only [advance_of_lt hlt, ok_bind]
      rfl
    · rfl

/-- The character in front of a token tells whether the token is at a boundary. -/
theorem isAtBoundary_eq (hle : i ≤ cs.length) :
    ∃ boundary, isAtBoundary cs i = .ok boundary ∧ (boundary = true ↔ AtBoundary cs i) := by
  unfold isAtBoundary
  split
  case isTrue hzero => exact ⟨true, rfl, iff_of_true rfl (.inl hzero)⟩
  case isFalse hpos =>
    -- in front of an offset that is not zero there is a character, also at the end of the text
    obtain ⟨k, rfl⟩ := Nat.exists_eq_succ_of_ne_zero hpos
    have hc : cs[k]? = some cs[k] := List.getElem?_eq_getElem hle
    refine ⟨isBlank cs[k], ?_, ?_⟩
    · rw [Nat.succ_eq_add_one, minus_add, ok_bind, charAt, hc]
      rfl
    · constructor
      · intro h
        exact .inr ⟨cs[k], hc, h⟩
      · rintro (hzero | ⟨c, hget, hblank⟩)
        · contradiction
        · rw [Nat.succ_sub_one, hc, Option.some.injEq] at hget
          rwa [hget]

section Next

variable {blanks : List Char}

/-- Where only blanks are left, there is no token. -/
theorem next_of_nil (hblanks : IsRun isBlank blanks []) (h : cs.drop i = blanks) :
    next cs i = .ok (none, i + blanks.length) := by
  rw [← List.append_nil blanks] at h
  have hnone : peek cs (i + blanks.length) 0 = none := by
    rw [peek_zero, drop_add h, List.head?_nil]
  rw [next, takeWhile_of_isRun hblanks h]
  simp only [ok_bind, hnone, Option.isNone_none, if_true, pure_eq]

/-- Behind the blanks the reader takes the token that has to stand there by the rules. -/
theorem next_of_cons (hblanks : IsRun isBlank blanks (c :: rest))
    (h : cs.drop i = blanks ++ c :: rest) :
    ∃ boundary, (boundary = true ↔ AtBoundary cs (i + blanks.length)) ∧
      next cs i = .ok (some (Token.first (i + blanks.length) boundary (c :: rest)),
        (Token.first (i + blanks.length) boundary (c :: rest)).span.stop) := by
  have hdrop := drop_add h
  have hlt := lt_of_drop hdrop
  obtain ⟨boundary, hread, hboundary⟩ := isAtBoundary_eq (Nat.le_of_lt hlt)
  refine ⟨boundary, hboundary, ?_⟩
  -- a sign takes one character at most, so behind it the reader is still in the text
  have hsign := signLength_le_one (sign? (c :: rest))
  have hcontent := takeContent_eq boundary
    (show i + blanks.length + signLength (sign? (c :: rest)) ≤ cs.length by omega)
  rw [← List.drop_drop, hdrop] at hcontent
  rw [next, takeWhile_of_isRun hblanks h]
  simp only [ok_bind, peek_of_drop hdrop, Option.isNone_some, Bool.false_eq_true, if_false, hread,
    takeSign_eq hdrop, hcontent]
  rfl

end Next

end Taking

end WikiSearch.Cursor
