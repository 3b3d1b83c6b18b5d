import WikiSearch.Proofs.Layout
import WikiSearch.Proofs.Token.Rules

/-!
# WikiSearch — the one tokenization of a text

The rules for tokens say when a list of tokens is a tokenization of a text: their spans
are in order and hold all that is not blank, and each token keeps to the rules for its
place (`Token.Lawful`). Nothing in these rules says how tokens are found, and yet they leave no
choice: where a token starts is forced by the one before it, and the rules for a single
token force the rest.

The reader scans from left to right, so the rules are taken apart in the same direction:
`Tokenization full pos` is about the text behind offset `pos`, and there is one lemma for
each step of the scan.

Main results:

* `Tokenization.nil_iff`, `Tokenization.blank_iff`, `Tokenization.cons_iff` — the steps.
* `tokenization_iff` — the tokenizations of a text are what the reader makes of it.
* `ofText_eq_iff` — the same for a query within the hard limit.
-/

namespace WikiSearch

open Text

/-! ## The rules for a list of tokens -/

/-- The character that a sign is written with. -/
def Sign.char : Sign → Char
  | require => '+'
  | exclude => '-'

theorem Sign.isBlank_char (s : Sign) : isBlank s.char = false := by
  cases s <;> decide

theorem Sign.char_ne_backslash (s : Sign) : s.char ≠ '\\' := by
  cases s <;> decide

/-- An offset at the start of the text or behind a blank. -/
def AtBoundary (full : List Char) (pos : Nat) : Prop :=
  pos = 0 ∨ ∃ c, full[pos - 1]? = some c ∧ isBlank c = true

namespace Token

/-- What stands behind the sign of a token, and the text that follows the token. -/
def lexeme (full : List Char) (t : Token) : Lexeme :=
  ⟨t.content, (full.drop t.textStart).take (t.span.stop - t.textStart), full.drop t.span.stop⟩

/-- The rules for a token of a text. -/
structure Lawful (full : List Char) (t : Token) : Prop where
  /-- A token has a sign exactly if it starts with one that other text follows directly. -/
  sign_iff : ∀ s, t.sign = some s ↔ full[t.span.start]? = some s.char ∧
    ∃ c, full[t.span.start + 1]? = some c ∧ isBlank c = false
  textStart_eq : t.textStart = t.span.start + signLength t.sign
  lexeme : (t.lexeme full).Lawful (AtBoundary full t.span.start)

end Token

/-- The tokens are a tokenization of a text from offset `pos` on. -/
structure Tokenization (full : List Char) (pos : Nat) (ts : List Token) : Prop where
  /-- A token is not empty and lies inside the text. -/
  bounds : ∀ t ∈ ts, pos ≤ t.span.start ∧ t.span.start < t.span.stop ∧ t.span.stop ≤ full.length
  /-- A token ends before any later one starts. -/
  ordered : ts.Pairwise fun a b => a.span.stop ≤ b.span.start
  /-- A character that is not blank lies in a token. -/
  covered : ∀ i c, pos ≤ i → full[i]? = some c → isBlank c = false → ∃ t ∈ ts, i ∈ t.span
  lawful : ∀ t ∈ ts, t.Lawful full

/-! ## Single tokens -/

/-- A sign is one of two characters, with a character behind it that is not blank. -/
theorem sign?_eq_some_iff {cs : List Char} {s : Sign} :
    sign? cs = some s ↔ cs[0]? = some s.char ∧ ∃ c, cs[1]? = some c ∧ isBlank c = false := by
  -- a sign by itself is a word
  match cs with
  | [] => simp [sign?]
  | [c] => cases s <;> simp [sign?]
  | c :: d :: ds =>
    simp only [List.getElem?_cons_zero, List.getElem?_cons_succ, Option.some.injEq,
      exists_eq_left']
    by_cases hplus : c = '+'
    · subst hplus
      cases s <;> cases hd : isBlank d <;> simp [sign?, Sign.char, hd]
    · by_cases hminus : c = '-'
      · subst hminus
        cases s <;> cases hd : isBlank d <;> simp [sign?, Sign.char, hd]
      · cases s <;> simp [sign?, Sign.char, hplus, hminus]

namespace Token

/-- What the reader takes behind the sign at the front of a text, if there is one. -/
def readSigned (boundary : Bool) (cs : List Char) : Lexeme :=
  readContent boundary (cs.drop (signLength (sign? cs)))

/-- The token that the reader takes at the front of a text. -/
def first (pos : Nat) (boundary : Bool) (cs : List Char) : Token :=
  let lexeme := readSigned boundary cs
  ⟨lexeme.content, sign? cs, ⟨pos, pos + signLength (sign? cs) + lexeme.source.length⟩,
    pos + signLength (sign? cs)⟩

section First

variable {full cs : List Char} {pos : Nat}

/-- The first token holds what the reader takes. -/
theorem lexeme_first (boundary : Bool) (hcs : full.drop pos = cs) :
    (first pos boundary cs).lexeme full = readSigned boundary cs := by
  have hsplit : (readSigned boundary cs).source ++ (readSigned boundary cs).rest =
      cs.drop (signLength (sign? cs)) := readContent_split boundary _
  rw [lexeme, first]
  simp only [Nat.add_sub_cancel_left, ← List.drop_drop, hcs]
  -- the text behind the sign is what was taken with what was left
  generalize readSigned boundary cs = l at hsplit ⊢
  rw [← hsplit, List.take_left, List.drop_left]

/-- The token that the reader takes is lawful. -/
theorem lawful_first {boundary : Bool} (hcs : full.drop pos = cs)
    (hboundary : boundary = true ↔ AtBoundary full pos) : (first pos boundary cs).Lawful full where
  sign_iff s := by
    show sign? cs = some s ↔ full[pos]? = some s.char ∧ ∃ c, full[pos + 1]? = some c ∧ _
    simp only [sign?_eq_some_iff, ← hcs, List.getElem?_drop, Nat.add_zero]
  textStart_eq := rfl
  lexeme := by
    rw [lexeme_first boundary hcs]
    show Lexeme.Lawful (AtBoundary full pos) _
    rw [← hboundary]
    exact lawful_readContent boundary _

/-- Source and rest of a token make up the text behind its sign. -/
theorem source_append_rest {t : Token} (h : t.textStart ≤ t.span.stop) :
    (t.lexeme full).source ++ (t.lexeme full).rest = full.drop t.textStart := by
  have hstop : full.drop t.span.stop =
      (full.drop t.textStart).drop (t.span.stop - t.textStart) := by
    rw [List.drop_drop, Nat.add_sub_cancel' h]
  rw [lexeme, hstop, List.take_append_drop]

/-- A lawful token is the one that the reader takes at its place. -/
theorem eq_first_of_lawful {t : Token} {boundary : Bool} (h : t.Lawful full)
    (hstart : t.span.start = pos) (hlt : t.span.start < t.span.stop)
    (hle : t.span.stop ≤ full.length) (hcs : full.drop pos = cs)
    (hboundary : boundary = true ↔ AtBoundary full pos) : t = first pos boundary cs := by
  -- the rule for signs looks at the characters that the reader looks at
  have hsign : t.sign = sign? cs := by
    ext s
    simp only [h.sign_iff, sign?_eq_some_iff, hstart, ← hcs, List.getElem?_drop, Nat.add_zero]
  have htext : t.textStart = pos + signLength (sign? cs) := by
    rw [h.textStart_eq, hstart, hsign]
  have hsignLength := signLength_le_one (sign? cs)
  have hsplit : (t.lexeme full).source ++ (t.lexeme full).rest =
      cs.drop (signLength (sign? cs)) := by
    rw [source_append_rest (by omega), htext, ← List.drop_drop, hcs]
  have hlawful := h.lexeme
  rw [hstart, ← hboundary] at hlawful
  -- there is one lexeme at this place, so the content and the end are those of the reader
  have hread : readSigned boundary cs = t.lexeme full := readContent_eq_iff.mpr ⟨hsplit, hlawful⟩
  have hcontent : t.content = (readSigned boundary cs).content := by
    rw [hread, lexeme]
  have hlength : (readSigned boundary cs).source.length = t.span.stop - t.textStart := by
    rw [hread, lexeme, List.length_take, List.length_drop]
    omega
  obtain ⟨content, sign, ⟨start, stop⟩, textStart⟩ := t
  simp only [first, mk.injEq, Span.mk.injEq] at *
  exact ⟨hcontent, hsign, ⟨hstart, by omega⟩, htext⟩

end First

/-! ## Where tokens end -/

/-- The marks behind a phrase, with its closing quote, end with neither a blank nor a backslash. -/
theorem exists_last_of_marks {mark rest : List Char} {slop : Option Nat} {stemmed : Bool}
    (h : Marks mark rest slop stemmed) :
    ∃ front d, '"' :: mark = front ++ [d] ∧ isBlank d = false ∧ d ≠ '\\' := by
  cases h with
  | nothing _ => exact ⟨[], '"', rfl, by decide, by decide⟩
  | stemmed _ => exact ⟨['"'], '~', rfl, by decide, by decide⟩
  | @slop digits _ hne hrun =>
    have hlast := hrun.all _ (List.getLast_mem hne)
    refine ⟨'"' :: '~' :: digits.dropLast, digits.getLast hne, ?_, isBlank_of_isDigit hlast,
      ne_backslash_of_isDigit hlast⟩
    rw [List.cons_append, List.cons_append, List.dropLast_append_getLast hne]

/-- A phrase ends with neither a blank nor a backslash, and no other token can be followed
directly by other text. -/
theorem exists_last_of_lawful {boundary : Prop} {l : Lexeme} (h : l.Lawful boundary) {c : Char}
    (hc : l.rest.head? = some c) (hblank : isBlank c = false) :
    ∃ front d, l.source = front ++ [d] ∧ isBlank d = false ∧ d ≠ '\\' := by
  obtain ⟨content, source, rest⟩ := l
  obtain ⟨-, -, hmeaning⟩ := h
  simp only at hmeaning hc ⊢
  -- all but a phrase with a closing quote go on to a blank or to the end
  cases hmeaning with
  | word hspelling => exact absurd (hspelling.stops c hc) (by simp [wordEscaping, hblank])
  | unclosedPhrase hspelling => contradiction
  | @phrase ps mark _ slop stemmed hspelling hmarks =>
    obtain ⟨front, d, hmark, hd⟩ := exists_last_of_marks hmarks
    refine ⟨'"' :: (Piece.sources ps ++ front), d, ?_, hd⟩
    rw [hmark, List.cons_append, List.append_assoc]
  | bareValue hkey hspelling hsources hquote hchars =>
    exact absurd (hspelling.stops c hc) (by simp [wordEscaping, hblank])
  | unclosedValue hkey hspelling => contradiction
  | quotedValue hkey hspelling hsuffix => exact absurd (hsuffix.stops c hc) (by simp [hblank])

/-- A blank starts no token. -/
theorem source_readContent_blank {c : Char} (h : isBlank c = true) (boundary : Bool)
    (cs : List Char) : (readContent boundary (c :: cs)).source = [] := by
  have hquote : (c :: cs).head? ≠ some '"' := by
    rintro hc
    rw [List.head?_cons, Option.some.injEq] at hc
    subst hc
    exact absurd h (by decide)
  -- a blank is no quote, and no key starts with one, so it is left to a word, which is empty
  rw [readContent_word hquote, readWord_blank h]
  · rfl
  · rintro ⟨-, key, d, rest, hcs, ⟨hne, hkey⟩, -⟩
    obtain ⟨k, key, rfl⟩ := List.exists_cons_of_ne_nil hne
    obtain ⟨rfl, -⟩ := List.cons.inj hcs
    rw [isBlank_of_isKeyChar (hkey c (List.mem_cons_self ..))] at h
    contradiction

theorem sign?_blank {c : Char} (h : isBlank c = true) (cs : List Char) :
    sign? (c :: cs) = none := by
  cases hsign : sign? (c :: cs) with
  | none => rfl
  | some s =>
    obtain ⟨hc, -⟩ := sign?_eq_some_iff.mp hsign
    rw [List.getElem?_cons_zero, Option.some.injEq] at hc
    rw [hc, s.isBlank_char] at h
    contradiction

section First

variable {full cs : List Char} {pos : Nat} {c : Char}

/-- The last character of a token stands in front of where it ends. -/
theorem getElem?_last {t : Token} {front : List Char} {d : Char} (hlt : t.textStart < t.span.stop)
    (hle : t.span.stop ≤ full.length) (h : (t.lexeme full).source = front ++ [d]) :
    full[t.span.stop - 1]? = some d := by
  have hlength := congrArg List.length h
  simp only [lexeme, List.length_take, List.length_drop, List.length_append,
    List.length_singleton] at hlength
  have hlast : (t.lexeme full).source[front.length]? = some d := by
    rw [h]
    simp
  -- the last character of the source is one of the text, counted from where the source starts
  rw [lexeme, List.getElem?_take_of_lt (by omega), List.getElem?_drop] at hlast
  rw [← hlast]
  congr 1
  omega

/-- **Where a token can be followed directly.** In front of a token that starts right where
another one ends stands neither a blank nor a backslash. -/
theorem exists_last_of_followed {t : Token} {boundary : Prop}
    (h : (t.lexeme full).Lawful boundary) (hlt : t.textStart < t.span.stop)
    (hle : t.span.stop ≤ full.length) (hc : full[t.span.stop]? = some c)
    (hblank : isBlank c = false) :
    ∃ d, full[t.span.stop - 1]? = some d ∧ isBlank d = false ∧ d ≠ '\\' := by
  have hhead : (t.lexeme full).rest.head? = some c := by
    rw [lexeme, List.head?_drop, hc]
  obtain ⟨front, d, hsource, hd⟩ := exists_last_of_lawful h hhead hblank
  exact ⟨d, getElem?_last hlt hle hsource, hd⟩

theorem drop_stop_first (boundary : Bool) (hcs : full.drop pos = cs) :
    full.drop (first pos boundary cs).span.stop = (readSigned boundary cs).rest :=
  congrArg Lexeme.rest (lexeme_first boundary hcs)

/-- The first token is not empty and lies inside the text. -/
theorem bounds_first (boundary : Bool) (hcs : full.drop pos = c :: cs)
    (hc : isBlank c = false) :
    pos < (first pos boundary (c :: cs)).span.stop ∧
      (first pos boundary (c :: cs)).span.stop ≤ full.length := by
  obtain ⟨source, hsplit, hlength⟩ := readSigned_split boundary cs hc
  have hfull := congrArg List.length hcs
  have htext := congrArg List.length hsplit
  rw [List.length_drop] at hfull
  simp only [List.length_append, List.length_cons] at hfull htext hlength
  simp only [first, readSigned]
  omega

/-- The token of a blank would be empty. -/
theorem stop_first_blank (boundary : Bool) (hc : isBlank c = true) :
    (first pos boundary (c :: cs)).span.stop = pos := by
  simp only [first, readSigned, sign?_blank hc, signLength, Option.isSome_none, Bool.false_eq_true,
    if_false, List.drop_zero, source_readContent_blank hc, List.length_nil, Nat.add_zero]

/-- A token starts with a character that is not blank. -/
theorem Lawful.exists_start {t : Token} (h : t.Lawful full)
    (hlt : t.span.start < t.span.stop) (hle : t.span.stop ≤ full.length) :
    ∃ c, full[t.span.start]? = some c ∧ isBlank c = false := by
  obtain ⟨c, cs, hcs⟩ : ∃ c cs, full.drop t.span.start = c :: cs :=
    List.exists_cons_of_length_pos (by rw [List.length_drop]; omega)
  refine ⟨c, by rw [← List.head?_drop, hcs, List.head?_cons], ?_⟩
  -- a token at a blank would be empty
  by_contra hc
  classical
  have hfirst := eq_first_of_lawful h rfl hlt hle hcs
    (decide_eq_true_iff (p := AtBoundary full t.span.start))
  have hstop := congrArg (·.span.stop) hfirst
  simp only [stop_first_blank _ (Bool.not_eq_false _ ▸ hc)] at hstop
  omega

/-- Where other text follows a token directly there is no boundary. -/
theorem not_atBoundary_of_first {boundary : Bool} (hcs : full.drop pos = c :: cs)
    (hc : isBlank c = false) {d : Char}
    (hd : (readSigned boundary (c :: cs)).rest.head? = some d) (hblank : isBlank d = false) :
    ¬ AtBoundary full (first pos boundary (c :: cs)).span.stop := by
  obtain ⟨hlt, hle⟩ := bounds_first boundary hcs hc
  have hlawful : ((first pos boundary (c :: cs)).lexeme full).Lawful (boundary = true) := by
    rw [lexeme_first boundary hcs]
    exact lawful_readContent boundary _
  have hplaced : (first pos boundary (c :: cs)).textStart <
      (first pos boundary (c :: cs)).span.stop :=
    Nat.lt_add_of_pos_right (List.length_pos_iff.mpr (readSigned_source_ne_nil boundary cs hc))
  have hnext : full[(first pos boundary (c :: cs)).span.stop]? = some d := by
    rw [← List.head?_drop, drop_stop_first boundary hcs, hd]
  -- the token ends with a character that is not blank, and stands behind the start
  obtain ⟨e, hlast, he, -⟩ := exists_last_of_followed hlawful hplaced hle hnext hblank
  rintro (hzero | ⟨b, hb, hbb⟩)
  · omega
  · rw [hlast, Option.some.injEq] at hb
    rw [← hb, he] at hbb
    contradiction

end First

end Token

/-! ## The steps of a scan -/

namespace Tokenization

open Token

variable {full cs : List Char} {pos : Nat} {ts : List Token} {c : Char}

theorem nil_iff (hcs : full.drop pos = []) : Tokenization full pos ts ↔ ts = [] := by
  have hlength : full.length ≤ pos := List.drop_eq_nil_iff.mp hcs
  constructor
  · intro h
    refine List.eq_nil_iff_forall_not_mem.mpr fun t ht => ?_
    have := h.bounds t ht
    omega
  · rintro rfl
    refine ⟨by simp, List.Pairwise.nil, ?_, by simp⟩
    intro i c hi hc
    rw [List.getElem?_eq_none (by omega)] at hc
    contradiction

theorem getElem?_of_drop (hcs : full.drop pos = c :: cs) : full[pos]? = some c := by
  rw [← List.head?_drop, hcs, List.head?_cons]

/-- A blank is passed over. -/
theorem blank_iff (hcs : full.drop pos = c :: cs) (hc : isBlank c = true) :
    Tokenization full pos ts ↔ Tokenization full (pos + 1) ts := by
  constructor
  · intro h
    refine ⟨fun t ht => ?_, h.ordered, fun i d hi => h.covered i d (by omega), h.lawful⟩
    obtain ⟨hpos, hlt, hle⟩ := h.bounds t ht
    refine ⟨?_, hlt, hle⟩
    by_contra hstart
    -- the first token would have to start at the blank
    have hat : t.span.start = pos := by omega
    obtain ⟨d, hd, hblank⟩ := (h.lawful t ht).exists_start hlt hle
    rw [hat, getElem?_of_drop hcs, Option.some.injEq] at hd
    rw [← hd, hc] at hblank
    contradiction
  · intro h
    refine ⟨fun t ht => ?_, h.ordered, fun i d hi hd hblank => ?_, h.lawful⟩
    · have := h.bounds t ht
      omega
    · have hne : i ≠ pos := by
        rintro rfl
        rw [getElem?_of_drop hcs, Option.some.injEq] at hd
        rw [← hd, hc] at hblank
        contradiction
      exact h.covered i d (by omega) hd hblank

/-- A character that is not blank starts the token that the reader takes there. -/
theorem cons_iff {boundary : Bool} (hcs : full.drop pos = c :: cs) (hc : isBlank c = false)
    (hboundary : boundary = true ↔ AtBoundary full pos) :
    Tokenization full pos ts ↔ ∃ more, ts = first pos boundary (c :: cs) :: more ∧
      Tokenization full (first pos boundary (c :: cs)).span.stop more := by
  obtain ⟨hlt, hle⟩ := bounds_first boundary hcs hc
  constructor
  · intro h
    -- the token that holds the character starts with it, and so it is the first one
    obtain ⟨t, ht, hmem⟩ := h.covered pos c (Nat.le_refl pos) (getElem?_of_drop hcs) hc
    obtain ⟨u, more, rfl⟩ := List.exists_cons_of_ne_nil (List.ne_nil_of_mem ht)
    obtain ⟨hu, hmore⟩ := List.pairwise_cons.mp h.ordered
    obtain ⟨hupos, hult, hule⟩ := h.bounds u (List.mem_cons_self ..)
    rw [Span.mem_iff] at hmem
    have hstart : u.span.start = pos := by
      rcases List.mem_cons.mp ht with rfl | ht
      · omega
      · have := hu t ht
        omega
    have hfirst := eq_first_of_lawful (h.lawful u (List.mem_cons_self ..)) hstart hult hule hcs
      hboundary
    subst hfirst
    refine ⟨more, rfl, fun v hv => ?_, hmore, fun i d hi hd hblank => ?_, fun v hv =>
      h.lawful v (List.mem_cons_of_mem _ hv)⟩
    · have := h.bounds v (List.mem_cons_of_mem _ hv)
      exact ⟨hu v hv, this.2⟩
    · obtain ⟨v, hv, hiv⟩ := h.covered i d (by omega) hd hblank
      rcases List.mem_cons.mp hv with rfl | hv
      · rw [Span.mem_iff] at hiv
        omega
      · exact ⟨v, hv, hiv⟩
  · rintro ⟨more, rfl, h⟩
    refine ⟨?_, ?_, ?_, ?_⟩
    · rw [List.forall_mem_cons]
      refine ⟨⟨Nat.le_refl pos, hlt, hle⟩, fun v hv => ?_⟩
      have := h.bounds v hv
      omega
    · exact List.pairwise_cons.mpr ⟨fun v hv => (h.bounds v hv).1, h.ordered⟩
    · intro i d hi hd hblank
      by_cases hin : i < (first pos boundary (c :: cs)).span.stop
      · exact ⟨_, List.mem_cons_self .., hi, hin⟩
      · obtain ⟨v, hv, hiv⟩ := h.covered i d (by omega) hd hblank
        exact ⟨v, List.mem_cons_of_mem _ hv, hiv⟩
    · rw [List.forall_mem_cons]
      exact ⟨lawful_first hcs hboundary, h.lawful⟩

end Tokenization

/-! ## Main results -/

open Token in
/-- **The one tokenization.** From any offset on, the reader finds the one tokenization that the
rules allow. -/
theorem tokenization_iff {full : List Char} (pos : Nat) (boundary : Bool) (cs : List Char)
    (hcs : full.drop pos = cs)
    (hboundary : ∀ c, cs.head? = some c → isBlank c = false →
      (boundary = true ↔ AtBoundary full pos)) (ts : List Token) :
    Tokenization full pos ts ↔ ts = scan pos boundary cs := by
  fun_induction scan pos boundary cs generalizing ts with
  | case1 pos boundary => exact Tokenization.nil_iff hcs
  | case2 pos boundary c cs hc ih =>
    rw [Tokenization.blank_iff hcs hc]
    refine ih ?_ (fun d hd hblank => ?_) ts
    · rw [← List.drop_drop, hcs, List.drop_one, List.tail_cons]
    · exact iff_of_true rfl (.inr ⟨c, Tokenization.getElem?_of_drop hcs, hc⟩)
  | case3 pos boundary c cs hc sign textStart lexeme stop ih =>
    have hblank : isBlank c = false := by simpa using hc
    have hat := hboundary c rfl hblank
    rw [Tokenization.cons_iff hcs hblank hat]
    have hrest := ih (drop_stop_first boundary hcs) fun d hd hdblank =>
      iff_of_false (by simp) (not_atBoundary_of_first hcs hblank hd hdblank)
    -- what is left has one tokenization again, namely what the reader finds there
    constructor
    · rintro ⟨more, rfl, hmore⟩
      rw [(hrest more).mp hmore]
      rfl
    · rintro rfl
      exact ⟨_, rfl, (hrest _).mpr rfl⟩

/-- The tokens of a whole text are its one tokenization. -/
theorem tokenization_start_iff (full : List Char) (ts : List Token) :
    Tokenization full 0 ts ↔ ts = Token.scan 0 true full :=
  tokenization_iff 0 true full rfl (fun _ _ _ => iff_of_true rfl (.inl rfl)) ts

namespace Token

theorem tokenization_scan (full : List Char) : Tokenization full 0 (scan 0 true full) :=
  (tokenization_start_iff full _).mpr rfl

/-- A token of a text says what its source spells out. -/
theorem says_of_mem_scan {full : List Char} {t : Token} (ht : t ∈ scan 0 true full)
    {content : Content} (hcontent : t.content = content) :
    content.Says ((full.drop t.textStart).take (t.span.stop - t.textStart))
      (full.drop t.span.stop) := by
  rw [← hcontent]
  exact ((tokenization_scan full).lawful t ht).lexeme.meaning

theorem ofText_of_length_le (text : String) (h : text.toList.length ≤ 2048) :
    ofText text = .ok (scan 0 true text.toList) := by
  have hnot : ¬ text.toList.length > hardLengthLimit := Nat.not_lt.mpr h
  rw [ofText, checkedChars_eq, if_neg hnot]
  rfl

/-- **Tokens are what the rules say.** A query of at most 2048 characters has tokens, and of all
lists of tokens, these and no others keep to the rules: their spans are not empty, in
order and apart, and hold every character that is not blank; a token has a sign exactly if
it starts with one that is directly followed by other text; it is a phrase exactly if a
quote stands behind the sign, else a candidate for a directive exactly if it stands at a
boundary and looks like one, and else a word; and what it says is spelled out by its source,
in which a backslash always forms a pair with a character that it can make literal. -/
theorem ofText_eq_iff (text : String) (h : text.toList.length ≤ 2048) :
    ∃ tokens, ofText text = .ok tokens ∧
      ∀ ts, Tokenization text.toList 0 ts ↔ ts = tokens := by
  refine ⟨scan 0 true text.toList, ?_, fun ts => ?_⟩
  · have hnot : ¬ text.toList.length > hardLengthLimit := Nat.not_lt.mpr h
    rw [ofText, checkedChars_eq, if_neg hnot]
    rfl
  · exact tokenization_start_iff text.toList ts

/-- The rules leave no choice either where signs, marks, quotes and escapes meet. -/
theorem ofText_eq_iff_of_escapes :
    "+a\\\\ b\\ -\"c\\\"d\"~2e incategory:\"Old dogs\"s x:y\\\" - \"z\\".toList.length ≤ 2048 ∧
      ∃ tokens,
        ofText "+a\\\\ b\\ -\"c\\\"d\"~2e incategory:\"Old dogs\"s x:y\\\" - \"z\\" = .ok tokens ∧
        ∀ ts, Tokenization
          "+a\\\\ b\\ -\"c\\\"d\"~2e incategory:\"Old dogs\"s x:y\\\" - \"z\\".toList 0 ts ↔
            ts = tokens :=
  ⟨by decide, ofText_eq_iff _ (by decide)⟩

end Token

end WikiSearch
