import Mathlib.Data.List.Basic
import WikiSearch.Text.Split
import WikiSearch.Toml.Printer
import WikiSearch.Toml.Text

/-!
# WikiSearch — written texts read back

A text is written between one of four kinds of quotes, and each kind has its own way to be read.
Whatever the text is, and whatever stands behind it as long as it is no quote, reading takes the
written text off the front and gives the text.

Between double quotes the argument goes by characters: every character is written so that it
reads as itself. Double quotes in a text of several lines are the exception, since how one of
them is read depends on how many follow. There the run of quotes right in front is carried
along (`readBasicLines_escapedText`).

Main results:

* `readText?_writtenText` — a written text reads back.
* `isAllowed_writtenText` — and it may stand in a file.
-/

namespace WikiSearch.Toml

/-- Whether a character is a quote of one of the two kinds. -/
def isQuote (c : Char) : Bool := c = '"' || c = '\''

/-- Something follows that cannot belong to a text in front of it. -/
def NoQuote (rest : List Char) : Prop := ∀ c ∈ rest.head?, isQuote c = false

/-! ## Characters -/

/-- What may not stand in a file are the control characters. -/
theorem isAllowed_iff {c : Char} : isAllowed c = true ↔ isControl c = false := by
  have htab : ¬ ' ' ≤ '\t' := by decide
  have hfeed : ¬ ' ' ≤ '\n' := by decide
  have hdel : ('\x7f' : Char) ≠ '\t' ∧ ('\x7f' : Char) ≠ '\n' := by decide
  simp only [isAllowed, isControl, Bool.or_eq_true, Bool.and_eq_true, Bool.or_eq_false_iff,
    Bool.and_eq_false_iff, decide_eq_true_eq, decide_eq_false_iff_not, Char.not_lt, ne_eq]
  grind

/-- Between the blank and the last of the visible characters all may stand in a file. -/
theorem isAllowed_of_between {low high c : Char} (hlow : ' ' ≤ low) (hhigh : high < '\x7f')
    (h : low ≤ c) (h' : c ≤ high) : isAllowed c = true := by
  have hspace : ' ' ≤ c := Char.le_trans hlow h
  have hdel : c ≠ '\x7f' := by
    rintro rfl
    exact absurd h' (Char.not_le.mpr hhigh)
  simp [isAllowed, hspace, hdel]

/-- A number below 128 is read from its two digits. -/
theorem numbered?_lt :
    ∀ n < 128, numbered? ['0', '0', upperHexDigit (n / 16), upperHexDigit (n % 16)] =
      some (Char.ofNat n) := by
  decide

theorem toNat_lt_of_isControl {c : Char} (h : isControl c = true) : c.toNat < 128 := by
  simp only [isControl, Bool.or_eq_true, Bool.and_eq_true, decide_eq_true_eq] at h
  rcases h with ⟨⟨hspace, -⟩, -⟩ | rfl
  · have hval : c.toNat < ' '.toNat := hspace
    exact Nat.lt_trans hval (by decide)
  · decide

/-- A control character is read from its number. -/
theorem numbered?_of_isControl {c : Char} (h : isControl c = true) :
    numbered? ['0', '0', upperHexDigit (c.toNat / 16), upperHexDigit (c.toNat % 16)] = some c := by
  rw [numbered?_lt c.toNat (toNat_lt_of_isControl h), Char.ofNat_toNat]

/-- How a character is written: by a letter or its number behind a backslash, or as it is. -/
theorem escapedChar_cases (lines : Bool) (c : Char) :
    (∃ d, lettered? d = some c ∧ d ∉ ['x', 'u', 'U', ' ', '\t', '\n', '\r'] ∧
      isAllowed d = true ∧ escapedChar lines c = ['\\', d]) ∨
    (isControl c = true ∧ escapedChar lines c =
      ['\\', 'u', '0', '0', upperHexDigit (c.toNat / 16), upperHexDigit (c.toNat % 16)]) ∨
    (isControl c = false ∧ c ≠ '\\' ∧ (c = '\n' → lines = true) ∧ escapedChar lines c = [c]) := by
  unfold escapedChar
  split
  case isTrue h => exact .inl ⟨'b', by rw [h]; rfl, by decide, by decide, rfl⟩
  split
  case isTrue h => exact .inl ⟨'t', by rw [h]; rfl, by decide, by decide, rfl⟩
  split
  case isTrue h => exact .inl ⟨'n', by rw [h.1]; rfl, by decide, by decide, rfl⟩
  split
  case isTrue h => exact .inl ⟨'f', by rw [h]; rfl, by decide, by decide, rfl⟩
  split
  case isTrue h => exact .inl ⟨'r', by rw [h]; rfl, by decide, by decide, rfl⟩
  split
  case isTrue h => exact .inl ⟨'\\', by rw [h]; rfl, by decide, by decide, rfl⟩
  split
  -- the control characters that have no letter of their own
  case isTrue h => exact .inr (.inl ⟨h, rfl⟩)
  case isFalse hnewline _ _ hbackslash hcontrol =>
    refine .inr (.inr ⟨Bool.eq_false_iff.mpr hcontrol, hbackslash, fun hc => ?_, rfl⟩)
    simpa [hc] using hnewline

/-! ## Double quotes -/

/-- Behind a backslash, a letter that does not announce a number stands for a character. -/
theorem readBasic_letter {d : Char} (h : d ∉ ['x', 'u', 'U', ' ', '\t', '\n', '\r'])
    (cs : List Char) :
    readBasic ('\\' :: d :: cs) = pushChar (lettered? d) (readBasic cs) := by
  simp only [List.mem_cons, not_or] at h
  rw [readBasic]
  all_goals simp_all

/-- Any other character reads as itself, unless it ends the line. -/
theorem readBasic_plain {c : Char} (hquote : c ≠ '"') (hbackslash : c ≠ '\\')
    (hend : isLineEnd c = false) (cs : List Char) :
    readBasic (c :: cs) = pushChar (some c) (readBasic cs) := by
  rw [readBasic]
  all_goals simp_all

/-- Apart from the line feed, only a control character ends a line. -/
theorem isLineEnd_of_isControl {c : Char} (h : isControl c = false) (hfeed : c ≠ '\n') :
    isLineEnd c = false := by
  have hreturn : c ≠ '\r' := by
    rintro rfl
    exact absurd h (by decide)
  simp [isLineEnd, hfeed, hreturn]

/-- **One character** between double quotes reads as itself. -/
theorem readBasic_escapedChar {c : Char} (hquote : c ≠ '"') (cs : List Char) :
    readBasic (escapedChar false c ++ cs) = pushChar (some c) (readBasic cs) := by
  -- a letter, a number or the character itself, and none of them ends the text
  rcases escapedChar_cases false c with
    ⟨d, hletter, hd, -, hwritten⟩ | ⟨hcontrol, hwritten⟩ | ⟨hcontrol, hbackslash, hfeed, hwritten⟩
  · rw [hwritten, ← hletter]
    exact readBasic_letter hd cs
  · rw [hwritten, ← numbered?_of_isControl hcontrol]
    rfl
  · rw [hwritten]
    have hend := isLineEnd_of_isControl hcontrol fun hc => absurd (hfeed hc) (by decide)
    exact readBasic_plain hquote hbackslash hend cs

/-- A character that is no quote ends the run of quotes in front of it. -/
theorem escapedText_cons (lines : Bool) (run : Nat) {c : Char} (h : c ≠ '"') (cs : List Char) :
    escapedText lines run (c :: cs) = escapedChar lines c ++ escapedText lines 0 cs := by
  rw [escapedText]
  simpa using h

/-- A text between double quotes reads back. -/
theorem readBasic_escapedText (cs rest : List Char) :
    readBasic (escapedText false 0 cs ++ '"' :: rest) = some (cs, rest) := by
  induction cs with
  | nil => rfl
  | cons c cs ih =>
    -- a quote is escaped in any case
    by_cases hquote : c = '"'
    · subst hquote
      show pushChar (some '"') (readBasic (escapedText false 0 cs ++ '"' :: rest)) = _
      rw [ih]
      rfl
    · rw [escapedText_cons _ _ hquote, List.append_assoc, readBasic_escapedChar hquote, ih]
      rfl

/-! ## Three double quotes -/

theorem readBasicLines_letter {d : Char} (h : d ∉ ['x', 'u', 'U', ' ', '\t', '\n', '\r'])
    (cs : List Char) :
    readBasicLines false ('\\' :: d :: cs) =
      pushChar (lettered? d) (readBasicLines false cs) := by
  simp only [List.mem_cons, not_or] at h
  -- the backslash does not stand at the end of a line
  have hblank : blankLine (d :: cs) = false := by
    have hspace : isSpace d = false := by simp [isSpace, h]
    simp [blankLine, skipSpaces, hspace, isLineEnd, h]
  rw [readBasicLines]
  all_goals simp_all

theorem readBasicLines_plain {c : Char} (hquote : c ≠ '"') (hbackslash : c ≠ '\\')
    (cs : List Char) :
    readBasicLines false (c :: cs) = pushChar (some c) (readBasicLines false cs) := by
  rw [readBasicLines]
  all_goals simp_all

/-- One character between three double quotes reads as itself. -/
theorem readBasicLines_escapedChar {c : Char} (hquote : c ≠ '"') (cs : List Char) :
    readBasicLines false (escapedChar true c ++ cs) =
      pushChar (some c) (readBasicLines false cs) := by
  rcases escapedChar_cases true c with
    ⟨d, hletter, hd, -, hwritten⟩ | ⟨hcontrol, hwritten⟩ | ⟨-, hbackslash, -, hwritten⟩
  · rw [hwritten, ← hletter]
    exact readBasicLines_letter hd cs
  · rw [hwritten, ← numbered?_of_isControl hcontrol]
    rfl
  · rw [hwritten]
    exact readBasicLines_plain hquote hbackslash cs

/-- Nothing but a quote is written with a quote in front, and nothing but a line feed with a line
end. -/
theorem exists_escapedChar_eq_cons {c : Char} (hquote : c ≠ '"') (lines : Bool) :
    ∃ d ds, escapedChar lines c = d :: ds ∧ d ≠ '"' ∧ (isLineEnd d = true → c = '\n') := by
  rcases escapedChar_cases lines c with
    ⟨d, -, -, -, hwritten⟩ | ⟨-, hwritten⟩ | ⟨hcontrol, -, -, hwritten⟩
  · exact ⟨'\\', [d], hwritten, by decide, fun hend => absurd hend (by decide)⟩
  · exact ⟨'\\', _, hwritten, by decide, fun hend => absurd hend (by decide)⟩
  · refine ⟨c, [], hwritten, hquote, fun hend => ?_⟩
    by_contra hfeed
    exact absurd hend (Bool.eq_false_iff.mp (isLineEnd_of_isControl hcontrol hfeed))

/-- A quote that is not the first of three is part of the text. -/
theorem readBasicLines_quote {cs : List Char} (h : ∀ tail, cs ≠ '"' :: '"' :: tail) :
    readBasicLines false ('"' :: cs) = pushChar (some '"') (readBasicLines false cs) := by
  rw [readBasicLines]
  all_goals simp_all

/-- A run of less than three quotes that something else follows is part of the text. -/
theorem readBasicLines_run {run : Nat} (hrun : run ≤ 2) {d : Char} (hd : d ≠ '"')
    {ds text rest : List Char} (h : readBasicLines false (d :: ds) = some (text, rest)) :
    readBasicLines false (List.replicate run '"' ++ d :: ds) =
      some (List.replicate run '"' ++ text, rest) := by
  -- a quote in front of another character is part of the text
  have hone : readBasicLines false ('"' :: d :: ds) = some ('"' :: text, rest) := by
    rw [readBasicLines_quote (by simp [hd]), h]
    rfl
  match run, hrun with
  | 0, _ => exact h
  | 1, _ => exact hone
  | 2, _ =>
    show readBasicLines false ('"' :: '"' :: d :: ds) = some ('"' :: '"' :: text, rest)
    rw [readBasicLines_quote (by simp [hd]), hone]
    rfl

/-- A run of less than three quotes in front of the closing ones is part of the text. -/
theorem readBasicLines_close {run : Nat} (hrun : run ≤ 2) {rest : List Char} (h : NoQuote rest) :
    readBasicLines false (List.replicate run '"' ++ ['"', '"', '"'] ++ rest) =
      some (List.replicate run '"', rest) := by
  have hhead : ∀ tail, rest ≠ '"' :: tail := by
    rintro tail rfl
    exact absurd (h '"' rfl) (by decide)
  -- up to two quotes more than the three that close the text belong to it
  match run, hrun with
  | 0, _ =>
    show readBasicLines false ('"' :: '"' :: '"' :: rest) = _
    rw [readBasicLines]
    all_goals simp_all
  | 1, _ =>
    show readBasicLines false ('"' :: '"' :: '"' :: '"' :: rest) = _
    rw [readBasicLines]
    all_goals simp_all
  | 2, _ => rfl

/-- **A text between three double quotes.** The quotes right in front, of which there are less
than three, count towards the text: what they are is known only when the run ends. -/
theorem readBasicLines_escapedText {run : Nat} (hrun : run ≤ 2) (cs : List Char)
    {rest : List Char} (h : NoQuote rest) :
    readBasicLines false
      (List.replicate run '"' ++ escapedText true run cs ++ ['"', '"', '"'] ++ rest) =
      some (List.replicate run '"' ++ cs, rest) := by
  induction cs generalizing run with
  | nil => simpa [escapedText] using readBasicLines_close hrun h
  | cons c cs ih =>
    have hnext := ih (Nat.zero_le 2)
    by_cases hquote : c = '"'
    · subst hquote
      by_cases hmore : run < 2
      · -- the quote stands as it is and makes the run longer
        have hlonger := ih (show run + 1 ≤ 2 by omega)
        rw [List.replicate_succ', List.append_assoc, List.append_assoc] at hlonger
        simpa [escapedText, hmore] using hlonger
      · -- the third quote in a row is escaped, so the two in front of it close nothing
        have hescape := readBasicLines_letter (d := '"') (by decide)
          (escapedText true 0 cs ++ ['"', '"', '"'] ++ rest)
        rw [List.replicate_zero, List.nil_append] at hnext
        rw [hnext] at hescape
        rw [escapedText, if_neg (fun hboth => hmore hboth.2)]
        simp only [List.append_assoc, List.cons_append] at hescape ⊢
        exact readBasicLines_run hrun (by decide) hescape
    · -- what follows the run is no quote, so the run stands as it is
      obtain ⟨d, ds, hwritten, hd, -⟩ := exists_escapedChar_eq_cons hquote true
      have hread := readBasicLines_escapedChar hquote
        (escapedText true 0 cs ++ ['"', '"', '"'] ++ rest)
      rw [List.replicate_zero, List.nil_append] at hnext
      rw [hnext, hwritten] at hread
      rw [escapedText_cons _ _ hquote, hwritten]
      simp only [List.append_assoc, List.cons_append] at hread ⊢
      exact readBasicLines_run hrun hd hread

/-! ## Single quotes -/

/-- A text without single quotes and line ends stops at the first single quote behind it. -/
theorem readLiteral_append {cs : List Char} (hquote : '\'' ∉ cs)
    (hends : ∀ c ∈ cs, isLineEnd c = false) (rest : List Char) :
    readLiteral (cs ++ '\'' :: rest) = some (cs, rest) := by
  induction cs with
  | nil => rfl
  | cons c cs ih =>
    rw [List.mem_cons, not_or] at hquote
    rw [List.forall_mem_cons] at hends
    rw [List.cons_append, readLiteral, if_neg (by simp [hends.1]), ih hquote.2 hends.2]
    · rfl
    · exact fun hc => hquote.1 hc.symm

/-- What is not the first of three single quotes is part of the text. -/
theorem readLiteralLines_cons {c : Char} {cs : List Char}
    (h : ∀ tail, c :: cs ≠ '\'' :: '\'' :: '\'' :: tail) :
    readLiteralLines (c :: cs) = pushChar (some c) (readLiteralLines cs) := by
  rw [readLiteralLines]
  all_goals simp_all

/-- A text without three single quotes in a row ends at the first three behind it. -/
theorem readLiteralLines_append {cs : List Char} (htriple : hasTriple '\'' cs = false)
    {rest : List Char} (h : NoQuote rest) :
    readLiteralLines (cs ++ ['\'', '\'', '\''] ++ rest) = some (cs, rest) := by
  have hhead : ∀ tail, rest ≠ '\'' :: tail := by
    rintro tail rfl
    exact absurd (h '\'' rfl) (by decide)
  have hclose : readLiteralLines ('\'' :: '\'' :: '\'' :: rest) = some ([], rest) := by
    rw [readLiteralLines]
    all_goals simp_all
  have hone : ∀ c, readLiteralLines (c :: '\'' :: '\'' :: '\'' :: rest) = some ([c], rest) := by
    intro c
    by_cases hc : c = '\''
    · subst hc
      rw [readLiteralLines]
      all_goals simp_all
    · rw [readLiteralLines_cons (by simp [hc]), hclose]
      rfl
  fun_induction hasTriple '\'' cs with
  | case1 a b d cs ih =>
    rw [Bool.or_eq_false_iff] at htriple
    -- the first three characters are not all quotes
    show readLiteralLines (a :: b :: d :: (cs ++ ['\'', '\'', '\''] ++ rest)) = _
    rw [readLiteralLines_cons (by rintro tail ⟨⟩; simp at htriple)]
    show pushChar _ (readLiteralLines (b :: d :: cs ++ ['\'', '\'', '\''] ++ rest)) = _
    rw [ih htriple.2]
    rfl
  | case2 cs hshort =>
    -- at most two characters are left, and quotes among them run into the closing ones
    match cs, hshort with
    | [], _ => exact hclose
    | [a], _ => exact hone a
    | a :: b :: d :: tail, hshort => exact absurd rfl (hshort a b d tail)
    | [a, b], _ =>
      show readLiteralLines (a :: b :: '\'' :: '\'' :: '\'' :: rest) = some ([a, b], rest)
      by_cases hboth : a = '\'' ∧ b = '\''
      · rw [hboth.1, hboth.2]
        rfl
      · rw [readLiteralLines_cons (by simpa using hboth), hone]
        rfl

/-! ## The quotes that are picked -/

/-- Single quotes are picked only for a text that they fit. -/
theorem fit_of_pick {cs : List Char} {q : Quotes} (h : Quotes.pick cs = q)
    (hliteral : q = .literal ∨ q = .literalLines) : q.fit cs = true := by
  rw [Quotes.pick] at h
  cases hfind : ([.basic, .literal, .basicLines, .literalLines] : List Quotes).find? (·.fit cs) with
  | some q' =>
    -- what is found fits
    rw [hfind] at h
    obtain rfl : q' = q := h
    exact List.find?_some (p := fun q : Quotes => q.fit cs) hfind
  | none =>
    -- without a fit the quotes are double ones
    rw [hfind, Option.getD_none] at h
    rcases hliteral with rfl | rfl <;> split at h <;> contradiction

theorem fit_literal_iff {cs : List Char} :
    Quotes.literal.fit cs = true ↔
      (∀ c ∈ cs, isControl c = false) ∧ '\'' ∉ cs ∧ '\n' ∉ cs := by
  simp [Quotes.fit]

theorem fit_literalLines_iff {cs : List Char} :
    Quotes.literalLines.fit cs = true ↔
      (∀ c ∈ cs, isControl c = false) ∧ hasTriple '\'' cs = false := by
  simp [Quotes.fit]

/-! ## Texts -/

theorem dropLineEnd_of_head {cs : List Char} (h : ∀ c ∈ cs.head?, isLineEnd c = false) :
    dropLineEnd cs = cs := by
  unfold dropLineEnd
  split
  · exact absurd (h '\n' rfl) (by decide)
  · exact absurd (h '\r' rfl) (by decide)
  · rfl

/-- The line end behind the opening quotes is dropped, and no other. -/
theorem dropLineEnd_openingLine {cs written : List Char}
    (h : '\n' ∉ cs → ∀ c ∈ written.head?, isLineEnd c = false) :
    dropLineEnd (openingLine cs ++ written) = written := by
  rw [openingLine]
  by_cases hfeed : '\n' ∈ cs
  · rw [if_pos (by simpa using hfeed)]
    rfl
  · rw [if_neg (by simpa using hfeed)]
    exact dropLineEnd_of_head (h hfeed)

/-- What is written for a text starts with a quote or a line end only if quotes and line ends
stand in it as they are. -/
theorem exists_escapedText_eq_cons (lines : Bool) (c : Char) (cs : List Char) :
    ∃ d ds, escapedText lines 0 (c :: cs) = d :: ds ∧ (d = '"' → lines = true) ∧
      (isLineEnd d = true → c = '\n') := by
  by_cases hquote : c = '"'
  · subst hquote
    -- between three quotes a quote may stand as it is, and otherwise it is escaped
    cases lines with
    | true => exact ⟨'"', _, rfl, fun _ => rfl, fun hend => absurd hend (by decide)⟩
    | false =>
      exact ⟨'\\', _, rfl, fun h => absurd h (by decide), fun hend => absurd hend (by decide)⟩
  · obtain ⟨d, ds, hwritten, hd, hend⟩ := exists_escapedChar_eq_cons hquote lines
    rw [escapedText_cons _ _ hquote, hwritten]
    exact ⟨d, _, rfl, fun h => absurd h hd, hend⟩

section Texts

variable {cs rest : List Char}

/-- Two quotes in front of what follows mean that there is no text between them. -/
theorem readText?_basic (h : NoQuote rest) :
    readText? ('"' :: escapedText false 0 cs ++ ['"'] ++ rest) = some (cs, rest) := by
  -- these are not the first two of three quotes
  have hone : ∀ tail, escapedText false 0 cs ++ '"' :: rest ≠ '"' :: '"' :: tail := by
    intro tail htail
    cases cs with
    | nil =>
      obtain ⟨-, rfl⟩ := List.cons.inj htail
      exact absurd (h '"' rfl) (by decide)
    | cons c cs =>
      obtain ⟨d, ds, hwritten, hd, -⟩ := exists_escapedText_eq_cons false c cs
      rw [hwritten] at htail
      exact absurd (hd (List.cons.inj htail).1) (by decide)
  rw [List.append_assoc, List.singleton_append, List.cons_append, readText?]
  · exact readBasic_escapedText cs rest
  · simpa using hone

/-- A text between single quotes reads back. -/
theorem readText?_literal (hfit : Quotes.literal.fit cs = true) (h : NoQuote rest) :
    readText? ('\'' :: cs ++ ['\''] ++ rest) = some (cs, rest) := by
  obtain ⟨hcontrol, hquote, hfeed⟩ := fit_literal_iff.mp hfit
  have hends : ∀ c ∈ cs, isLineEnd c = false := by
    intro c hc
    refine isLineEnd_of_isControl (hcontrol c hc) ?_
    rintro rfl
    exact hfeed hc
  -- these are not the first two of three quotes
  have hone : ∀ tail, cs ++ '\'' :: rest ≠ '\'' :: '\'' :: tail := by
    intro tail htail
    cases cs with
    | nil =>
      obtain ⟨-, rfl⟩ := List.cons.inj htail
      exact absurd (h '\'' rfl) (by decide)
    | cons c cs =>
      rw [(List.cons.inj htail).1] at hquote
      exact absurd (List.mem_cons_self ..) hquote
  rw [List.append_assoc, List.singleton_append, List.cons_append, readText?]
  · exact readLiteral_append hquote hends rest
  · simpa using hone

/-- A text between three double quotes reads back. -/
theorem readText?_basicLines (h : NoQuote rest) :
    readText? (['"', '"', '"'] ++ openingLine cs ++ escapedText true 0 cs ++ ['"', '"', '"']
      ++ rest) = some (cs, rest) := by
  have hread := readBasicLines_escapedText (Nat.zero_le 2) cs h
  -- a line end is written behind the opening quotes exactly if the text has one itself
  have hdrop : dropLineEnd (openingLine cs ++ (escapedText true 0 cs ++ ['"', '"', '"'] ++ rest)) =
      escapedText true 0 cs ++ ['"', '"', '"'] ++ rest := by
    refine dropLineEnd_openingLine fun hfeed => ?_
    cases cs with
    | nil => exact Text.forall_mem_head?_cons (c := '"') (by decide) _
    | cons c cs =>
      obtain ⟨d, ds, hwritten, -, hend⟩ := exists_escapedText_eq_cons true c cs
      rw [hwritten]
      refine Text.forall_mem_head?_cons (Bool.eq_false_iff.mpr fun h => hfeed ?_) _
      rw [hend h]
      exact List.mem_cons_self ..
  simp only [List.replicate_zero, List.append_assoc, List.cons_append, List.nil_append]
    at hdrop hread ⊢
  rw [readText?, hdrop]
  exact hread

/-- A text between three single quotes reads back. -/
theorem readText?_literalLines (hfit : Quotes.literalLines.fit cs = true) (h : NoQuote rest) :
    readText? (['\'', '\'', '\''] ++ openingLine cs ++ cs ++ ['\'', '\'', '\''] ++ rest) =
      some (cs, rest) := by
  obtain ⟨hcontrol, htriple⟩ := fit_literalLines_iff.mp hfit
  have hread := readLiteralLines_append htriple h
  -- a line end is written behind the opening quotes exactly if the text has one itself
  have hdrop : dropLineEnd (openingLine cs ++ (cs ++ ['\'', '\'', '\''] ++ rest)) =
      cs ++ ['\'', '\'', '\''] ++ rest := by
    refine dropLineEnd_openingLine fun hfeed => ?_
    cases cs with
    | nil => exact Text.forall_mem_head?_cons (c := '\'') (by decide) _
    | cons c cs =>
      refine Text.forall_mem_head?_cons ?_ _
      refine isLineEnd_of_isControl (hcontrol c (List.mem_cons_self ..)) ?_
      rintro rfl
      exact hfeed (List.mem_cons_self ..)
  simp only [List.append_assoc, List.cons_append, List.nil_append] at hdrop hread ⊢
  rw [readText?, hdrop]
  exact hread

end Texts

/-- **A written text reads back.** -/
theorem readText?_writtenText (cs : List Char) {rest : List Char} (h : NoQuote rest) :
    readText? (writtenText cs ++ rest) = some (cs, rest) := by
  unfold writtenText
  cases hpick : Quotes.pick cs with
  | basic => exact readText?_basic h
  | literal => exact readText?_literal (fit_of_pick hpick (.inl rfl)) h
  | basicLines => exact readText?_basicLines h
  | literalLines => exact readText?_literalLines (fit_of_pick hpick (.inr rfl)) h

/-- Whatever quotes are picked, the text starts with one. -/
theorem exists_writtenText_eq_cons (cs : List Char) :
    ∃ q tail, writtenText cs = q :: tail ∧ isQuote q = true := by
  unfold writtenText
  cases Quotes.pick cs with
  | basic => exact ⟨'"', _, rfl, rfl⟩
  | literal => exact ⟨'\'', _, rfl, rfl⟩
  | basicLines => exact ⟨'"', _, rfl, rfl⟩
  | literalLines => exact ⟨'\'', _, rfl, rfl⟩

/-! ## What may stand in a file -/

theorem isAllowed_upperHexDigit : ∀ n < 16, isAllowed (upperHexDigit n) = true := by
  decide

/-- A written character may stand in a file. -/
theorem isAllowed_escapedChar (lines : Bool) (c : Char) :
    (escapedChar lines c).all isAllowed = true := by
  rcases escapedChar_cases lines c with
    ⟨e, -, -, hallowed, hwritten⟩ | ⟨hcontrol, hwritten⟩ | ⟨hcontrol, -, -, hwritten⟩
  · rw [hwritten, List.all_cons, List.all_cons, hallowed]
    rfl
  · -- the number of a control character is written in hexadecimal digits
    have hlt := toNat_lt_of_isControl hcontrol
    have hhigh := isAllowed_upperHexDigit (c.toNat / 16) (by omega)
    have hlow := isAllowed_upperHexDigit (c.toNat % 16) (by omega)
    simp only [hwritten, List.all_cons, hhigh, hlow]
    rfl
  · rw [hwritten, List.all_cons, isAllowed_iff.mpr hcontrol]
    rfl

/-- A text with its escapes may stand in a file. -/
theorem isAllowed_escapedText (lines : Bool) (run : Nat) (cs : List Char) :
    (escapedText lines run cs).all isAllowed = true := by
  induction cs generalizing run with
  | nil => rfl
  | cons c cs ih =>
    by_cases hquote : c = '"'
    · subst hquote
      rw [escapedText]
      split
      · exact ih (run + 1)
      · exact ih 0
    · rw [escapedText_cons _ _ hquote, List.all_append, isAllowed_escapedChar, ih]
      rfl

theorem isAllowed_openingLine (cs : List Char) : (openingLine cs).all isAllowed = true := by
  rw [openingLine]
  split <;> rfl

/-- A text that needs no escapes may stand in a file. -/
theorem all_isAllowed_of_isControl {cs : List Char} (h : ∀ c ∈ cs, isControl c = false) :
    cs.all isAllowed = true := by
  rw [List.all_eq_true]
  intro c hc
  exact isAllowed_iff.mpr (h c hc)

/-- A written text holds no character that may not stand in a file. -/
theorem isAllowed_writtenText (cs : List Char) : (writtenText cs).all isAllowed = true := by
  unfold writtenText
  -- single quotes are picked for texts without control characters, and double ones escape these
  cases hpick : Quotes.pick cs with
  | basic =>
    show (('"' :: escapedText false 0 cs) ++ ['"']).all isAllowed = true
    rw [List.all_append, List.all_cons, isAllowed_escapedText]
    rfl
  | literal =>
    obtain ⟨hcontrol, -, -⟩ := fit_literal_iff.mp (fit_of_pick hpick (.inl rfl))
    show (('\'' :: cs) ++ ['\'']).all isAllowed = true
    rw [List.all_append, List.all_cons, all_isAllowed_of_isControl hcontrol]
    rfl
  | basicLines =>
    simp only [List.all_append, isAllowed_openingLine, isAllowed_escapedText]
    rfl
  | literalLines =>
    obtain ⟨hcontrol, -⟩ := fit_literalLines_iff.mp (fit_of_pick hpick (.inr rfl))
    simp only [List.all_append, isAllowed_openingLine, all_isAllowed_of_isControl hcontrol]
    rfl

end WikiSearch.Toml
