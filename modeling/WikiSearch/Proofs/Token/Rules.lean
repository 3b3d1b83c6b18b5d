import WikiSearch.Proofs.Token.Spelling

/-!
# WikiSearch — the rules for a single token

What may stand behind the sign of a token, stated as rules about the text and not as a way
to read it: which of the three kinds of content it is (`Lexeme.Lawful`), and for each kind
how far it goes and what it says (`Content.Says`). A lawful lexeme knows the text that
follows it, since most of the rules say where a token ends.

The rules allow exactly one lexeme at the front of every text, and the reader finds it.

Main results:

* `readCandidate?_isSome_iff` — when a text starts with a candidate for a directive.
* `says_readContent` — what the reader takes keeps to the rules.
* `readContent_eq_iff` — it is the only lexeme that does.
-/

namespace WikiSearch

open Text Piece

/-! ## Runs of characters -/

/-- A longest run of characters with a property. -/
structure IsRun (p : Char → Bool) (run rest : List Char) : Prop where
  all : ∀ c ∈ run, p c = true
  stops : ∀ c, rest.head? = some c → p c = false

theorem isRun_readWhile (p : Char → Bool) (cs : List Char) :
    IsRun p (readWhile p cs).source (readWhile p cs).rest where
  all _ hc := List.mem_takeWhile_imp hc
  stops c hc := by
    have hnot := List.head?_dropWhile_not p cs
    rw [show cs.dropWhile p = (readWhile p cs).rest from rfl, hc] at hnot
    simpa using hnot

theorem readWhile_of_isRun {p : Char → Bool} {run rest : List Char} (h : IsRun p run rest) :
    readWhile p (run ++ rest) = ⟨run, run, rest⟩ := by
  have htake : rest.takeWhile p = [] := by
    cases rest with
    | nil => rfl
    | cons c rest => simp [h.stops c rfl]
  have hdrop : rest.dropWhile p = rest := by
    cases rest with
    | nil => rfl
    | cons c rest => simp [h.stops c rfl]
  simp only [readWhile, List.takeWhile_append_of_pos h.all, List.dropWhile_append_of_pos h.all,
    htake, hdrop, List.append_nil]

/-! ## The rules -/

/-- What may stand behind the closing quote of a phrase, and the slop and the stemming that it
means. -/
inductive Marks : List Char → List Char → Option Nat → Bool → Prop where
  | nothing {rest : List Char} : rest.head? ≠ some '~' → Marks [] rest none false
  | stemmed {rest : List Char} : IsRun isDigit [] rest → Marks ['~'] rest none true
  /-- A number that is too large stands for the largest slop. -/
  | slop {digits rest : List Char} : digits ≠ [] → IsRun isDigit digits rest →
      Marks ('~' :: digits) rest (some (min (digitsValue digits) maxSlop)) false

/-- Whether a text can name a keyword. -/
def IsKey (key : List Char) : Prop := key ≠ [] ∧ ∀ c ∈ key, isKeyChar c = true

/-- A key, a colon and a character that is not blank. -/
def StartsDirective (cs : List Char) : Prop :=
  ∃ key c rest, cs = key ++ ':' :: c :: rest ∧ IsKey key ∧ isBlank c = false

/-- What a token with some source says, if the text goes on with `rest`. -/
inductive Content.Says : Content → List Char → List Char → Prop where
  /-- A word goes on to the first blank outside of pairs. -/
  | word {ps : List Piece} {rest : List Char} : Spelling wordEscaping ps rest →
      Says (.word (.ofList (chars ps))) (sources ps) rest
  /-- A phrase without a closing quote goes on to the end. -/
  | unclosedPhrase {ps : List Piece} : Spelling quotedEscaping ps [] →
      Says (.phrase ⟨.ofList (chars ps), none, false, false⟩) ('"' :: sources ps) []
  | phrase {ps : List Piece} {mark rest : List Char} {slop : Option Nat} {stemmed : Bool} :
      Spelling quotedEscaping ps ('"' :: (mark ++ rest)) → Marks mark rest slop stemmed →
      Says (.phrase ⟨.ofList (chars ps), slop, stemmed, true⟩)
        ('"' :: (sources ps ++ '"' :: mark)) rest
  /-- Key and value without quotes are spelled like one word. -/
  | bareValue {ps : List Piece} {key value tail rest : List Char} {c : Char} : IsKey key →
      Spelling wordEscaping ps rest → sources ps = key ++ ':' :: c :: tail → c ≠ '"' →
      chars ps = key ++ ':' :: value →
      Says (.keyword ⟨⟨.ofList key, .ofList value, .ofList value, none, ""⟩, .ofList (chars ps)⟩)
        (sources ps) rest
  | unclosedValue {ps : List Piece} {key : List Char} : IsKey key →
      Spelling quotedEscaping ps [] →
      Says (.keyword ⟨⟨.ofList key, .ofList (chars ps), .ofList ('"' :: sources ps), some '"', ""⟩,
          .ofList (key ++ ':' :: '"' :: sources ps)⟩)
        (key ++ ':' :: '"' :: sources ps) []
  /-- Behind the closing quote of a value the token goes on to the first blank. -/
  | quotedValue {ps : List Piece} {key suffix rest : List Char} : IsKey key →
      Spelling quotedEscaping ps ('"' :: (suffix ++ rest)) →
      IsRun (fun c => !isBlank c) suffix rest →
      Says (.keyword ⟨⟨.ofList key, .ofList (chars ps), .ofList ('"' :: (sources ps ++ ['"'])),
            some '"', .ofList suffix⟩,
          .ofList (key ++ ':' :: '"' :: (sources ps ++ '"' :: suffix))⟩)
        (key ++ ':' :: '"' :: (sources ps ++ '"' :: suffix)) rest

/-- The rules for what stands behind the sign of a token. -/
structure Lexeme.Lawful (boundary : Prop) (l : Lexeme) : Prop where
  /-- A quote opens a phrase, and nothing else is one. -/
  phrase_iff : (∃ p, l.content = .phrase p) ↔ (l.source ++ l.rest).head? = some '"'
  /-- Anything else is a candidate exactly if it looks like one and stands at a boundary. -/
  keyword_iff : (l.source ++ l.rest).head? ≠ some '"' →
    ((∃ c, l.content = .keyword c) ↔ boundary ∧ StartsDirective (l.source ++ l.rest))
  meaning : l.content.Says l.source l.rest

/-! ## Marks behind a phrase -/

/-- The mark that is read is one by the rules. -/
theorem marks_readMark (cs : List Char) :
    Marks (readMark cs).source (readMark cs).rest (readMark cs).slop (readMark cs).stemmed := by
  unfold readMark
  split
  · rename_i rest
    have hrun := isRun_readWhile isDigit rest
    by_cases hnone : (readWhile isDigit rest).text = []
    · -- without a digit the run is empty, so what is left is all there is behind the tilde
      have hsplit : (readWhile isDigit rest).text ++ (readWhile isDigit rest).rest = rest :=
        readWhile_split isDigit rest
      rw [hnone, List.nil_append] at hsplit
      simp only [if_pos hnone]
      refine .stemmed ⟨by simp, ?_⟩
      rw [← hsplit]
      exact hrun.stops
    · simp only [if_neg hnone]
      exact .slop hnone hrun
  · rename_i htilde
    refine .nothing fun hhead => ?_
    obtain ⟨rest, hrest⟩ := List.head?_eq_some_iff.mp hhead
    exact htilde rest hrest

/-- The rules allow one mark in front of a rest only, which is the one that is read. -/
theorem readMark_of_marks {mark rest : List Char} {slop : Option Nat} {stemmed : Bool}
    (h : Marks mark rest slop stemmed) :
    readMark (mark ++ rest) = ⟨slop, stemmed, mark, rest⟩ := by
  -- the reader goes through the same three cases
  cases h with
  | nothing htilde =>
    unfold readMark
    split
    · rename_i hrest
      rw [List.nil_append] at hrest
      exact absurd (by rw [hrest]; rfl) htilde
    · rfl
  | stemmed hrun =>
    have hread := readWhile_of_isRun hrun
    rw [List.nil_append] at hread
    rw [List.singleton_append, readMark, hread]
    rfl
  | slop hne hrun =>
    rw [List.cons_append, readMark, readWhile_of_isRun hrun]
    simp only [if_neg hne]

/-! ## What the readers of quoted text make of a spelling -/

section Quoted

variable {ps : List Piece} {rest : List Char}

/-- A phrase without a closing quote takes all of the text. -/
theorem readPhrase_of_unclosed (h : Spelling quotedEscaping ps []) :
    readPhrase (sources ps) =
      ⟨.phrase ⟨.ofList (chars ps), none, false, false⟩, '"' :: sources ps, []⟩ := by
  simp only [readPhrase, readQuoted_of_unclosed h, Bool.false_eq_true, if_false]

/-- A phrase with a closing quote takes the mark behind that as well. -/
theorem readPhrase_of_closed (h : Spelling quotedEscaping ps ('"' :: rest)) :
    readPhrase (sources ps ++ '"' :: rest) =
      ⟨.phrase ⟨.ofList (chars ps), (readMark rest).slop, (readMark rest).stemmed, true⟩,
        '"' :: (sources ps ++ '"' :: (readMark rest).source), (readMark rest).rest⟩ := by
  simp only [readPhrase, readQuoted_of_closed h, if_true, List.cons_append, List.append_assoc,
    List.nil_append]

variable (key : List Char)

/-- A quoted value without a closing quote takes all of the text, and has no suffix. -/
theorem readQuotedValue_of_unclosed (h : Spelling quotedEscaping ps []) :
    readQuotedValue key (sources ps) =
      ⟨.keyword ⟨⟨.ofList key, .ofList (chars ps), .ofList ('"' :: sources ps), some '"', ""⟩,
        .ofList (key ++ ':' :: '"' :: sources ps)⟩, key ++ ':' :: '"' :: sources ps, []⟩ := by
  simp only [readQuotedValue, readQuoted_of_unclosed h, readWhile, List.takeWhile_nil,
    List.dropWhile_nil, List.append_nil, String.ofList_nil]

/-- A quoted value with a closing quote takes its suffix up to the next blank. -/
theorem readQuotedValue_of_closed {suffix : List Char}
    (h : Spelling quotedEscaping ps ('"' :: (suffix ++ rest)))
    (hsuffix : IsRun (fun c => !isBlank c) suffix rest) :
    readQuotedValue key (sources ps ++ '"' :: (suffix ++ rest)) =
      ⟨.keyword ⟨⟨.ofList key, .ofList (chars ps), .ofList ('"' :: (sources ps ++ ['"'])),
          some '"', .ofList suffix⟩,
        .ofList (key ++ ':' :: '"' :: (sources ps ++ '"' :: suffix))⟩,
        key ++ ':' :: '"' :: (sources ps ++ '"' :: suffix), rest⟩ := by
  simp only [readQuotedValue, readQuoted_of_closed h, readWhile_of_isRun hsuffix, List.cons_append,
    List.append_assoc, List.nil_append]

end Quoted

/-! ## Keys in front of a word -/

theorem ne_backslash_of_isKeyChar {c : Char} (h : isKeyChar c = true) : c ≠ '\\' := by
  rintro rfl
  exact absurd h (by decide)

/-- The character numbers of the blanks. -/
def blankNumbers : List Nat :=
  [0x09, 0x0A, 0x0B, 0x0C, 0x0D, 0x20, 0x85, 0xA0, 0x1680, 0x2000, 0x2001, 0x2002, 0x2003, 0x2004,
   0x2005, 0x2006, 0x2007, 0x2008, 0x2009, 0x200A, 0x2028, 0x2029, 0x202F, 0x205F, 0x3000]

/-- The numbers in the list are those of all the blanks. -/
theorem mem_blankNumbers {c : Char} (h : isBlank c = true) : c.toNat ∈ blankNumbers := by
  simp only [isBlank, blankRanges, inRanges, Bool.and_eq_true, Bool.or_eq_true, decide_eq_true_eq,
    Bool.false_eq_true, or_false] at h
  simp only [blankNumbers, List.mem_cons, List.not_mem_nil, or_false]
  omega

theorem not_alphanumeric_blankNumbers :
    ∀ n ∈ blankNumbers, inRanges alphanumericRanges n = false := by
  decide +kernel

theorem isBlank_of_isKeyChar {c : Char} (h : isKeyChar c = true) : isBlank c = false := by
  by_contra hblank
  -- the blanks are few enough to look up each of them among the letters and numbers
  rw [Bool.not_eq_false] at hblank
  rw [isKeyChar, Bool.or_eq_true, decide_eq_true_eq] at h
  rcases h with halphanumeric | rfl
  · rw [isAlphanumeric, not_alphanumeric_blankNumbers _ (mem_blankNumbers hblank)] at halphanumeric
    contradiction
  · exact absurd hblank (by decide)

theorem isBlank_of_isDigit {c : Char} (h : isDigit c = true) : isBlank c = false := by
  have hrange : '0'.toNat ≤ c.toNat ∧ c.toNat ≤ '9'.toNat := by
    simpa [isDigit, Char.le_def, UInt32.le_iff_toNat_le] using h
  have hzero : '0'.toNat = 0x30 := rfl
  have hnine : '9'.toNat = 0x39 := rfl
  by_contra hblank
  have hmem := mem_blankNumbers (by simpa using hblank)
  simp only [blankNumbers, List.mem_cons, List.not_mem_nil, or_false] at hmem
  omega

theorem ne_backslash_of_isDigit {c : Char} (h : isDigit c = true) : c ≠ '\\' := by
  rintro rfl
  exact absurd h (by decide)

/-- A word that starts with a key is read like its value. -/
theorem readWord_key {key : List Char} (hkey : ∀ c ∈ key, isKeyChar c = true) (cs : List Char) :
    readWord (key ++ ':' :: cs) = ⟨key ++ ':' :: (readWord cs).text,
      key ++ ':' :: (readWord cs).source, (readWord cs).rest⟩ := by
  -- on the characters of the key, none of which is a blank or a backslash
  induction key with
  | nil =>
    rw [List.nil_append, readWord_char (by decide) (by simp)]
    rfl
  | cons c key ih =>
    rw [List.forall_mem_cons] at hkey
    rw [List.cons_append, readWord_char (isBlank_of_isKeyChar hkey.1), ih hkey.2]
    · rfl
    · intro d ds hc
      exact absurd hc (ne_backslash_of_isKeyChar hkey.1)

/-! ## Candidates -/

/-- A text starts with a candidate exactly if it looks like a directive. -/
theorem readCandidate?_isSome_iff {cs : List Char} :
    (readCandidate? cs).isSome ↔ StartsDirective cs := by
  constructor
  · intro h
    obtain ⟨lexeme, hread⟩ := Option.isSome_iff_exists.mp h
    obtain ⟨key, hne, hkey, ⟨rest, rfl, -⟩ | ⟨c, rest, rfl, -, hblank, -⟩⟩ :=
      readCandidate?_eq_some hread
    · exact ⟨key, '"', rest, rfl, ⟨hne, hkey⟩, by decide⟩
    · exact ⟨key, c, rest, rfl, ⟨hne, hkey⟩, hblank⟩
  · rintro ⟨key, c, rest, rfl, ⟨hne, hkey⟩, hblank⟩
    -- with a quote it is a value in quotes, and else one without
    by_cases hquote : c = '"'
    · rw [hquote, readCandidate?_quoted hne hkey, Option.isSome_some]
    · rw [readCandidate?_bare hne hkey hquote hblank, Option.isSome_some]

theorem readContent_quote (boundary : Bool) (rest : List Char) :
    readContent boundary ('"' :: rest) = readPhrase rest := by
  rw [readContent]

/-- What is neither a phrase nor a candidate is a word. -/
theorem readContent_word {boundary : Bool} {cs : List Char} (hquote : cs.head? ≠ some '"')
    (hword : ¬ (boundary = true ∧ StartsDirective cs)) :
    readContent boundary cs =
      ⟨.word (.ofList (readWord cs).text), (readWord cs).source, (readWord cs).rest⟩ := by
  have hnone : (if boundary then readCandidate? cs else none) = none := by
    cases boundary with
    | false => rfl
    | true =>
      rw [← readCandidate?_isSome_iff] at hword
      simpa using hword
  unfold readContent
  split
  · exact absurd rfl hquote
  · rw [hnone]

/-- A text that is all of one candidate is one token. -/
theorem scan_of_readCandidate? {content : Content} {cs : List Char}
    (h : readCandidate? cs = some ⟨content, cs, []⟩) :
    Token.scan 0 true cs = [⟨content, none, ⟨0, cs.length⟩, 0⟩] := by
  -- the first character is one of the key, so there is no sign in front of it
  obtain ⟨k, ks, rfl, hk⟩ := exists_keyChar_of_readCandidate? h
  have hsign := sign?_of_keyChar hk ks
  have hscan := Token.scan_eq_singleton (isBlank_of_isKeyChar hk)
    (by rw [hsign]; exact readContent_of_readCandidate? h) 0
  rw [hsign, Nat.zero_add] at hscan
  exact hscan

/-- **A directive by itself.** A key, a colon and a value without blanks, backslashes and an
opening quote are one token, whose value is what was typed. -/
theorem scan_directive {key value : List Char} (hkey : IsKey key)
    (hhead : ∃ c, value.head? = some c ∧ c ≠ '"')
    (hvalue : ∀ c ∈ value, isBlank c = false ∧ c ≠ '\\') :
    Token.scan 0 true (key ++ ':' :: value) =
      [⟨.keyword ⟨⟨.ofList key, .ofList value, .ofList value, none, ""⟩,
        .ofList (key ++ ':' :: value)⟩, none, ⟨0, (key ++ ':' :: value).length⟩, 0⟩] := by
  obtain ⟨c, hc, hquote⟩ := hhead
  obtain ⟨rest, rfl⟩ := List.head?_eq_some_iff.mp hc
  have hread := readCandidate?_bare hkey.1 hkey.2 hquote (hvalue c (List.mem_cons_self ..)).1 rest
  rw [readBareValue, readWord_plain hvalue] at hread
  exact scan_of_readCandidate? hread

/-! ## The reader keeps to the rules -/

/-- A phrase that is read says what its spelling does. -/
theorem says_readPhrase (cs : List Char) :
    (readPhrase cs).content.Says (readPhrase cs).source (readPhrase cs).rest := by
  obtain ⟨ps, rest, rfl, h⟩ := exists_spelling quotedEscaping cs
  -- a spelling inside quotes stops at the end of the text or at the closing quote
  cases rest with
  | nil =>
    rw [List.append_nil, readPhrase_of_unclosed h]
    exact .unclosedPhrase h
  | cons c rest =>
    obtain rfl : c = '"' := by simpa [quotedEscaping] using h.stops c rfl
    rw [readPhrase_of_closed h]
    refine .phrase ?_ (marks_readMark rest)
    rwa [readMark_split]

/-- A quoted value that is read says what its spelling does. -/
theorem says_readQuotedValue {key : List Char} (hkey : IsKey key) (cs : List Char) :
    (readQuotedValue key cs).content.Says (readQuotedValue key cs).source
      (readQuotedValue key cs).rest := by
  obtain ⟨ps, rest, rfl, h⟩ := exists_spelling quotedEscaping cs
  cases rest with
  | nil =>
    rw [List.append_nil, readQuotedValue_of_unclosed key h]
    exact .unclosedValue hkey h
  | cons c rest =>
    obtain rfl : c = '"' := by simpa [quotedEscaping] using h.stops c rfl
    have hsuffix := isRun_readWhile (fun c => !isBlank c) rest
    -- the rest is cut into the suffix and what stands behind that
    rw [← readWhile_split (fun c => !isBlank c) rest] at h ⊢
    rw [readQuotedValue_of_closed key h hsuffix]
    exact .quotedValue hkey h hsuffix

/-- A value without quotes that is read says what the spelling of its candidate does. -/
theorem says_readBareValue {key : List Char} (hkey : IsKey key) {c : Char} (hquote : c ≠ '"')
    (hblank : isBlank c = false) (cs : List Char) :
    (readBareValue key (c :: cs)).content.Says (readBareValue key (c :: cs)).source
      (readBareValue key (c :: cs)).rest := by
  -- key and value are spelled as one word, so the spelling is taken of both at once
  obtain ⟨ps, rest, hps, h⟩ := exists_spelling wordEscaping (key ++ ':' :: c :: cs)
  have hread := readWord_of_spelling h
  rw [hps, readWord_key hkey.2, Reading.mk.injEq] at hread
  obtain ⟨hchars, hsources, hrest⟩ := hread
  obtain ⟨d, tail, htail⟩ := List.exists_cons_of_ne_nil (readWord_source_ne_nil hblank cs)
  obtain ⟨_, hd⟩ := source_eq_of_readWord_cons htail
  obtain ⟨rfl, -⟩ := List.cons.inj hd
  simp only [readBareValue, hchars, hsources, hrest]
  exact .bareValue hkey h (by rw [← hsources, htail]) hquote hchars.symm

/-- Whatever is read says what its spelling does. -/
theorem says_readContent (boundary : Bool) (cs : List Char) :
    (readContent boundary cs).content.Says (readContent boundary cs).source
      (readContent boundary cs).rest := by
  -- a phrase, a candidate or a word, by what the text starts with
  by_cases hquote : cs.head? = some '"'
  · obtain ⟨rest, rfl⟩ := List.head?_eq_some_iff.mp hquote
    rw [readContent_quote]
    exact says_readPhrase rest
  · by_cases hdirective : boundary = true ∧ StartsDirective cs
    · obtain ⟨rfl, key, c, rest, rfl, hkey, hblank⟩ := hdirective
      by_cases hc : c = '"'
      · rw [hc, readContent_of_readCandidate? (readCandidate?_quoted hkey.1 hkey.2 rest)]
        exact says_readQuotedValue hkey rest
      · rw [readContent_of_readCandidate? (readCandidate?_bare hkey.1 hkey.2 hc hblank rest)]
        exact says_readBareValue hkey hc hblank rest
    · obtain ⟨ps, rest, rfl, h⟩ := exists_spelling wordEscaping cs
      rw [readContent_word hquote hdirective, readWord_of_spelling h]
      exact .word h

/-- What does not start with a quote is a candidate or a word. -/
theorem content_readContent (boundary : Bool) {cs : List Char} (hquote : cs.head? ≠ some '"') :
    ((boundary = true ∧ StartsDirective cs) ∧
      ∃ c, (readContent boundary cs).content = .keyword c) ∨
    (¬ (boundary = true ∧ StartsDirective cs) ∧
      ∃ text, (readContent boundary cs).content = .word text) := by
  -- the two cases exclude each other by what the text looks like
  by_cases hdirective : boundary = true ∧ StartsDirective cs
  · refine .inl ⟨hdirective, ?_⟩
    obtain ⟨rfl, hstarts⟩ := hdirective
    obtain ⟨lexeme, hread⟩ := Option.isSome_iff_exists.mp (readCandidate?_isSome_iff.mpr hstarts)
    rw [readContent_of_readCandidate? hread]
    obtain ⟨key, -, -, ⟨rest, -, rfl⟩ | ⟨c, rest, -, -, -, rfl⟩⟩ := readCandidate?_eq_some hread
    · exact ⟨_, rfl⟩
    · exact ⟨_, rfl⟩
  · rw [readContent_word hquote hdirective]
    exact .inr ⟨hdirective, _, rfl⟩

/-- **The reader keeps to the rules.** -/
theorem lawful_readContent (boundary : Bool) (cs : List Char) :
    (readContent boundary cs).Lawful (boundary = true) where
  phrase_iff := by
    rw [readContent_split]
    constructor
    · rintro ⟨p, hp⟩
      by_contra hquote
      -- what does not start with a quote is read as a candidate or a word, and is no phrase
      rcases content_readContent boundary hquote with ⟨-, c, hc⟩ | ⟨-, text, ht⟩
      · rw [hp] at hc
        contradiction
      · rw [hp] at ht
        contradiction
    · intro hquote
      obtain ⟨rest, rfl⟩ := List.head?_eq_some_iff.mp hquote
      rw [readContent_quote, readPhrase]
      simp only
      split <;> exact ⟨_, rfl⟩
  keyword_iff := by
    rw [readContent_split]
    intro hquote
    rcases content_readContent boundary hquote with ⟨hyes, hc⟩ | ⟨hno, text, ht⟩
    · exact iff_of_true hc hyes
    · refine iff_of_false ?_ hno
      rintro ⟨c, hc⟩
      rw [ht] at hc
      contradiction
  meaning := says_readContent boundary cs

/-- The parts of a candidate without quotes are those that its value is read into. -/
theorem readWord_of_bareValue {ps : List Piece} {key value tail rest : List Char} {c : Char}
    (hkey : IsKey key) (h : Spelling wordEscaping ps rest)
    (hsources : sources ps = key ++ ':' :: c :: tail) (hchars : chars ps = key ++ ':' :: value) :
    readWord (c :: (tail ++ rest)) = ⟨value, c :: tail, rest⟩ := by
  have hread := readWord_of_spelling h
  rw [hchars, hsources, List.append_assoc, List.cons_append, List.cons_append,
    readWord_key hkey.2] at hread
  simp only [Reading.mk.injEq, List.append_cancel_left_eq, List.cons.injEq, true_and] at hread
  obtain ⟨htext, hsource, hrest⟩ := hread
  generalize readWord (c :: (tail ++ rest)) = read at htext hsource hrest ⊢
  obtain ⟨text, source, left⟩ := read
  simp only at htext hsource hrest
  rw [htext, hsource, hrest]

/-- **The rules allow nothing else.** A lexeme that keeps to the rules is the one that the reader
takes. -/
theorem readContent_of_lawful {boundary : Bool} {l : Lexeme} (h : l.Lawful (boundary = true)) :
    readContent boundary (l.source ++ l.rest) = l := by
  obtain ⟨content, source, rest⟩ := l
  obtain ⟨hphrase, hkeyword, hmeaning⟩ := h
  simp only at hphrase hkeyword hmeaning ⊢
  -- whatever is no phrase does not start with a quote
  have hquote : (∀ p, content ≠ .phrase p) → (source ++ rest).head? ≠ some '"' := by
    intro hne hhead
    obtain ⟨p, hp⟩ := hphrase.mpr hhead
    exact hne p hp
  -- each kind of token is read again from the spelling that it comes with
  cases hmeaning with
  | word hspelling =>
    have hhead := hquote (by simp)
    rw [readContent_word hhead, readWord_of_spelling hspelling]
    intro hdirective
    obtain ⟨c, hc⟩ := (hkeyword hhead).mpr hdirective
    contradiction
  | unclosedPhrase hspelling =>
    rw [List.append_nil, readContent_quote, readPhrase_of_unclosed hspelling]
  | phrase hspelling hmarks =>
    rw [List.cons_append, readContent_quote, List.append_assoc, List.cons_append,
      readPhrase_of_closed hspelling, readMark_of_marks hmarks]
  | @bareValue ps key value tail rest c hkey hspelling hsources hc hchars =>
    obtain ⟨rfl, -⟩ := (hkeyword (hquote (by simp))).mp ⟨_, rfl⟩
    have hread := readWord_of_bareValue hkey hspelling hsources hchars
    -- a value that starts with a blank would be read as no text at all
    have hblank : isBlank c = false := by
      by_contra hblank
      rw [readWord_blank (by simpa using hblank)] at hread
      simp [Reading.none] at hread
    rw [hsources, List.append_assoc, List.cons_append, List.cons_append,
      readContent_of_readCandidate? (readCandidate?_bare hkey.1 hkey.2 hc hblank _)]
    simp only [readBareValue, hread, hchars]
  | @unclosedValue ps key hkey hspelling =>
    obtain ⟨rfl, -⟩ := (hkeyword (hquote (by simp))).mp ⟨_, rfl⟩
    rw [List.append_nil, readContent_of_readCandidate? (readCandidate?_quoted hkey.1 hkey.2 _),
      readQuotedValue_of_unclosed key hspelling]
  | @quotedValue ps key suffix rest hkey hspelling hsuffix =>
    obtain ⟨rfl, -⟩ := (hkeyword (hquote (by simp))).mp ⟨_, rfl⟩
    simp only [List.append_assoc, List.cons_append]
    rw [readContent_of_readCandidate? (readCandidate?_quoted hkey.1 hkey.2 _),
      readQuotedValue_of_closed key hspelling hsuffix]

/-- **One lexeme.** At the front of a text the rules allow what the reader takes, and nothing
else. -/
theorem readContent_eq_iff {boundary : Bool} {cs : List Char} {l : Lexeme} :
    readContent boundary cs = l ↔ l.source ++ l.rest = cs ∧ l.Lawful (boundary = true) := by
  constructor
  · rintro rfl
    exact ⟨readContent_split boundary cs, lawful_readContent boundary cs⟩
  · rintro ⟨rfl, h⟩
    exact readContent_of_lawful h

end WikiSearch
