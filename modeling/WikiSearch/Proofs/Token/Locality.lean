import Mathlib.Algebra.Ring.Parity
import WikiSearch.Proofs.Token.Tokenization

/-!
# WikiSearch — tokens of two texts with a blank between them

A blank separates tokens, unless the token in front of it is still open: a phrase or a value
in quotes goes on to its closing quote, and a backslash at the end of a word forms a pair with
the blank. If the last token of a text is not open, the text can be read by itself: its tokens
stay what they are when a blank and more text follow, and what follows has the tokens that it has
by itself, moved.

The rules for a token say what it needs of the text behind it (`Content.Says`), so that a token
stays a token if that is still there. What the reader does at the seam is not looked at.

Main results:

* `Spelling.odd_trailingBackslashes` — an odd run of backslashes at the end of a word is what
  leaves the last of them by itself.
* `Lexeme.Lawful.append_blank` — a token that is not open stays as it is if a blank follows.
* `Token.scan_shift` — tokens do not depend on where the text starts, but for their offsets.
* `Token.scan_append` — the tokens of two texts with a blank between them.
-/

namespace WikiSearch

open Text Piece

/-! ## Backslashes at the end -/

/-- The length of the run of backslashes at the end of a text. -/
def trailingBackslashes (cs : List Char) : Nat := (cs.reverse.takeWhile (· = '\\')).length

theorem trailingBackslashes_append_backslash (cs : List Char) :
    trailingBackslashes (cs ++ ['\\']) = trailingBackslashes cs + 1 := by
  simp [trailingBackslashes]

theorem trailingBackslashes_append_of_ne {c : Char} (h : c ≠ '\\') (cs : List Char) :
    trailingBackslashes (cs ++ [c]) = 0 := by
  simp [trailingBackslashes, h]

/-- A run of backslashes does not reach over another character. -/
theorem trailingBackslashes_append_cons {c : Char} (h : c ≠ '\\') (cs tail : List Char) :
    trailingBackslashes (cs ++ c :: tail) = trailingBackslashes tail := by
  induction tail using List.reverseRecOn with
  | nil => exact trailingBackslashes_append_of_ne h cs
  | append_singleton tail d ih =>
    rw [← List.cons_append, ← List.append_assoc]
    by_cases hd : d = '\\'
    · rw [hd, trailingBackslashes_append_backslash, trailingBackslashes_append_backslash, ih]
    · rw [trailingBackslashes_append_of_ne hd, trailingBackslashes_append_of_ne hd]

theorem trailingBackslashes_eq_zero {cs : List Char} (h : '\\' ∉ cs) :
    trailingBackslashes cs = 0 := by
  cases cs using List.reverseRecOn with
  | nil => rfl
  | append_singleton cs c =>
    refine trailingBackslashes_append_of_ne ?_ cs
    rintro rfl
    exact h (by simp)

namespace Spelling

variable {ps : List Piece} {before rest : List Char}

/-- In front of a character that could form a pair, the backslashes of a word stand in pairs, and
so do those in front of the word if they did before. -/
theorem even_trailingBackslashes (hbefore : Even (trailingBackslashes before))
    {front back : List Piece} (h : Spelling wordEscaping (front ++ back) rest) {d : Char}
    (hback : (sources back ++ rest).head? = some d) (hd : escapable d = true) :
    Even (trailingBackslashes (before ++ sources front)) := by
  -- from the last piece to the first, since the run is at the end
  induction front using List.reverseRecOn generalizing back d with
  | nil => rwa [sources, List.flatMap_nil, List.append_nil]
  | append_singleton front p ih =>
    rw [List.append_assoc, List.singleton_append] at h
    rw [sources, List.flatMap_append, ← sources, ← List.append_assoc]
    cases p with
    | plain c =>
      -- a backslash by itself would form a pair with what follows
      have hne : c ≠ '\\' := by
        rintro rfl
        have hpairs : escapable d = false := h.backslash front back rfl d hback
        rw [hpairs] at hd
        contradiction
      rw [List.flatMap_singleton, source, trailingBackslashes_append_of_ne hne]
      exact ⟨0, rfl⟩
    | pair c =>
      by_cases hc : c = '\\'
      · -- two more backslashes, in front of which there is a backslash again
        subst hc
        have heven := ih h rfl (by decide)
        rw [List.flatMap_singleton, source, ← List.singleton_append, ← List.append_assoc,
          trailingBackslashes_append_backslash, trailingBackslashes_append_backslash]
        exact heven.add (by decide : Even (1 + 1))
      · rw [List.flatMap_singleton, source, ← List.singleton_append, ← List.append_assoc,
          trailingBackslashes_append_of_ne hc]
        exact ⟨0, rfl⟩

/-- The last backslash of a word stands by itself only behind pairs of them. -/
theorem odd_trailingBackslashes (h : Spelling wordEscaping ps rest)
    (hlast : ps.getLast? = some (.plain '\\')) : Odd (trailingBackslashes (sources ps)) := by
  obtain ⟨front, rfl⟩ := List.getLast?_eq_some_iff.mp hlast
  have hnone : Even (trailingBackslashes []) := ⟨0, rfl⟩
  have heven := h.even_trailingBackslashes hnone rfl (by decide)
  rw [sources, List.flatMap_append, ← sources, List.flatMap_singleton, source,
    trailingBackslashes_append_backslash]
  exact heven.add_one

end Spelling

/-! ## Open tokens -/

/-- A value in quotes that has no closing quote. -/
def Candidate.IsUnclosed (c : Candidate) : Prop :=
  ∃ ps, Spelling quotedEscaping ps [] ∧ c.quotedValue = .ofList ('"' :: sources ps)

namespace Lexeme

/-- What goes on to the end of the text and ends with an odd number of backslashes. -/
def EndsInEscape (l : Lexeme) : Prop := l.rest = [] ∧ Odd (trailingBackslashes l.source)

/-- What may go on if more text follows, behind a blank too. -/
def IsOpen (l : Lexeme) : Prop :=
  match l.content with
  | .word _ => l.EndsInEscape
  | .phrase p => p.terminated = false
  | .keyword c => if c.delimiter = none then l.EndsInEscape else c.IsUnclosed

end Lexeme

/-- What other text follows is not open. -/
theorem Lexeme.Lawful.not_isOpen {boundary : Prop} {l : Lexeme} (h : l.Lawful boundary)
    (hrest : l.rest ≠ []) : ¬ l.IsOpen := by
  obtain ⟨content, source, rest⟩ := l
  obtain ⟨-, -, hmeaning⟩ := h
  simp only at hmeaning hrest
  cases hmeaning with
  | word hspelling => exact fun hopen => hrest hopen.1
  | unclosedPhrase hspelling => contradiction
  | phrase hspelling hmarks => exact Bool.noConfusion
  | bareValue hkey hspelling hsources hquote hchars => exact fun hopen => hrest hopen.1
  | unclosedValue hkey hspelling => contradiction
  | @quotedValue ps key suffix rest hkey hspelling hsuffix =>
    -- the value would be read with its closing quote and without
    rintro ⟨qs, hqs, hvalue⟩
    have hsources := (List.cons.inj (String.ofList_inj.mp hvalue)).2
    have hquote : Spelling quotedEscaping ps ['"'] := hspelling.congr_head rfl
    have hclosed := readQuoted_of_closed hquote
    rw [hsources, readQuoted_of_unclosed hqs, Prod.mk.injEq] at hclosed
    exact Bool.noConfusion hclosed.2

/-- Only quotes and backslashes leave something open. -/
theorem Lexeme.Lawful.not_isOpen_of_not_mem {boundary : Prop} {l : Lexeme}
    (h : l.Lawful boundary) (hquote : '"' ∉ l.source) (hbackslash : '\\' ∉ l.source) :
    ¬ l.IsOpen := by
  have hend : ¬ l.EndsInEscape := by
    rintro ⟨-, hodd⟩
    rw [trailingBackslashes_eq_zero hbackslash] at hodd
    exact absurd hodd (by decide)
  obtain ⟨content, source, rest⟩ := l
  obtain ⟨-, -, hmeaning⟩ := h
  simp only at hmeaning hquote
  -- the other four kinds have a quote in their source
  cases hmeaning with
  | word hspelling => exact hend
  | bareValue hkey hspelling hsources hc hchars => exact hend
  | unclosedPhrase hspelling => simp at hquote
  | phrase hspelling hmarks => simp at hquote
  | unclosedValue hkey hspelling => simp at hquote
  | quotedValue hkey hspelling hsuffix => simp at hquote

/-! ## A blank behind a token -/

section Append

variable {w : Char}

/-- A word whose last backslash is part of a pair stays as it is if a blank follows. -/
theorem Spelling.append_blank {ps : List Piece} {rest : List Char}
    (h : Spelling wordEscaping ps rest) (hw : isBlank w = true)
    (hend : rest = [] → ¬ Odd (trailingBackslashes (sources ps))) (b : List Char) :
    Spelling wordEscaping ps (rest ++ w :: b) := by
  cases rest with
  | nil => exact h.extend (fun hlast => hend rfl (h.odd_trailingBackslashes hlast)) hw b
  | cons c rest => exact h.congr_head rfl

/-- A run of other characters than blanks ends at a blank. -/
theorem IsRun.append_blank {p : Char → Bool} {run rest : List Char} (h : IsRun p run rest)
    (hw : p w = false) (b : List Char) : IsRun p run (rest ++ w :: b) where
  all := h.all
  stops c hc := by
    cases rest with
    | nil =>
      rw [List.nil_append, List.head?_cons, Option.some.injEq] at hc
      rwa [← hc]
    | cons d rest => exact h.stops c hc

theorem isDigit_of_isBlank (hw : isBlank w = true) : isDigit w = false := by
  by_contra hdigit
  rw [isBlank_of_isDigit (by simpa using hdigit)] at hw
  contradiction

/-- The mark behind a phrase stays as it is if a blank follows. -/
theorem Marks.append_blank {mark rest : List Char} {slop : Option Nat} {stemmed : Bool}
    (h : Marks mark rest slop stemmed) (hw : isBlank w = true) (b : List Char) :
    Marks mark (rest ++ w :: b) slop stemmed := by
  -- a mark ends where its digits do, or where there is no tilde, and a blank is neither
  cases h with
  | nothing htilde =>
    refine .nothing ?_
    cases rest with
    | nil =>
      intro hhead
      rw [List.nil_append, List.head?_cons, Option.some.injEq] at hhead
      rw [hhead] at hw
      exact absurd hw (by decide)
    | cons c rest => exact htilde
  | stemmed hrun => exact .stemmed (hrun.append_blank (isDigit_of_isBlank hw) b)
  | slop hne hrun => exact .slop hne (hrun.append_blank (isDigit_of_isBlank hw) b)

/-- No blank is part of what makes a text look like a directive. -/
theorem startsDirective_append_blank {cs : List Char} (hw : isBlank w = true) (b : List Char) :
    StartsDirective (cs ++ w :: b) ↔ StartsDirective cs := by
  constructor
  · rintro ⟨key, c, rest, hcs, ⟨hne, hkey⟩, hc⟩
    have hlook : ∀ d ∈ key ++ [':', c], isBlank d = false := by
      simp only [List.mem_append, List.mem_cons, List.not_mem_nil, or_false]
      rintro d (hd | rfl | rfl)
      · exact isBlank_of_isKeyChar (hkey d hd)
      · decide
      · exact hc
    have hcs' : cs ++ w :: b = (key ++ [':', c]) ++ rest := by simp [hcs]
    rcases List.append_eq_append_iff.mp hcs' with ⟨more, hmore, hw'⟩ | ⟨more, hmore, -⟩
    · -- the blank would be one of the characters that are looked at
      cases more with
      | nil =>
        rw [List.append_nil] at hmore
        exact ⟨key, c, [], by simp [← hmore], ⟨hne, hkey⟩, hc⟩
      | cons d more =>
        obtain ⟨rfl, -⟩ := List.cons.inj hw'
        rw [hlook w (by simp [hmore])] at hw
        contradiction
    · exact ⟨key, c, more, by simp [hmore], ⟨hne, hkey⟩, hc⟩
  · rintro ⟨key, c, rest, rfl, hkey, hc⟩
    exact ⟨key, c, rest ++ w :: b, by simp, hkey, hc⟩

/-- What is not open says the same if a blank follows. -/
theorem Content.Says.append_blank {l : Lexeme} (h : l.content.Says l.source l.rest)
    (hopen : ¬ l.IsOpen) (hw : isBlank w = true) (b : List Char) :
    l.content.Says l.source (l.rest ++ w :: b) := by
  obtain ⟨content, source, rest⟩ := l
  simp only at h ⊢
  -- what lacks its closing quote is open, and so is a word with half a pair at its end
  cases h with
  | word hspelling =>
    exact .word (hspelling.append_blank hw (fun hrest hodd => hopen ⟨hrest, hodd⟩) b)
  | unclosedPhrase hspelling => exact absurd rfl hopen
  | phrase hspelling hmarks =>
    exact .phrase (hspelling.congr_head rfl) (hmarks.append_blank hw b)
  | bareValue hkey hspelling hsources hquote hchars =>
    exact .bareValue hkey
      (hspelling.append_blank hw (fun hrest hodd => hopen ⟨hrest, hodd⟩) b) hsources hquote hchars
  | @unclosedValue ps key hkey hspelling => exact absurd ⟨ps, hspelling, rfl⟩ hopen
  | quotedValue hkey hspelling hsuffix =>
    exact .quotedValue hkey (hspelling.congr_head rfl) (hsuffix.append_blank (by simp [hw]) b)

/-- **A token at a seam.** What is not open stays as it is if a blank and more text follow. -/
theorem Lexeme.Lawful.append_blank {boundary : Prop} {l : Lexeme} (h : l.Lawful boundary)
    (hopen : ¬ l.IsOpen) (hsource : l.source ≠ []) (hw : isBlank w = true) (b : List Char) :
    Lexeme.Lawful boundary ⟨l.content, l.source, l.rest ++ w :: b⟩ := by
  have hhead : (l.source ++ (l.rest ++ w :: b)).head? = (l.source ++ l.rest).head? := by
    rw [List.head?_append_of_ne_nil _ hsource, List.head?_append_of_ne_nil _ hsource]
  refine ⟨?_, ?_, h.meaning.append_blank hopen hw b⟩
  · simp only [hhead]
    exact h.phrase_iff
  · simp only [hhead]
    rw [← List.append_assoc, startsDirective_append_blank hw]
    exact h.keyword_iff

/-- A sign looks at one character behind it, and a blank is like the end of the text. -/
theorem sign?_append_blank {c : Char} (cs : List Char) (hw : isBlank w = true) (b : List Char) :
    sign? (c :: cs ++ w :: b) = sign? (c :: cs) := by
  cases cs with
  | nil =>
    ext s
    simp [sign?_eq_some_iff, hw]
  | cons d cs => exact sign?_cons_cons c d _ _

/-- What is not open is read the same if a blank follows. -/
theorem readContent_append_blank {boundary : Bool} {cs : List Char}
    (hopen : ¬ (readContent boundary cs).IsOpen) (hsource : (readContent boundary cs).source ≠ [])
    (hw : isBlank w = true) (b : List Char) :
    readContent boundary (cs ++ w :: b) =
      ⟨(readContent boundary cs).content, (readContent boundary cs).source,
        (readContent boundary cs).rest ++ w :: b⟩ := by
  have hlawful := (lawful_readContent boundary cs).append_blank hopen hsource hw b
  refine readContent_eq_iff.mpr ⟨?_, hlawful⟩
  rw [← List.append_assoc, readContent_split]

end Append

/-! ## Moved tokens -/

/-- The same stretch, `n` characters further on. -/
def Span.shift (n : Nat) (s : Span) : Span := ⟨s.start + n, s.stop + n⟩

namespace Token

/-- The same token, `n` characters further on. -/
def shift (n : Nat) (t : Token) : Token :=
  { t with span := t.span.shift n, textStart := t.textStart + n }

/-- A text has the same tokens wherever it starts. -/
theorem scan_shift (n pos : Nat) (boundary : Bool) (cs : List Char) :
    scan (pos + n) boundary cs = (scan pos boundary cs).map (shift n) := by
  fun_induction scan pos boundary cs with
  | case1 pos boundary => rw [scan, List.map_nil]
  | case2 pos boundary c cs hc ih => rw [scan_blank hc, Nat.add_right_comm, ih]
  | case3 pos boundary c cs hc sign textStart lexeme stop ih =>
    rw [scan_cons (by simpa using hc), List.map_cons, ← ih]
    simp only [shift, Span.shift, Nat.add_right_comm _ n]
    rfl

/-! ## Two texts -/

/-- A token that may go on if more text follows. -/
def IsOpen (full : List Char) (t : Token) : Prop := (t.lexeme full).IsOpen

section Seam

variable {c w : Char} {cs : List Char} {boundary : Bool}

/-- A first token that is not open stays the first one if a blank and more text follow. -/
theorem scan_cons_append (hc : isBlank c = false)
    (hopen : ¬ (readSigned boundary (c :: cs)).IsOpen) (hw : isBlank w = true) (b : List Char)
    (pos : Nat) :
    scan pos boundary (c :: (cs ++ w :: b)) =
      first pos boundary (c :: cs) :: scan (first pos boundary (c :: cs)).span.stop false
        ((readSigned boundary (c :: cs)).rest ++ w :: b) := by
  have hsign : sign? (c :: (cs ++ w :: b)) = sign? (c :: cs) := sign?_append_blank cs hw b
  have hle : signLength (sign? (c :: cs)) ≤ (c :: cs).length :=
    Nat.le_trans (signLength_le_one _) (by simp)
  have hdrop : (c :: (cs ++ w :: b)).drop (signLength (sign? (c :: cs))) =
      (c :: cs).drop (signLength (sign? (c :: cs))) ++ w :: b := by
    rw [← List.cons_append, List.drop_append_of_le_length hle]
  have hread := readContent_append_blank hopen (readSigned_source_ne_nil boundary cs hc) hw b
  rw [scan_cons hc]
  simp only [hsign, hdrop, hread]
  rfl

/-- **Tokens are local.** If the last token of a text is not open, then behind the text and a
blank stand the tokens that what follows has by itself. -/
theorem scan_append {full a : List Char} {pos : Nat} (ha : full.drop pos = a)
    (hclosed : ∀ t, (scan pos boundary a).getLast? = some t → ¬ t.IsOpen full)
    (hw : isBlank w = true) (b : List Char) :
    scan pos boundary (a ++ w :: b) =
      scan pos boundary a ++ scan (pos + a.length + 1) true b := by
  fun_induction scan pos boundary a with
  | case1 pos boundary => exact scan_blank hw pos boundary b
  | case2 pos boundary c cs hc ih =>
    have hcs : full.drop (pos + 1) = cs := by
      rw [← List.drop_drop, ha, List.drop_one, List.tail_cons]
    rw [List.cons_append, scan_blank hc, ih hcs hclosed, List.length_cons, Nat.add_right_comm pos,
      Nat.add_assoc pos]
  | case3 pos boundary c cs hc sign textStart lexeme stop ih =>
    have hblank : isBlank c = false := by simpa using hc
    have hopen : ¬ lexeme.IsOpen := by
      by_cases hrest : lexeme.rest = []
      · -- then it is the last token
        have hlast := hclosed (first pos boundary (c :: cs)) (by rw [hrest, scan]; rfl)
        rwa [IsOpen, lexeme_first boundary ha] at hlast
      · exact (lawful_readContent boundary _).not_isOpen hrest
    have hrest : full.drop stop = lexeme.rest := drop_stop_first boundary ha
    have hlength : stop + lexeme.rest.length = pos + (c :: cs).length := by
      have hbounds := bounds_first boundary ha hblank
      have htotal := congrArg List.length ha
      rw [List.length_drop] at htotal
      rw [← hrest, List.length_drop]
      have hle : stop ≤ full.length := hbounds.2
      have hlt : pos < stop := hbounds.1
      omega
    have htail := ih hrest fun t ht => hclosed t (by rw [List.getLast?_cons, ht]; rfl)
    rw [List.cons_append, scan_cons_append hblank hopen hw b pos, List.cons_append, ← hlength,
      ← htail]
    rfl

end Seam

end Token

end WikiSearch
