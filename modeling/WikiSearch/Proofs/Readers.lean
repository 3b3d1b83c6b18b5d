import Mathlib.Data.List.TakeWhile
import WikiSearch.Token.Lexer

/-!
# WikiSearch — the laws of the readers

What a reader makes of its input depends on what it takes, and on nothing behind
that. So a token can be cut out of its query and read again by itself, which gives
the same token.

* `readWord_pair`, `readWord_blank`, `readWord_char` and `readQuoted_quote`,
  `readQuoted_pair`, `readQuoted_char` — the equations of the two readers that know
  escapes, one for each thing that can stand at the front.
* `readCandidate?_eq_some` — what a candidate for a directive looks like.
* `readWord_source`, `readQuoted_append`, `readCandidate?_source` — reading again what
  was taken.
* `hasText_of_mem_scan` — no token is an empty word.
-/

namespace WikiSearch

open Text

/-! ## Words -/

/-- A backslash with a character that can be escaped is one character of a word. -/
theorem readWord_pair {c : Char} (h : escapable c = true) (rest : List Char) :
    readWord ('\\' :: c :: rest) = (readWord rest).push c ['\\', c] := by
  rw [readWord, if_pos h]

theorem ne_backslash_of_isBlank {c : Char} (h : isBlank c = true) : c ≠ '\\' := by
  rintro rfl
  exact absurd h (by decide)

/-- A word ends at a blank, so in front of one there is none. -/
theorem readWord_blank {c : Char} (h : isBlank c = true) (rest : List Char) :
    readWord (c :: rest) = .none (c :: rest) := by
  rw [readWord, if_pos h]
  intro d ds heq
  exact absurd heq (ne_backslash_of_isBlank h)

/-- A character that is not blank stands for itself, unless it is the backslash of a pair. -/
theorem readWord_char {c : Char} {rest : List Char} (hblank : isBlank c = false)
    (hpair : ∀ d ds, c = '\\' → rest = d :: ds → escapable d = false) :
    readWord (c :: rest) = (readWord rest).push c [c] := by
  rw [readWord.eq_def]
  split
  · contradiction
  · -- the backslash would have to be that of a pair
    rename_i d ds heq
    obtain ⟨rfl, rfl⟩ := List.cons.inj heq
    rw [if_neg (by simp [hpair d ds rfl rfl])]
  · rename_i d ds _ heq
    obtain ⟨rfl, rfl⟩ := List.cons.inj heq
    rw [if_neg (by simp [hblank])]

/-- Without blanks and backslashes all of a text is one word, as it is. -/
theorem readWord_plain {cs : List Char} (h : ∀ c ∈ cs, isBlank c = false ∧ c ≠ '\\') :
    readWord cs = ⟨cs, cs, []⟩ := by
  induction cs with
  | nil => rfl
  | cons c cs ih =>
    rw [List.forall_mem_cons] at h
    rw [readWord_char h.1.1 fun d ds hc => absurd hc h.1.2, ih h.2]
    rfl

/-- What a word takes is the front of the text. -/
theorem source_eq_of_readWord_cons {cs : List Char} {d : Char} {ds : List Char}
    (h : (readWord cs).source = d :: ds) : ∃ rest, cs = d :: rest := by
  have hsplit := readWord_split cs
  rw [h, List.cons_append] at hsplit
  exact ⟨_, hsplit.symm⟩

/-- Reading what a word took takes all of it again. -/
theorem readWord_source (cs : List Char) :
    readWord (readWord cs).source = ⟨(readWord cs).text, (readWord cs).source, []⟩ := by
  fun_induction readWord cs with
  | case1 => rfl
  | case2 c rest hc ih =>
    simp only [Reading.push, List.cons_append, List.nil_append]
    rw [readWord_pair hc, ih]
    rfl
  | case3 c rest hc ih =>
    simp only [Reading.push, List.cons_append, List.nil_append]
    rw [readWord_char (by decide), ih]
    · rfl
    · -- what was taken behind the backslash starts as before, so there is no pair now
      rintro d ds - hds
      obtain ⟨_, heq⟩ := source_eq_of_readWord_cons hds
      obtain ⟨rfl, -⟩ := List.cons.inj heq
      simpa using hc
  | case4 c rest hne hc => rfl
  | case5 c rest hne hc ih =>
    simp only [Reading.push, List.cons_append, List.nil_append]
    rw [readWord_char (by simpa using hc), ih]
    · rfl
    · rintro d ds hbackslash hds
      obtain ⟨_, heq⟩ := source_eq_of_readWord_cons hds
      exact (hne d _ hbackslash heq).elim

/-! ## Quoted text -/

theorem readQuoted_quote (rest : List Char) :
    readQuoted ('"' :: rest) = (⟨[], ['"'], rest⟩, true) := by
  rw [readQuoted]

/-- Within quotes a backslash stands for the quote or backslash behind it. -/
theorem readQuoted_pair {c : Char} (h : c = '"' ∨ c = '\\') (rest : List Char) :
    readQuoted ('\\' :: c :: rest) =
      ((readQuoted rest).1.push c ['\\', c], (readQuoted rest).2) := by
  rcases h with rfl | rfl <;> rw [readQuoted]

/-- Any other character stands for itself, also a backslash in front of one. -/
theorem readQuoted_char {c : Char} {rest : List Char} (hquote : c ≠ '"')
    (hpair : ∀ d ds, c = '\\' → rest = d :: ds → d ≠ '"' ∧ d ≠ '\\') :
    readQuoted (c :: rest) = ((readQuoted rest).1.push c [c], (readQuoted rest).2) := by
  rw [readQuoted]
  · exact hquote
  · intro ds hc hrest
    exact (hpair _ ds hc hrest).1 rfl
  · intro ds hc hrest
    exact (hpair _ ds hc hrest).2 rfl

/-- What a quoted text takes is the front of the text. -/
theorem source_eq_of_readQuoted_cons {cs : List Char} {d : Char} {ds : List Char}
    (h : (readQuoted cs).1.source = d :: ds) : ∃ rest, cs = d :: rest := by
  have hsplit := readQuoted_split cs
  rw [h, List.cons_append] at hsplit
  exact ⟨_, hsplit.symm⟩

/-- A text that is closed takes its closing quote at least. -/
theorem readQuoted_source_ne_nil {cs : List Char} (h : (readQuoted cs).2 = true) :
    (readQuoted cs).1.source ≠ [] := by
  fun_induction readQuoted cs with
  | case1 => simp at h
  | case2 => simp
  | _ => simp [Reading.push]

/-- The closing quote is the last thing that a quoted text takes, so whatever follows
it is left alone. -/
theorem readQuoted_append {cs : List Char} (h : (readQuoted cs).2 = true) (x : List Char) :
    readQuoted ((readQuoted cs).1.source ++ x) =
      (⟨(readQuoted cs).1.text, (readQuoted cs).1.source, x⟩, true) := by
  fun_induction readQuoted cs with
  | case1 => simp at h
  -- the quote is taken, and `x` is all that is left
  | case2 rest => exact readQuoted_quote x
  -- a pair is taken as a whole, so the closing quote is still to come
  | case3 rest r closed heq ih =>
    rw [heq] at ih
    simp only [Reading.push, List.cons_append, List.nil_append]
    rw [readQuoted_pair (.inl rfl), ih h]
    rfl
  | case4 rest r closed heq ih =>
    rw [heq] at ih
    simp only [Reading.push, List.cons_append, List.nil_append]
    rw [readQuoted_pair (.inr rfl), ih h]
    rfl
  | case5 c rest hquote hescaped hbackslash r closed heq ih =>
    rw [heq] at ih
    simp only [Reading.push, List.cons_append, List.nil_append]
    rw [readQuoted_char hquote, ih h]
    · rfl
    · -- the text behind the character is not empty, as it ends in the closing quote, and
      -- starts as before
      intro d ds hc hds
      obtain ⟨e, es, hsource⟩ := List.exists_cons_of_ne_nil
        (readQuoted_source_ne_nil (by rw [heq]; exact h))
      obtain ⟨_, hrest⟩ := source_eq_of_readQuoted_cons hsource
      rw [heq] at hsource
      rw [hsource, List.cons_append] at hds
      obtain ⟨rfl, -⟩ := List.cons.inj hds
      refine ⟨?_, ?_⟩
      · rintro rfl
        exact hescaped _ hc hrest
      · rintro rfl
        exact hbackslash _ hc hrest

/-- Without a closing quote a quoted text takes all there is. -/
theorem readQuoted_rest_eq_nil {cs : List Char} (h : (readQuoted cs).2 = false) :
    (readQuoted cs).1.rest = [] := by
  fun_induction readQuoted cs with
  | case1 => rfl
  | case2 => simp at h
  | _ => simp_all [Reading.push]

/-! ## Candidates for a directive -/

/-- Reading what a run took takes all of it again. -/
theorem readWhile_source (p : Char → Bool) (cs : List Char) :
    readWhile p (readWhile p cs).source = ⟨(readWhile p cs).text, (readWhile p cs).source, []⟩ := by
  have hall : ∀ c ∈ cs.takeWhile p, p c = true := fun c hc => List.mem_takeWhile_imp hc
  simp only [readWhile, Reading.mk.injEq]
  exact ⟨List.takeWhile_eq_self_iff.mpr hall, List.takeWhile_eq_self_iff.mpr hall,
    List.dropWhile_eq_nil_iff.mpr hall⟩

section Candidate

variable {key cs : List Char} {lexeme : Lexeme}

/-- A key ends at the colon behind it. -/
theorem readWhile_key (hkey : ∀ c ∈ key, isKeyChar c = true) (rest : List Char) :
    readWhile isKeyChar (key ++ ':' :: rest) = ⟨key, key, ':' :: rest⟩ := by
  have hcolon : isKeyChar ':' = false := by decide
  simp only [readWhile, List.takeWhile_append_of_pos hkey, List.dropWhile_append_of_pos hkey,
    List.takeWhile_cons, List.dropWhile_cons, hcolon, Bool.false_eq_true, if_false,
    List.append_nil]

/-- A quote right behind the colon makes a quoted value. -/
theorem readCandidate?_quoted (hne : key ≠ []) (hkey : ∀ c ∈ key, isKeyChar c = true)
    (rest : List Char) :
    readCandidate? (key ++ ':' :: '"' :: rest) = some (readQuotedValue key rest) := by
  simp only [readCandidate?, readWhile_key hkey, if_neg hne]

/-- Any other character behind the colon makes a value without quotes, unless it is a blank. -/
theorem readCandidate?_bare (hne : key ≠ []) (hkey : ∀ c ∈ key, isKeyChar c = true) {c : Char}
    (hquote : c ≠ '"') (hblank : isBlank c = false) (rest : List Char) :
    readCandidate? (key ++ ':' :: c :: rest) = some (readBareValue key (c :: rest)) := by
  simp only [readCandidate?, readWhile_key hkey, if_neg hne, hblank, Bool.false_eq_true, if_false]

/-- A candidate is a key, a colon and a value that does not start with a blank. -/
theorem readCandidate?_eq_some (h : readCandidate? cs = some lexeme) :
    ∃ key, key ≠ [] ∧ (∀ c ∈ key, isKeyChar c = true) ∧
      ((∃ rest, cs = key ++ ':' :: '"' :: rest ∧ lexeme = readQuotedValue key rest) ∨
       (∃ c rest, cs = key ++ ':' :: c :: rest ∧ c ≠ '"' ∧ isBlank c = false ∧
          lexeme = readBareValue key (c :: rest))) := by
  have hsplit : (readWhile isKeyChar cs).text ++ (readWhile isKeyChar cs).rest = cs :=
    readWhile_split isKeyChar cs
  unfold readCandidate? at h
  simp only at h
  -- the key is a run of the characters that a key can have, which must not be empty
  split at h
  · contradiction
  · rename_i hne
    refine ⟨(readWhile isKeyChar cs).text, hne, fun c hc => List.mem_takeWhile_imp hc, ?_⟩
    -- what follows the key decides: a colon with a quote, a colon with another character, or
    -- neither
    split at h
    · rename_i rest hrest
      exact .inl ⟨rest, by rw [← hrest, hsplit], (Option.some.inj h).symm⟩
    · rename_i c rest hquote hrest
      split at h
      · contradiction
      · rename_i hblank
        exact .inr ⟨c, rest, by rw [← hrest, hsplit], hquote, by simpa using hblank,
          (Option.some.inj h).symm⟩
    · contradiction

/-- A quoted value takes what its quoted text takes and its suffix, and both again. -/
theorem readQuotedValue_source (key cs : List Char) :
    readQuotedValue key ((readQuoted cs).1.source ++
        (readWhile (fun c => !isBlank c) (readQuoted cs).1.rest).source) =
      ⟨(readQuotedValue key cs).content, (readQuotedValue key cs).source, []⟩ := by
  by_cases hclosed : (readQuoted cs).2 = true
  · -- the suffix starts where the closing quote ended
    simp only [readQuotedValue, readQuoted_append hclosed, readWhile_source]
  · -- without a closing quote there is no suffix
    have hnil := readQuoted_rest_eq_nil (by simpa using hclosed)
    have hsplit := readQuoted_split cs
    rw [hnil, List.append_nil] at hsplit
    simp only [readQuotedValue, hnil, hsplit, readWhile, List.takeWhile_nil, List.dropWhile_nil,
      List.append_nil]

/-- A value without quotes is read as a word is. -/
theorem readBareValue_source (key cs : List Char) :
    readBareValue key (readWord cs).source =
      ⟨(readBareValue key cs).content, (readBareValue key cs).source, []⟩ := by
  simp only [readBareValue, readWord_source]

/-- Reading what a candidate took gives the candidate again, and nothing is left. -/
theorem readCandidate?_source (h : readCandidate? cs = some lexeme) :
    readCandidate? lexeme.source = some ⟨lexeme.content, lexeme.source, []⟩ := by
  obtain ⟨key, hne, hkey, ⟨rest, -, rfl⟩ | ⟨c, rest, -, hquote, hblank, rfl⟩⟩ :=
    readCandidate?_eq_some h
  · rw [← readQuotedValue_source, ← readCandidate?_quoted hne hkey]
    simp [readQuotedValue]
  · -- the value still starts with the character that is neither a quote nor a blank
    have hsource := readWord_source_ne_nil hblank rest
    obtain ⟨d, ds, hds⟩ := List.exists_cons_of_ne_nil hsource
    obtain ⟨_, hd⟩ := source_eq_of_readWord_cons hds
    obtain ⟨rfl, -⟩ := List.cons.inj hd
    rw [← readBareValue_source, hds, ← readCandidate?_bare hne hkey hquote hblank, ← hds]
    simp [readBareValue]

/-- A candidate starts with a character of its key. -/
theorem exists_keyChar_of_readCandidate? (h : readCandidate? cs = some lexeme) :
    ∃ c ds, cs = c :: ds ∧ isKeyChar c = true := by
  obtain ⟨key, hne, hkey, hform⟩ := readCandidate?_eq_some h
  obtain ⟨c, cs', rfl⟩ := List.exists_cons_of_ne_nil hne
  refine ⟨c, ?_⟩
  rcases hform with ⟨rest, rfl, -⟩ | ⟨d, rest, rfl, -⟩
  · exact ⟨_, rfl, hkey c (List.mem_cons_self ..)⟩
  · exact ⟨_, rfl, hkey c (List.mem_cons_self ..)⟩

/-- At a boundary a candidate comes first. -/
theorem readContent_of_readCandidate? (h : readCandidate? cs = some lexeme) :
    readContent true cs = lexeme := by
  obtain ⟨c, ds, rfl, hkey⟩ := exists_keyChar_of_readCandidate? h
  unfold readContent
  split
  · -- a quote is no part of a key
    rename_i heq
    obtain ⟨rfl, -⟩ := List.cons.inj heq
    exact absurd hkey (by decide)
  · rw [if_pos rfl, h]

/-- A token that holds a candidate stands at a boundary. -/
theorem readCandidate?_of_readContent {boundary : Bool} {c : Candidate}
    (h : (readContent boundary cs).content = .keyword c) :
    boundary = true ∧ readCandidate? cs = some (readContent boundary cs) := by
  unfold readContent at h ⊢
  split at h
  · -- behind a quote stands a phrase, which is no candidate
    rename_i rest
    simp only [readPhrase] at h
    split at h <;> contradiction
  · split at h
    · rename_i hread
      cases boundary with
      | false => simp at hread
      | true => simpa using hread
    · contradiction

end Candidate

/-! ## No word is empty -/

/-- The text of a word is not empty, and neither is that of a candidate, which becomes a
word if it is no directive. -/
def Content.HasText : Content → Prop
  | .word text => text ≠ ""
  | .phrase _ => True
  | .keyword c => c.literal ≠ ""

/-- A word that does not start with a blank has at least one character. -/
theorem readWord_text_ne_nil {c : Char} (h : isBlank c = false) (cs : List Char) :
    (readWord (c :: cs)).text ≠ [] := by
  rw [readWord.eq_def]
  split
  · contradiction
  · split <;> simp [Reading.push]
  · rename_i heq
    obtain ⟨rfl, rfl⟩ := List.cons.inj heq
    simp [h, Reading.push]

/-- A candidate has the colon in its text. -/
theorem readCandidate?_hasText {cs : List Char} {lexeme : Lexeme}
    (h : readCandidate? cs = some lexeme) : lexeme.content.HasText := by
  obtain ⟨key, -, -, ⟨rest, -, rfl⟩ | ⟨c, rest, -, -, -, rfl⟩⟩ := readCandidate?_eq_some h
  · show String.ofList _ ≠ ""
    simp
  · show String.ofList _ ≠ ""
    simp

/-- Whatever stands in front of a character that is no blank, the token there has a text. -/
theorem readContent_hasText (boundary : Bool) {c : Char} (h : isBlank c = false)
    (cs : List Char) : (readContent boundary (c :: cs)).content.HasText := by
  unfold readContent
  split
  · -- a phrase may well be empty
    simp only [readPhrase]
    split <;> exact trivial
  · split
    · rename_i lexeme hread
      cases boundary with
      | false => contradiction
      | true => exact readCandidate?_hasText (by simpa using hread)
    · -- without a candidate what stands there is a word
      show String.ofList _ ≠ ""
      simpa using readWord_text_ne_nil h cs

/-! ## Signs -/

/-- Of what follows it, a sign looks at the first character alone. -/
theorem sign?_cons_cons (c d : Char) (ds ds' : List Char) :
    sign? (c :: d :: ds) = sign? (c :: d :: ds') := by
  by_cases hplus : c = '+'
  · subst hplus
    rfl
  · by_cases hminus : c = '-'
    · subst hminus
      rfl
    · -- no other character is a sign, whatever stands behind it
      simp [sign?, hplus, hminus]

/-- A sign is no part of a key. -/
theorem sign?_of_keyChar {c : Char} (h : isKeyChar c = true) (cs : List Char) :
    sign? (c :: cs) = none := by
  unfold sign?
  split
  · rename_i heq
    obtain ⟨rfl, -⟩ := List.cons.inj heq
    exact absurd h (by decide)
  · rename_i heq
    obtain ⟨rfl, -⟩ := List.cons.inj heq
    exact absurd h (by decide)
  · rfl

theorem signLength_le_one (sign : Option Sign) : signLength sign ≤ 1 := by
  unfold signLength
  split <;> omega

/-- The characters of a sign are there to be taken. -/
theorem length_take_signLength (sign : Option Sign) (c : Char) (cs : List Char) :
    ((c :: cs).take (signLength sign)).length = signLength sign := by
  have hle := signLength_le_one sign
  rw [List.length_take, List.length_cons]
  omega

/-- Behind its sign a token still takes a character. -/
theorem readSigned_source_ne_nil (boundary : Bool) {c : Char} (cs : List Char)
    (h : isBlank c = false) :
    (readContent boundary ((c :: cs).drop (signLength (sign? (c :: cs))))).source ≠ [] := by
  obtain ⟨d, ds, hd, hblank⟩ := exists_cons_of_sign? cs h
  rw [hd]
  exact readContent_source_ne_nil boundary hblank ds

/-- A token with its sign takes the first character, and it leaves what its reader
leaves. -/
theorem readSigned_split (boundary : Bool) {c : Char} (cs : List Char) (h : isBlank c = false) :
    ∃ source,
      c :: cs = c :: source ++
        (readContent boundary ((c :: cs).drop (signLength (sign? (c :: cs))))).rest ∧
      (c :: source).length = signLength (sign? (c :: cs)) +
        (readContent boundary ((c :: cs).drop (signLength (sign? (c :: cs))))).source.length := by
  have hne := readSigned_source_ne_nil boundary cs h
  have hlength := length_take_signLength (sign? (c :: cs)) c cs
  generalize signLength (sign? (c :: cs)) = k at hne hlength ⊢
  have hsplit : ((c :: cs).take k ++ (readContent boundary ((c :: cs).drop k)).source) ++
      (readContent boundary ((c :: cs).drop k)).rest = c :: cs := by
    rw [List.append_assoc, readContent_split, List.take_append_drop]
  -- the sign and the source together hold the first character
  rcases List.append_eq_cons_iff.mp hsplit with ⟨hnil, _⟩ | ⟨source, hsource, hrest⟩
  · exact absurd (List.append_eq_nil_iff.mp hnil).2 hne
  · refine ⟨source, by rw [List.cons_append, ← hrest], ?_⟩
    rw [← hsource, List.length_append, hlength]

/-! ## Tokens -/

namespace Token

/-- A blank is skipped, and behind it is a boundary. -/
theorem scan_blank {c : Char} (h : isBlank c = true) (pos : Nat) (boundary : Bool)
    (cs : List Char) : scan pos boundary (c :: cs) = scan (pos + 1) true cs := by
  rw [scan, dif_pos h]

/-- The first token of a text that does not start with a blank. -/
theorem scan_cons {c : Char} (h : isBlank c = false) (pos : Nat) (boundary : Bool)
    (cs : List Char) :
    scan pos boundary (c :: cs) =
      let sign := sign? (c :: cs)
      let lexeme := readContent boundary ((c :: cs).drop (signLength sign))
      let stop := pos + signLength sign + lexeme.source.length
      ⟨lexeme.content, sign, ⟨pos, stop⟩, pos + signLength sign⟩ ::
        scan stop false lexeme.rest := by
  rw [scan, dif_neg (by simp [h])]

/-- A text that is all of one token. -/
theorem scan_eq_singleton {c : Char} {cs : List Char} {boundary : Bool} {content : Content}
    (hc : isBlank c = false)
    (hread : readContent boundary ((c :: cs).drop (signLength (sign? (c :: cs)))) =
      ⟨content, (c :: cs).drop (signLength (sign? (c :: cs))), []⟩) (pos : Nat) :
    scan pos boundary (c :: cs) =
      [⟨content, sign? (c :: cs), ⟨pos, pos + (c :: cs).length⟩,
        pos + signLength (sign? (c :: cs))⟩] := by
  have hk := signLength_le_one (sign? (c :: cs))
  have hlength : pos + signLength (sign? (c :: cs)) +
      ((c :: cs).drop (signLength (sign? (c :: cs)))).length = pos + (c :: cs).length := by
    rw [List.length_drop, List.length_cons]
    omega
  rw [scan_cons hc]
  simp only [hread, hlength]
  rw [scan]

/-- No token is an empty word. -/
theorem hasText_of_mem_scan {pos : Nat} {boundary : Bool} {cs : List Char} {t : Token}
    (h : t ∈ scan pos boundary cs) : t.content.HasText := by
  fun_induction scan pos boundary cs with
  | case1 => contradiction
  -- a blank is no token
  | case2 pos boundary c cs hc ih => exact ih h
  | case3 pos boundary c cs hc sign textStart lexeme stop ih =>
    rcases List.mem_cons.mp h with rfl | h
    · -- behind the sign of a token stands a character that is no blank
      obtain ⟨d, ds, hd, hblank⟩ := exists_cons_of_sign? cs (by simpa using hc)
      show lexeme.content.HasText
      simp only [lexeme, sign, hd]
      exact readContent_hasText boundary hblank ds
    · exact ih h

/-- All the blanks in front of a text are skipped. -/
theorem scan_replicate_blank (k pos : Nat) (cs : List Char) :
    scan pos true (List.replicate k ' ' ++ cs) = scan (pos + k) true cs := by
  induction k generalizing pos with
  | zero => rfl
  | succ k ih =>
    rw [List.replicate_succ, List.cons_append, scan_blank (by decide), ih, Nat.add_right_comm,
      Nat.add_assoc]

/-- The source of a candidate starts with its sign, if it has one. -/
theorem sign?_source {c : Char} {cs : List Char} {lexeme : Lexeme}
    (h : readCandidate? ((c :: cs).drop (signLength (sign? (c :: cs)))) = some lexeme) :
    ∃ source, (c :: cs).take (signLength (sign? (c :: cs))) ++ lexeme.source = c :: source ∧
      sign? (c :: source) = sign? (c :: cs) := by
  obtain ⟨d, ds, hsource, hkey⟩ := exists_keyChar_of_readCandidate? (readCandidate?_source h)
  have hsplit := readCandidate?_split h
  rw [hsource, List.cons_append] at hsplit
  cases hsign : sign? (c :: cs) with
  | none =>
    -- the first character is one of the key, which is never taken for a sign
    rw [hsign] at hsplit
    obtain ⟨rfl, -⟩ := List.cons.inj hsplit
    exact ⟨ds, by simp [signLength, hsource], sign?_of_keyChar hkey ds⟩
  | some sign =>
    -- the sign is followed by the same character as before
    rw [hsign] at hsplit
    have hcs : cs = d :: (ds ++ lexeme.rest) := by simpa [signLength] using hsplit.symm
    refine ⟨d :: ds, by simp [signLength, hsource], ?_⟩
    rw [← hsign, hcs]
    exact sign?_cons_cons c d ds _

/-- **A candidate can be cut out.** The characters of a candidate, read by themselves,
give the candidate with its sign again, wherever they stand. -/
theorem exists_source_of_candidate {pos : Nat} {boundary : Bool} {cs : List Char} {t : Token}
    {c : Candidate} (ht : t ∈ scan pos boundary cs) (hc : t.content = .keyword c) :
    ∃ source : List Char, source.length = t.span.length ∧ ∀ start,
      scan start true source = [⟨.keyword c, t.sign, ⟨start, start + source.length⟩,
        start + signLength t.sign⟩] := by
  fun_induction scan pos boundary cs with
  | case1 => contradiction
  | case2 pos boundary d cs hd ih => exact ih ht
  | case3 pos boundary d cs hd sign textStart lexeme stop ih =>
    rcases List.mem_cons.mp ht with rfl | ht
    · -- the first token of the text is the candidate
      obtain ⟨-, hread⟩ := readCandidate?_of_readContent hc
      obtain ⟨source, hsource, hsign⟩ := sign?_source hread
      have hk := length_take_signLength sign d cs
      have hlength : (d :: source).length = signLength sign + lexeme.source.length := by
        rw [← hsource, List.length_append, hk]
      have hdrop : (d :: source).drop (signLength sign) = lexeme.source := by
        rw [← hsource, List.drop_left' hk]
      refine ⟨d :: source, ?_, fun start => ?_⟩
      · show (d :: source).length = stop - pos
        omega
      · -- at its own start the source stands at a boundary
        have hagain := readContent_of_readCandidate? (readCandidate?_source hread)
        have hsign' : sign? (d :: source) = sign := hsign
        have hcontent : lexeme.content = .keyword c := hc
        rw [scan_eq_singleton (by simpa using hd) (by rw [hsign', hdrop, hagain]), hsign']
        show [Token.mk lexeme.content _ _ _] = _
        rw [hcontent]
    · exact ih ht

end Token

end WikiSearch
