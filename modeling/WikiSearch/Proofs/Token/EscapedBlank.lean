import WikiSearch.Proofs.Token.Locality

/-!
# WikiSearch — what stands behind an escaped blank

Whether a candidate for a directive may start is decided by the one character in front of it, and
a blank with a backslash in front of it is a blank to that test. That such a blank hides what is
behind it has to come from the token that reaches up to it, which must take the blank along. Words
and values without quotes do so by their escapes, and a phrase ends with its closing quote or with
its mark. What is left is the suffix of a value in quotes: it ends at any blank, and a backslash
is no escape in it.

So a token starts behind an escaped blank exactly if such a suffix ends there.

Main results:

* `Token.blank_or_of_start` — what the character in front of a token can be.
* `Lexeme.Lawful.odd_trailingBackslashes_iff` — the one way for a token to end with an odd run of
  backslashes in front of a blank.
* `Token.behindEscapedBlank_iff` — where tokens start behind an escaped blank.
* `Query.starts_behind_escapedBlank` — the same for the clauses of a query.
-/

namespace WikiSearch

open Text Piece

/-- An offset right behind a blank that has an odd run of backslashes in front of it. -/
def BehindEscapedBlank (full : List Char) (pos : Nat) : Prop :=
  ∃ i w, pos = i + 1 ∧ full[i]? = some w ∧ isBlank w = true ∧
    Odd (trailingBackslashes (full.take i))

/-- A directive whose value is in quotes, with a suffix that ends with an odd run of
backslashes. -/
def Content.EndsInSuffix : Content → Prop
  | .keyword c => c.delimiter = some '"' ∧ Odd (trailingBackslashes c.suffix.toList)
  | _ => False

/-- An offset one blank behind a token that ends in such a suffix. -/
def BehindSuffix (tokens : List Token) (pos : Nat) : Prop :=
  ∃ u ∈ tokens, u.content.EndsInSuffix ∧ u.span.stop + 1 = pos

/-- Right behind another character there is no run of backslashes. -/
theorem trailingBackslashes_take_succ {full : List Char} {i : Nat} {c : Char}
    (hc : full[i]? = some c) (hne : c ≠ '\\') : trailingBackslashes (full.take (i + 1)) = 0 := by
  rw [List.take_add_one, hc, Option.toList_some, trailingBackslashes_append_of_ne hne]

/-- An odd run of backslashes ends with one. -/
theorem exists_last_of_odd {full : List Char} {i : Nat} (h : Odd (trailingBackslashes (full.take i)))
    (hle : i ≤ full.length) : ∃ j, i = j + 1 ∧ full[j]? = some '\\' := by
  -- at the start of the text there is no run at all
  cases i with
  | zero =>
    rw [List.take_zero] at h
    exact absurd h (by decide)
  | succ j =>
    obtain ⟨c, hc⟩ : ∃ c, full[j]? = some c := ⟨_, List.getElem?_eq_getElem hle⟩
    refine ⟨j, rfl, ?_⟩
    by_contra hne
    have hne' : c ≠ '\\' := by
      rintro rfl
      exact hne hc
    rw [trailingBackslashes_take_succ hc hne'] at h
    exact absurd h (by decide)

/-! ## How a token ends in front of a blank -/

section Ending

variable {boundary : Prop} {l : Lexeme} {w : Char}

/-- **How a token ends in front of a blank.** Only the suffix of a value in quotes ends with an
odd run of backslashes there. -/
theorem Lexeme.Lawful.odd_trailingBackslashes_iff (h : l.Lawful boundary)
    (hrest : l.rest.head? = some w) (hw : isBlank w = true) {before : List Char}
    (hbefore : trailingBackslashes before = 0) :
    Odd (trailingBackslashes (before ++ l.source)) ↔ l.content.EndsInSuffix := by
  have hword {ps : List Piece} {rest : List Char} (hspelling : Spelling wordEscaping ps rest)
      (hhead : rest.head? = some w) : ¬ Odd (trailingBackslashes (before ++ sources ps)) := by
    -- the blank could form a pair, so the backslashes in front of it are taken
    have hnone : Even (trailingBackslashes before) := by
      rw [hbefore]
      exact ⟨0, rfl⟩
    have hpair : escapable w = true := by simp [escapable, hw]
    rw [← List.append_nil ps] at hspelling
    rw [Nat.not_odd_iff_even]
    exact hspelling.even_trailingBackslashes hnone hhead hpair
  obtain ⟨content, source, rest⟩ := l
  obtain ⟨-, -, hmeaning⟩ := h
  simp only at hmeaning hrest ⊢
  cases hmeaning with
  | word hspelling => exact iff_of_false (hword hspelling hrest) id
  | unclosedPhrase hspelling => contradiction
  | @phrase ps mark _ slop stemmed hspelling hmarks =>
    obtain ⟨front, d, hmark, -, hd⟩ := Token.exists_last_of_marks hmarks
    refine iff_of_false ?_ id
    -- the mark ends the run, if there was one in the phrase
    rw [hmark, ← List.append_assoc, ← List.cons_append, ← List.append_assoc,
      trailingBackslashes_append_of_ne hd]
    decide
  | bareValue hkey hspelling hsources hquote hchars =>
    refine iff_of_false (hword hspelling hrest) ?_
    rintro ⟨hdelimiter, -⟩
    contradiction
  | unclosedValue hkey hspelling => contradiction
  | @quotedValue ps key suffix _ hkey hspelling hsuffix =>
    have hsource : before ++ (key ++ ':' :: '"' :: (sources ps ++ '"' :: suffix)) =
        (before ++ key ++ ':' :: '"' :: sources ps) ++ '"' :: suffix := by simp
    rw [hsource, trailingBackslashes_append_cons (by decide)]
    simp only [Content.EndsInSuffix, String.toList_ofList, true_and]

/-- A suffix goes on to a blank or to the end of the text. -/
theorem Lexeme.Lawful.isBlank_of_endsInSuffix (h : l.Lawful boundary)
    (hsuffix : l.content.EndsInSuffix) (hrest : l.rest.head? = some w) : isBlank w = true := by
  obtain ⟨content, source, rest⟩ := l
  obtain ⟨-, -, hmeaning⟩ := h
  simp only at hmeaning hsuffix hrest
  -- of the six kinds of tokens one has a suffix
  cases hmeaning with
  | word hspelling => exact hsuffix.elim
  | unclosedPhrase hspelling => contradiction
  | phrase hspelling hmarks => exact hsuffix.elim
  | bareValue hkey hspelling hsources hquote hchars =>
    have hdelimiter := hsuffix.1
    contradiction
  | unclosedValue hkey hspelling => contradiction
  | quotedValue hkey hspelling hrun => simpa using hrun.stops w hrest

end Ending

/-! ## What stands in front of a token -/

/-- Of two tokens, one ends before the other one starts. -/
theorem Tokenization.apart {full : List Char} {ts : List Token} {t u : Token}
    (h : Tokenization full 0 ts) (ht : t ∈ ts) (hu : u ∈ ts) (hne : t ≠ u) :
    t.span.stop ≤ u.span.start ∨ u.span.stop ≤ t.span.start := by
  have hsymm : Std.Symm fun t u : Token =>
      t.span.stop ≤ u.span.start ∨ u.span.stop ≤ t.span.start := ⟨fun _ _ => Or.symm⟩
  have hpairs : ts.Pairwise fun t u : Token =>
      t.span.stop ≤ u.span.start ∨ u.span.stop ≤ t.span.start := h.ordered.imp Or.inl
  exact hpairs.forall ht hu hne

namespace Token

variable {full : List Char} {t : Token}

/-- **What stands in front of a token**: a blank that is in no token, or the last character of a
phrase. -/
theorem blank_or_of_start (ht : t ∈ scan 0 true full) {i : Nat} {d : Char}
    (hi : t.span.start = i + 1) (hd : full[i]? = some d) :
    (isBlank d = true ∧ ∀ u ∈ scan 0 true full, i ∉ u.span) ∨ (isBlank d = false ∧ d ≠ '\\') := by
  have h := tokenization_scan full
  by_cases hin : ∃ u ∈ scan 0 true full, i ∈ u.span
  · obtain ⟨u, hu, hmem⟩ := hin
    rw [Span.mem_iff] at hmem
    obtain ⟨-, htlt, htle⟩ := h.bounds t ht
    obtain ⟨-, -, hule⟩ := h.bounds u hu
    have hne : t ≠ u := by
      rintro rfl
      omega
    -- the token that holds the character ends right where the other one starts
    have hstop : u.span.stop = i + 1 := by
      rcases h.apart ht hu hne with hle | hle <;> omega
    obtain ⟨c, hc, hblank⟩ := (h.lawful t ht).exists_start htlt htle
    rw [hi, ← hstop] at hc
    obtain ⟨e, he, hnot⟩ := exists_last_of_followed (h.lawful u hu).lexeme
      (placed_of_mem_scan hu).textStart_lt hule hc hblank
    rw [hstop, Nat.add_sub_cancel, hd, Option.some.injEq] at he
    rw [he]
    exact .inr hnot
  · refine .inl ⟨?_, fun u hu hmem => hin ⟨u, hu, hmem⟩⟩
    by_contra hblank
    exact hin (h.covered i d (Nat.zero_le i) hd (by simpa using hblank))

/-- What stands in front of the text of a token, its sign or another character, is no backslash. -/
theorem trailingBackslashes_take_textStart (ht : t ∈ scan 0 true full) :
    trailingBackslashes (full.take t.textStart) = 0 := by
  have h := tokenization_scan full
  rw [(placed_of_mem_scan ht).textStart_eq]
  -- a sign is no backslash, and in front of a token stands a blank or the end of a phrase
  cases hsign : t.sign with
  | some s =>
    obtain ⟨hc, -⟩ := ((h.lawful t ht).sign_iff s).mp hsign
    exact trailingBackslashes_take_succ hc s.char_ne_backslash
  | none =>
    show trailingBackslashes (full.take t.span.start) = 0
    cases hstart : t.span.start with
    | zero => rw [List.take_zero]; rfl
    | succ i =>
      obtain ⟨-, hlt, hle⟩ := h.bounds t ht
      obtain ⟨d, hd⟩ : ∃ d, full[i]? = some d := ⟨_, List.getElem?_eq_getElem (by omega)⟩
      have hne : d ≠ '\\' := by
        rcases blank_or_of_start ht hstart hd with ⟨hblank, -⟩ | ⟨-, hne⟩
        · exact ne_backslash_of_isBlank hblank
        · exact hne
      exact trailingBackslashes_take_succ hd hne

/-- Where a token ends in front of a blank, an odd run of backslashes is that of a suffix. -/
theorem odd_trailingBackslashes_take_stop_iff (ht : t ∈ scan 0 true full) {w : Char}
    (hnext : full[t.span.stop]? = some w) (hw : isBlank w = true) :
    Odd (trailingBackslashes (full.take t.span.stop)) ↔ t.content.EndsInSuffix := by
  have hle := Nat.le_of_lt (placed_of_mem_scan ht).textStart_lt
  have htake : full.take t.span.stop = full.take t.textStart ++ (t.lexeme full).source := by
    rw [lexeme, ← List.take_add, Nat.add_sub_cancel' hle]
  have hrest : (t.lexeme full).rest.head? = some w := by
    rw [lexeme, List.head?_drop, hnext]
  rw [htake]
  exact ((tokenization_scan full).lawful t ht).lexeme.odd_trailingBackslashes_iff hrest hw
    (trailingBackslashes_take_textStart ht)

/-- **Where tokens start behind an escaped blank**: exactly where the suffix of a value in quotes
ends in front of that blank. -/
theorem behindEscapedBlank_iff (ht : t ∈ scan 0 true full) :
    BehindEscapedBlank full t.span.start ↔ BehindSuffix (scan 0 true full) t.span.start := by
  have h := tokenization_scan full
  obtain ⟨-, hlt, hle⟩ := h.bounds t ht
  constructor
  · rintro ⟨i, w, hi, hiw, hw, hodd⟩
    -- the blank is in no token, but the backslash in front of it is in one, which ends there
    obtain ⟨j, rfl, hj⟩ := exists_last_of_odd hodd (by omega)
    obtain ⟨u, hu, hmem⟩ := h.covered j _ (Nat.zero_le j) hj (by decide)
    have hout : j + 1 ∉ u.span := by
      rcases blank_or_of_start ht hi hiw with ⟨-, hout⟩ | ⟨hblank, -⟩
      · exact hout u hu
      · rw [hblank] at hw
        contradiction
    rw [Span.mem_iff] at hmem hout
    have hstop : u.span.stop = j + 1 := by omega
    rw [← hstop] at hiw hodd
    exact ⟨u, hu, (odd_trailingBackslashes_take_stop_iff hu hiw hw).mp hodd, by omega⟩
  · rintro ⟨u, hu, hsuffix, hstop⟩
    obtain ⟨w, hnext⟩ : ∃ w, full[u.span.stop]? = some w :=
      ⟨_, List.getElem?_eq_getElem (by omega)⟩
    have hw : isBlank w = true := by
      refine (h.lawful u hu).lexeme.isBlank_of_endsInSuffix hsuffix ?_
      rw [lexeme, List.head?_drop, hnext]
    exact ⟨u.span.stop, w, hstop.symm, hnext, hw,
      (odd_trailingBackslashes_take_stop_iff hu hnext hw).mpr hsuffix⟩

/-- The text behind a sign does not start behind a blank. -/
theorem start_of_behindEscapedBlank (ht : t ∈ scan 0 true full)
    (h : BehindEscapedBlank full t.textStart) : BehindEscapedBlank full t.span.start := by
  have htext := (placed_of_mem_scan ht).textStart_eq
  cases hsign : t.sign with
  | none => rwa [htext, hsign] at h
  | some s =>
    obtain ⟨hc, -⟩ := (((tokenization_scan full).lawful t ht).sign_iff s).mp hsign
    obtain ⟨i, w, hi, hiw, hw, -⟩ := h
    -- otherwise the sign itself would be the blank
    have hstart : t.span.start = i := by
      rw [htext, hsign] at hi
      exact Nat.succ.inj hi
    rw [← hstart, hc, Option.some.injEq] at hiw
    rw [← hiw, s.isBlank_char] at hw
    contradiction

end Token

/-! ## Main results -/

namespace Query

open Token

/-- **Nothing starts behind an escaped blank but for suffixes.** In a text of any length, a token
starts behind a blank with an odd run of backslashes in front of it exactly if the suffix of a
value in quotes ends with that run. So behind any other escaped blank starts no candidate for a
directive; and, whatever the registered keywords and the options are, no clause of a query that
was read and no directive in one starts there either. -/
theorem starts_behind_escapedBlank (text : String) :
    (∀ t ∈ scan 0 true text.toList, BehindEscapedBlank text.toList t.span.start ↔
      BehindSuffix (scan 0 true text.toList) t.span.start) ∧
    ∀ registry options q, parse registry options text = .ok q → ∀ c ∈ q.clauses,
      BehindEscapedBlank text.toList c.span.start ∨
          BehindEscapedBlank text.toList c.node.span.start →
        BehindSuffix (scan 0 true text.toList) c.span.start := by
  refine ⟨fun t ht => behindEscapedBlank_iff ht, fun registry options q h c hc hbehind => ?_⟩
  rw [clauses_of_parse h] at hc
  obtain ⟨t, ht, rfl⟩ := List.mem_map.mp hc
  -- a clause stands where its token does, and a node where the text of the token does
  simp only [span_tokenClause, nodeSpan_tokenClause] at hbehind ⊢
  rcases hbehind with hstart | htext
  · exact (behindEscapedBlank_iff ht).mp hstart
  · exact (behindEscapedBlank_iff ht).mp (start_of_behindEscapedBlank ht htext)

/-- A text in which a value in quotes has a backslash for its suffix. -/
def suffixText : String := "pageid:\"1\"\\ fileh:2"

/-- The candidate behind that suffix and the blank. -/
def filehToken : Token :=
  ⟨.keyword ⟨⟨"fileh", "2", "2", none, ""⟩, "fileh:2"⟩, none, ⟨12, 19⟩, 12⟩

theorem filehToken_mem_scan : filehToken ∈ scan 0 true suffixText.toList := by decide +kernel

theorem behindEscapedBlank_suffixText : BehindEscapedBlank suffixText.toList 12 :=
  ⟨11, ' ', rfl, by decide, by decide, by decide⟩

/-- The candidate becomes a directive. -/
theorem exists_directive_of_suffixText :
    ∃ q, parse (.builtin {}) {} suffixText = .ok q ∧ ∃ c ∈ q.clauses, c.span.start = 12 ∧
      c.node.span.start = 12 ∧ ∃ k s, c.node = .directive k s := by
  have hrecognized : (Registry.builtin {}).recognizes
      ⟨⟨"fileh", "2", "2", none, ""⟩, "fileh:2"⟩ = true := by decide +kernel
  obtain ⟨parsed, hresolve⟩ := resolve_of_recognizes hrecognized false ⟨12, 19⟩
  refine ⟨_, parse_of_length_le (.builtin {}) {} suffixText (by decide), _,
    List.mem_map_of_mem filehToken_mem_scan, rfl, ?_, _, _, hresolve⟩
  rw [nodeSpan_tokenClause, filehToken]

/-- The clause of that directive starts behind a suffix, as it has to. -/
theorem starts_behind_escapedBlank_of_suffix :
    ∃ q, parse (.builtin {}) {} suffixText = .ok q ∧ ∃ c ∈ q.clauses,
      BehindEscapedBlank suffixText.toList c.span.start ∧
        BehindSuffix (scan 0 true suffixText.toList) c.span.start := by
  obtain ⟨q, h, c, hc, hstart, -, -⟩ := exists_directive_of_suffixText
  have hbehind : BehindEscapedBlank suffixText.toList c.span.start := by
    rw [hstart]
    exact behindEscapedBlank_suffixText
  exact ⟨q, h, c, hc, hbehind,
    (starts_behind_escapedBlank suffixText).2 _ _ q h c hc (.inl hbehind)⟩

/-- So a candidate, and a directive too, can start behind an escaped blank. -/
theorem exists_directive_behind_escapedBlank :
    (∃ t ∈ scan 0 true suffixText.toList, (∃ c, t.content = .keyword c) ∧
      BehindEscapedBlank suffixText.toList t.span.start) ∧
    ∃ q, parse (.builtin {}) {} suffixText = .ok q ∧ ∃ c ∈ q.clauses,
      (∃ k s, c.node = .directive k s) ∧
        BehindEscapedBlank suffixText.toList c.node.span.start := by
  constructor
  · exact ⟨filehToken, filehToken_mem_scan, ⟨_, rfl⟩, behindEscapedBlank_suffixText⟩
  · obtain ⟨q, h, c, hc, -, hstart, hnode⟩ := exists_directive_of_suffixText
    refine ⟨q, h, c, hc, hnode, ?_⟩
    rw [hstart]
    exact behindEscapedBlank_suffixText

end Query

end WikiSearch
