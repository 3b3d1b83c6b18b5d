import WikiSearch.Proofs.Readers

/-!
# WikiSearch — how escapes are spelled

A word and a quoted text are written in the same way: as a row of characters that stand
for themselves and of pairs, a backslash and the character that it makes literal. They
differ in which characters can be the second of a pair, and in which one ends the text
(`Escaping`). What counts as a pair is a rule about the text and says nothing of a
reader: a backslash in front of such a character always forms a pair with it.

By these rules every text starts with exactly one row of pieces, and that row is what the
readers read.

Main results:

* `Spelling.nil_iff`, `Spelling.plain_iff`, `Spelling.pair_iff` — a spelling, piece by
  piece.
* `exists_spelling` — every text starts with a spelling.
* `readWord_of_spelling`, `readQuoted_of_closed`, `readQuoted_of_unclosed` — the readers
  read it.
* `Spelling.extend` — when a spelling still stands if more text follows.
-/

namespace WikiSearch

open Text

/-- A piece of a text with escapes. -/
inductive Piece where
  | plain (c : Char)
  /-- A backslash and the character behind it. -/
  | pair (c : Char)
deriving DecidableEq

namespace Piece

/-- The character that a piece stands for. -/
def char : Piece → Char
  | plain c => c
  | pair c => c

/-- The characters that a piece is written with. -/
def source : Piece → List Char
  | plain c => [c]
  | pair c => ['\\', c]

/-- The characters that some pieces stand for. -/
def chars (ps : List Piece) : List Char := ps.map char

/-- The characters that some pieces are written with. -/
def sources (ps : List Piece) : List Char := ps.flatMap source

end Piece

open Piece

/-- How a text with escapes is written. -/
structure Escaping where
  /-- The characters that form a pair with a backslash in front of them. -/
  pairs : Char → Bool
  /-- The characters that end the text unless they are part of a pair. -/
  ends : Char → Bool
  ends_backslash : ends '\\' = false

/-- How words are written. -/
def wordEscaping : Escaping := ⟨escapable, isBlank, by decide⟩

/-- How quoted text is written. -/
def quotedEscaping : Escaping := ⟨fun c => c = '"' || c = '\\', fun c => c = '"', by decide⟩

/-- The pieces are how a text is to be read whose remaining characters are `rest`. -/
structure Spelling (e : Escaping) (ps : List Piece) (rest : List Char) : Prop where
  /-- No character that ends the text stands by itself. -/
  plain : ∀ c, .plain c ∈ ps → e.ends c = false
  pair : ∀ c, .pair c ∈ ps → e.pairs c = true
  /-- A backslash that could form a pair with what follows it does so. -/
  backslash : ∀ front back, ps = front ++ .plain '\\' :: back →
    ∀ c, (sources back ++ rest).head? = some c → e.pairs c = false
  /-- The text goes on to a character that ends it, or to the end. -/
  stops : ∀ c, rest.head? = some c → e.ends c = true

namespace Spelling

variable {e : Escaping} {ps : List Piece} {rest : List Char} {c : Char}

theorem nil_iff : Spelling e [] rest ↔ ∀ c, rest.head? = some c → e.ends c = true := by
  constructor
  · intro h
    exact h.stops
  · intro h
    exact ⟨by simp, by simp, by simp, h⟩

/-- Without its first piece a spelling is one of what is left. -/
theorem tail {p : Piece} (h : Spelling e (p :: ps) rest) : Spelling e ps rest where
  plain c hc := h.plain c (List.mem_cons_of_mem _ hc)
  pair c hc := h.pair c (List.mem_cons_of_mem _ hc)
  backslash front back hps := h.backslash (p :: front) back (by rw [hps, List.cons_append])
  stops := h.stops

/-- A character in front stands by itself, and as a backslash it forms no pair with what follows. -/
theorem plain_iff : Spelling e (.plain c :: ps) rest ↔
    e.ends c = false ∧
      (c = '\\' → ∀ d, (sources ps ++ rest).head? = some d → e.pairs d = false) ∧
      Spelling e ps rest := by
  constructor
  · intro h
    refine ⟨h.plain c (List.mem_cons_self ..), ?_, h.tail⟩
    rintro rfl
    exact h.backslash [] ps rfl
  · rintro ⟨hends, hbackslash, h⟩
    refine ⟨?_, ?_, ?_, h.stops⟩
    · intro d hd
      rcases List.mem_cons.mp hd with heq | hd
      · obtain rfl := Piece.plain.inj heq
        exact hends
      · exact h.plain d hd
    · intro d hd
      rcases List.mem_cons.mp hd with heq | hd
      · contradiction
      · exact h.pair d hd
    · -- a backslash by itself is the first piece or a later one
      intro front back hps
      cases front with
      | nil =>
        obtain ⟨heq, rfl⟩ := List.cons.inj hps
        exact hbackslash (Piece.plain.inj heq)
      | cons p front => exact h.backslash front back (List.cons.inj hps).2

/-- A pair in front is one that the rules for such texts know. -/
theorem pair_iff : Spelling e (.pair c :: ps) rest ↔ e.pairs c = true ∧ Spelling e ps rest := by
  constructor
  · intro h
    exact ⟨h.pair c (List.mem_cons_self ..), h.tail⟩
  · rintro ⟨hpairs, h⟩
    refine ⟨?_, ?_, ?_, h.stops⟩
    · intro d hd
      rcases List.mem_cons.mp hd with heq | hd
      · contradiction
      · exact h.plain d hd
    · intro d hd
      rcases List.mem_cons.mp hd with heq | hd
      · obtain rfl := Piece.pair.inj heq
        exact hpairs
      · exact h.pair d hd
    · -- a backslash by itself is none of the pairs, and so a later piece
      intro front back hps
      cases front with
      | nil =>
        have heq := (List.cons.inj hps).1
        contradiction
      | cons p front => exact h.backslash front back (List.cons.inj hps).2

/-- Of the text behind it, a spelling depends on the first character alone. -/
theorem congr_head {rest' : List Char} (h : Spelling e ps rest)
    (hrest : rest.head? = rest'.head?) : Spelling e ps rest' where
  plain := h.plain
  pair := h.pair
  backslash front back hps := by
    rw [List.head?_append, ← hrest, ← List.head?_append]
    exact h.backslash front back hps
  stops := by
    rw [← hrest]
    exact h.stops

/-- A text that has ended where its input ends still ends there if a character follows that
ends it, unless a last backslash forms a pair with that character. -/
theorem extend (h : Spelling e ps []) (hlast : ps.getLast? ≠ some (.plain '\\'))
    (hends : e.ends c = true) (more : List Char) : Spelling e ps (c :: more) where
  plain := h.plain
  pair := h.pair
  backslash front back hps d hd := by
    cases back with
    | nil => simp [hps] at hlast
    | cons p back =>
      -- the next character is that of the next piece, as before
      refine h.backslash front (p :: back) hps d ?_
      cases p <;> simpa [sources, source] using hd
  stops d hd := by
    rw [List.head?_cons, Option.some.injEq] at hd
    rwa [← hd]

end Spelling

/-! ## Every text starts with a spelling -/

/-- Every text starts with a spelling. -/
theorem exists_spelling (e : Escaping) (cs : List Char) :
    ∃ ps rest, sources ps ++ rest = cs ∧ Spelling e ps rest := by
  -- by the length of the text, as a pair takes two characters
  match cs with
  | [] => exact ⟨[], [], rfl, Spelling.nil_iff.mpr (by simp)⟩
  | c :: cs =>
    cases hends : e.ends c with
    | true => exact ⟨[], c :: cs, rfl, Spelling.nil_iff.mpr (by simpa using hends)⟩
    | false =>
      by_cases hpair : ∃ d ds, c = '\\' ∧ cs = d :: ds ∧ e.pairs d = true
      · obtain ⟨d, ds, rfl, rfl, hd⟩ := hpair
        obtain ⟨ps, rest, hps, h⟩ := exists_spelling e ds
        exact ⟨.pair d :: ps, rest, by rw [← hps]; rfl, Spelling.pair_iff.mpr ⟨hd, h⟩⟩
      · -- what follows a backslash is still there, as the head of the pieces or of the rest
        obtain ⟨ps, rest, hps, h⟩ := exists_spelling e cs
        refine ⟨.plain c :: ps, rest, by rw [← hps]; rfl, Spelling.plain_iff.mpr ⟨hends, ?_, h⟩⟩
        intro hc d hd
        rw [hps] at hd
        obtain ⟨ds, rfl⟩ := List.head?_eq_some_iff.mp hd
        by_contra hpairs
        exact hpair ⟨d, ds, hc, rfl, by simpa using hpairs⟩
termination_by cs.length

/-! ## The readers read spellings -/

section Reading

variable {ps : List Piece} {rest : List Char}

/-- A word is read piece by piece, up to where its spelling stops. -/
theorem readWord_of_spelling (h : Spelling wordEscaping ps rest) :
    readWord (sources ps ++ rest) = ⟨chars ps, sources ps, rest⟩ := by
  -- on the pieces, each of which is one step of the reader
  induction ps with
  | nil =>
    cases rest with
    | nil => rfl
    | cons c rest => exact readWord_blank (h.stops c rfl) rest
  | cons p ps ih =>
    cases p with
    | plain c =>
      obtain ⟨hends, hbackslash, h⟩ := Spelling.plain_iff.mp h
      show readWord (c :: (sources ps ++ rest)) = _
      rw [readWord_char hends, ih h]
      · rfl
      · intro d ds hc hds
        exact hbackslash hc d (by rw [hds]; rfl)
    | pair c =>
      obtain ⟨hpairs, h⟩ := Spelling.pair_iff.mp h
      show readWord ('\\' :: c :: (sources ps ++ rest)) = _
      rw [readWord_pair hpairs, ih h]
      rfl

/-- The pieces of a word are that word by themselves, too. -/
theorem readWord_sources (h : Spelling wordEscaping ps rest) :
    readWord (sources ps) = ⟨chars ps, sources ps, []⟩ := by
  -- a reader takes no more from its own source than before
  have hread := readWord_source (sources ps ++ rest)
  rwa [readWord_of_spelling h] at hread

/-- Whatever stands behind the pieces, quoted text is read through them. -/
theorem readQuoted_of_spelling (h : Spelling quotedEscaping ps rest) :
    readQuoted (sources ps ++ rest) =
      (⟨chars ps ++ (readQuoted rest).1.text, sources ps ++ (readQuoted rest).1.source,
        (readQuoted rest).1.rest⟩, (readQuoted rest).2) := by
  -- on the pieces, while what is read behind them stays as it is
  induction ps with
  | nil => rfl
  | cons p ps ih =>
    cases p with
    | plain c =>
      obtain ⟨hends, hbackslash, h⟩ := Spelling.plain_iff.mp h
      show readQuoted (c :: (sources ps ++ rest)) = _
      rw [readQuoted_char (by simpa [quotedEscaping] using hends), ih h]
      · rfl
      · intro d ds hc hds
        simpa [quotedEscaping] using hbackslash hc d (by rw [hds]; rfl)
    | pair c =>
      obtain ⟨hpairs, h⟩ := Spelling.pair_iff.mp h
      show readQuoted ('\\' :: c :: (sources ps ++ rest)) = _
      rw [readQuoted_pair (by simpa [quotedEscaping] using hpairs), ih h]
      rfl

/-- Quoted text with a closing quote is read up to that. -/
theorem readQuoted_of_closed (h : Spelling quotedEscaping ps ('"' :: rest)) :
    readQuoted (sources ps ++ '"' :: rest) =
      (⟨chars ps, sources ps ++ ['"'], rest⟩, true) := by
  rw [readQuoted_of_spelling h, readQuoted_quote, List.append_nil]

/-- Quoted text without a closing quote is read to the end. -/
theorem readQuoted_of_unclosed (h : Spelling quotedEscaping ps []) :
    readQuoted (sources ps) = (⟨chars ps, sources ps, []⟩, false) := by
  have hread := readQuoted_of_spelling h
  simpa [readQuoted, Reading.none] using hread

end Reading

end WikiSearch
