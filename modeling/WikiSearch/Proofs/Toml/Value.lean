import WikiSearch.Proofs.Toml.Text
import WikiSearch.Toml.Document

/-!
# WikiSearch — written values read back

What a reader does to characters that it takes off the front is said by one judgment
(`Reader.Reads`), and there is a rule for each way in which readers are put together. With
these rules numbers, truth values, texts and lists of texts are followed from the way that they
are written to the values that they were.

Main results:

* `reads_scalar` — a run of characters without quotes is read up to where a value ends.
* `reads_lines` — a list that has a line for each text.
* `reads_written` — a written value reads back.
* `isAllowed_written` — and it may stand in a file.
-/

namespace WikiSearch.Toml

open Text

/-! ## Reading as a judgment -/

/-- What a reader takes off the front of some characters, and what it leaves. -/
def Reader.Reads {α : Type} (reader : Reader α) (cs : List Char) (a : α) (rest : List Char) :
    Prop :=
  ∃ h, reader cs = some (a, ⟨rest, h⟩)

section Reads

variable {α β : Type} {reader : Reader α} {cs rest : List Char} {a : α}

/-- A function that takes something off the front is a reader that does the same. -/
theorem reads_ofFunction {f : List Char → Option (α × List Char)}
    {shorter : ∀ {cs rest : List Char} {a : α}, f cs = some (a, rest) → rest.length < cs.length}
    (h : f cs = some (a, rest)) : (Reader.ofFunction f shorter).Reads cs a rest :=
  ⟨shorter h, Reader.ofFunction_eq_some_iff.mpr h⟩

/-- What has been read may be turned into something else. -/
theorem Reader.Reads.map (h : reader.Reads cs a rest) (f : α → β) :
    (reader.map f).Reads cs (f a) rest := by
  obtain ⟨hlength, hread⟩ := h
  refine ⟨hlength, ?_⟩
  rw [Reader.map, hread]
  rfl

/-- What the first of two readers takes, both of them take together. -/
theorem Reader.Reads.orElse (h : reader.Reads cs a rest) (second : Reader α) :
    (reader.orElse second).Reads cs a rest := by
  obtain ⟨hlength, hread⟩ := h
  refine ⟨hlength, ?_⟩
  rw [Reader.orElse, hread]
  rfl

/-- Where the first of two readers gives up, the second one reads. -/
theorem Reader.Reads.orElse_of_none {first : Reader α} (hfirst : first cs = none)
    (h : reader.Reads cs a rest) : (first.orElse reader).Reads cs a rest := by
  obtain ⟨hlength, hread⟩ := h
  refine ⟨hlength, ?_⟩
  rw [Reader.orElse, hfirst, hread]
  rfl

/-- Blank lines and comments in front are skipped. -/
theorem Reader.Reads.afterLines (h : reader.Reads (Toml.skipLines false cs) a rest) :
    reader.afterLines.Reads cs a rest := by
  obtain ⟨hlength, hread⟩ := h
  have hskipped := skipLines_length_le false cs
  refine ⟨Nat.lt_of_lt_of_le hlength hskipped, ?_⟩
  rw [Reader.afterLines, hread]
  rfl

/-- A reader that gives up behind the blank lines gives up in front of them too. -/
theorem Reader.afterLines_of_none (h : reader (Toml.skipLines false cs) = none) :
    reader.afterLines cs = none := by
  rw [Reader.afterLines, h]
  rfl

theorem reads_char (c : Char) (cs : List Char) : (Reader.char c).Reads (c :: cs) () cs :=
  ⟨Nat.lt_succ_self _, if_pos rfl⟩

theorem Reader.char_of_ne {c d : Char} (h : d ≠ c) (cs : List Char) :
    Reader.char c (d :: cs) = none :=
  if_neg h

theorem Rest.skip?_self {c : Char} {tail : List Char} (h : (c :: tail).length < cs.length) :
    Rest.skip? c (⟨c :: tail, h⟩ : Rest cs) = some ⟨tail, Nat.lt_of_succ_lt h⟩ :=
  if_pos rfl

theorem Rest.skip?_of_ne {c d : Char} (hne : d ≠ c) {tail : List Char}
    (h : (d :: tail).length < cs.length) :
    Rest.skip? c (⟨d :: tail, h⟩ : Rest cs) = none :=
  if_neg hne

theorem Rest.read?_of_reads (h : reader.Reads cs a rest) {more : List Char}
    (hmore : cs.length < more.length) :
    Rest.read? (⟨cs, hmore⟩ : Rest more) reader =
      some (a, ⟨rest, Nat.lt_trans h.1 hmore⟩) := by
  obtain ⟨hlength, hread⟩ := h
  exact congrArg (Option.map _) hread

end Reads

/-! ## What may follow a value -/

/-- What follows is the end of a value: a comma, a closing bracket or the end of a line. -/
def EndsValue (rest : List Char) : Prop := ∀ c ∈ rest.head?, c = ',' ∨ c = ']' ∨ c = '\n'

namespace EndsValue

variable {rest : List Char}

theorem noQuote (h : EndsValue rest) : NoQuote rest := by
  intro c hc
  rcases h c hc with rfl | rfl | rfl <;> decide

theorem not_inRun (h : EndsValue rest) : ∀ c ∈ rest.head?, inRun c = false := by
  intro c hc
  rcases h c hc with rfl | rfl | rfl <;> decide

end EndsValue

/-! ## What is never skipped -/

/-- Whether a predicate holds of no character that stands between the parts of a file. -/
structure NeverSkipped (p : Char → Bool) : Prop where
  space : p ' ' = false
  tab : p '\t' = false
  feed : p '\n' = false
  carriage : p '\r' = false
  comment : p '#' = false

namespace NeverSkipped

variable {p : Char → Bool} {c : Char}

theorem isSpace (hp : NeverSkipped p) (h : p c = true) : isSpace c = false := by
  simp [Toml.isSpace, ne_of_holds h hp.space, ne_of_holds h hp.tab]

theorem isLineEnd (hp : NeverSkipped p) (h : p c = true) : isLineEnd c = false := by
  simp [Toml.isLineEnd, ne_of_holds h hp.feed, ne_of_holds h hp.carriage]

/-- Nothing is skipped in front of such a character. -/
theorem skipLines (hp : NeverSkipped p) (h : p c = true) (cs : List Char) :
    Toml.skipLines false (c :: cs) = c :: cs := by
  rw [Toml.skipLines, hp.isSpace h, hp.isLineEnd h]
  simp [ne_of_holds h hp.comment]

end NeverSkipped

theorem neverSkipped_isDigit : NeverSkipped isDigit := ⟨rfl, rfl, rfl, rfl, rfl⟩

theorem neverSkipped_isQuote : NeverSkipped isQuote := ⟨rfl, rfl, rfl, rfl, rfl⟩

/-! ## Values without quotes -/

/-- A run of characters that is no date is read as it stands. -/
theorem splitRun_of_run {run rest : List Char} (hrun : ∀ c ∈ run, inRun c = true)
    (hdate : isDate run = false) (hrest : ∀ c ∈ rest.head?, inRun c = false) :
    splitRun (run ++ rest) = (run, rest) := by
  rw [splitRun, takeWhile_append_of_run hrun hrest, dropWhile_append_of_run hrun hrest]
  simp only [hdate]

/-- A run that stands for a value is read as that value, up to where a value ends. -/
theorem reads_scalar {run rest : List Char} {v : Value} (hrun : ∀ c ∈ run, inRun c = true)
    (hdate : isDate run = false) (hv : scalar? run = some v) (hrest : EndsValue rest) :
    readScalar.Reads (run ++ rest) v rest := by
  refine reads_ofFunction ?_
  rw [readScalar?, splitRun_of_run hrun hdate hrest.not_inRun]
  simp only [hv, Option.map_some]

/-! ### Numbers -/

section Numbers

variable {cs : List Char} (h : ∀ c ∈ cs, isDigit c = true)

include h

theorem skipChar?_of_digits {c : Char} (hc : isDigit c = false) : skipChar? c cs = none := by
  cases cs with
  | nil => rfl
  | cons d cs =>
    refine if_neg ?_
    rintro rfl
    rw [h d (List.mem_cons_self ..)] at hc
    contradiction

/-- Behind two digits there are digits again. -/
theorem digits_of_twoDigits? {low high n : Nat} {rest : List Char}
    (htwo : twoDigits? low high cs = some (n, rest)) : ∀ c ∈ rest, isDigit c = true := by
  unfold twoDigits? at htwo
  split at htwo
  · rw [Option.ite_none_right_eq_some, Option.some.injEq, Prod.mk.injEq] at htwo
    obtain ⟨-, -, rfl⟩ := htwo
    intro c hc
    exact h c (List.mem_cons_of_mem _ (List.mem_cons_of_mem _ hc))
  · contradiction

/-- Digits alone are no date, for want of a dash. -/
theorem skipDate?_of_digits : skipDate? cs = none := by
  unfold skipDate?
  cases htwo : twoDigits? 0 99 cs with
  | none => rfl
  | some pair =>
    obtain ⟨century, rest⟩ := pair
    have hrest := digits_of_twoDigits? h htwo
    -- the year is four digits, and behind those a dash is asked for
    cases htwo' : twoDigits? 0 99 rest with
    | none => simp [htwo']
    | some pair =>
      have hrest' := digits_of_twoDigits? hrest htwo'
      simp [htwo', skipChar?_of_digits hrest' (c := '-') (by decide)]

/-- Digits alone are no time, for want of a colon. -/
theorem skipTime?_of_digits : skipTime? cs = none := by
  unfold skipTime?
  cases htwo : twoDigits? 0 23 cs with
  | none => rfl
  | some pair =>
    have hrest := digits_of_twoDigits? h htwo
    simp [skipChar?_of_digits hrest (c := ':') (by decide)]

theorem isDatetime_of_digits : isDatetime cs = false := by
  rw [isDatetime, skipDate?_of_digits h, skipTime?_of_digits h]
  rfl

/-- Digits alone are one run of digits. -/
theorem digitRun?_of_digits (hne : cs ≠ []) : digitRun? isDigit cs = some cs := by
  have hscore : '_' ∉ cs := by
    intro hmem
    exact absurd (h '_' hmem) (by decide)
  rw [digitRun?, pieces_eq_singleton hscore]
  simpa [hne] using h

end Numbers

/-- The digits of a number are read as that number. -/
theorem integer?_toDigits (n : Nat) : integer? (Nat.toDigits 10 n) = some (n : Int) := by
  obtain ⟨hne, hdigits, hvalue⟩ := toDigits_spec n
  -- a number is written without zeros in front, unless it is zero
  have hwhole : wholeDigits? (Nat.toDigits 10 n) = some (Nat.toDigits 10 n) := by
    rw [wholeDigits?, digitRun?_of_digits hdigits hne]
    split
    case h_1 hzero => exact absurd (Option.some.inj hzero) (toDigits_ne_zero_cons n _ _)
    case h_2 => rfl
  have hsign : splitSign (Nat.toDigits 10 n) = (false, Nat.toDigits 10 n) := by
    unfold splitSign
    split
    case h_1 hminus => exact absurd (hdigits '-' (by rw [hminus]; simp)) (by decide)
    case h_2 hplus => exact absurd (hdigits '+' (by rw [hplus]; simp)) (by decide)
    case h_3 => rfl
  unfold integer?
  split
  -- a letter behind a zero is no digit
  case h_1 hbase => exact absurd (hdigits 'x' (by rw [hbase]; simp)) (by decide)
  case h_2 hbase => exact absurd (hdigits 'o' (by rw [hbase]; simp)) (by decide)
  case h_3 hbase => exact absurd (hdigits 'b' (by rw [hbase]; simp)) (by decide)
  case h_4 => simp [hsign, hwhole, hvalue]

/-- The digits of a number are a value, and it is that number. -/
theorem scalar?_toDigits (n : Nat) : scalar? (Nat.toDigits 10 n) = some (.integer n) := by
  obtain ⟨hne, hdigits, -⟩ := toDigits_spec n
  -- a word starts with a letter
  have hletter : ∀ c cs, isDigit c = false → Nat.toDigits 10 n ≠ c :: cs := by
    intro c cs hc hall
    rw [hdigits c (by rw [hall]; simp)] at hc
    contradiction
  have htrue : Nat.toDigits 10 n ≠ "true".toList := hletter 't' ['r', 'u', 'e'] (by decide)
  have hfalse : Nat.toDigits 10 n ≠ "false".toList :=
    hletter 'f' ['a', 'l', 's', 'e'] (by decide)
  rw [scalar?, if_neg htrue, if_neg hfalse, isDatetime_of_digits hdigits, integer?_toDigits]
  rfl

theorem inRun_of_isDigit {c : Char} (h : isDigit c = true) : inRun c = true := by
  have hspace := neverSkipped_isDigit.isSpace h
  have hend := neverSkipped_isDigit.isLineEnd h
  -- a digit is none of the marks that end a run
  have hmark : [',', ']', '\x7d', '#', '=', '[', '\x7b', '"', '\''].contains c = false := by
    rw [List.contains_eq_mem, decide_eq_false_iff_not]
    intro hc
    have hmarks : [',', ']', '\x7d', '#', '=', '[', '\x7b', '"', '\''].all (!isDigit ·) = true :=
      rfl
    have hdigit := List.all_eq_true.mp hmarks c hc
    rw [h] at hdigit
    contradiction
  rw [inRun, hspace, hend, hmark]
  rfl

/-- A written number reads back. -/
theorem reads_number (n : Nat) {rest : List Char} (h : EndsValue rest) :
    readScalar.Reads (Nat.toDigits 10 n ++ rest) (.integer n) rest := by
  obtain ⟨-, hdigits, -⟩ := toDigits_spec n
  refine reads_scalar ?_ ?_ (scalar?_toDigits n) h
  · intro c hc
    exact inRun_of_isDigit (hdigits c hc)
  · rw [isDate, skipDate?_of_digits hdigits]
    rfl

/-- A written truth value reads back. -/
theorem reads_boolean (b : Bool) {rest : List Char} (h : EndsValue rest) :
    readScalar.Reads ((Simple.boolean b).written ++ rest) (.boolean b) rest := by
  cases b with
  | true => exact reads_scalar (List.all_eq_true.mp rfl) rfl rfl h
  | false => exact reads_scalar (List.all_eq_true.mp rfl) rfl rfl h

/-! ## Lists of texts -/

section Items

variable {depth : Nat} {rest : List Char}

/-- What starts with no bracket is read as a text, or else without quotes. -/
theorem readValue_of_head {c : Char} (hlist : c ≠ '[') (htable : c ≠ '\x7b') (cs : List Char) :
    readValue depth (c :: cs) = (readText.map .text).orElse readScalar (c :: cs) := by
  rw [readValue]
  all_goals simp_all

/-- A written text reads back as a value. -/
theorem reads_text (s : String) (h : NoQuote rest) :
    (readValue depth).Reads (writtenText s.toList ++ rest) (.text s) rest := by
  obtain ⟨q, tail, hwritten, hquote⟩ := exists_writtenText_eq_cons s.toList
  have htext : readText.Reads (writtenText s.toList ++ rest) s rest := by
    have hread : (Reader.ofFunction readText? readText?_length_lt).Reads
        (writtenText s.toList ++ rest) s.toList rest :=
      reads_ofFunction (readText?_writtenText s.toList h)
    have hstring := hread.map String.ofList
    rwa [String.ofList_toList] at hstring
  obtain ⟨hlength, hread⟩ := (htext.map .text).orElse readScalar
  refine ⟨hlength, ?_⟩
  rw [← hread]
  -- a text starts with its quote
  rw [hwritten, List.cons_append]
  exact readValue_of_head (by rintro rfl; contradiction) (by rintro rfl; contradiction) _

/-- Without a quote in front there is no text. -/
theorem readText_of_head {c : Char} (h : isQuote c = false) (cs : List Char) :
    readText (c :: cs) = none := by
  have hdouble : c ≠ '"' := by
    rintro rfl
    contradiction
  have hsingle : c ≠ '\'' := by
    rintro rfl
    contradiction
  -- every kind of text starts with one of the two quotes
  have hnone : readText? (c :: cs) = none := by
    rw [readText?] <;> simp [hdouble, hsingle]
  have hread : Reader.ofFunction readText? readText?_length_lt (c :: cs) = none := by
    rw [Option.eq_none_iff_forall_ne_some]
    rintro ⟨text, tail⟩ hsome
    rw [Reader.ofFunction_eq_some_iff, hnone] at hsome
    contradiction
  rw [readText, Reader.map, hread]
  rfl

/-- What starts with no bracket and no quote is read without quotes. -/
theorem reads_unquoted {c : Char} {cs : List Char} {v : Value} (hlist : c ≠ '[')
    (htable : c ≠ '\x7b') (hquote : isQuote c = false) (h : readScalar.Reads (c :: cs) v rest) :
    (readValue depth).Reads (c :: cs) v rest := by
  -- the first of the two readers gives up
  have hnone : readText.map Value.text (c :: cs) = none := by
    rw [Reader.map, readText_of_head hquote]
    rfl
  obtain ⟨hlength, hread⟩ := Reader.Reads.orElse_of_none hnone h
  refine ⟨hlength, ?_⟩
  rw [readValue_of_head hlist htable, hread]

/-! ### The items one by one -/

section Steps

variable {item : Reader Value} {cs more : List Char} {v : Value} {vs : List Value}

/-- A closing bracket ends the items. -/
theorem readItems_close (h : Toml.skipLines false cs = ']' :: rest) :
    Reader.Reads (readItems item) cs [] rest := by
  have hclose : ((Reader.char ']').afterLines).Reads cs () rest := by
    refine Reader.Reads.afterLines ?_
    rw [h]
    exact reads_char ']' rest
  obtain ⟨hlength, hread⟩ := hclose
  refine ⟨hlength, ?_⟩
  rw [readItems, hread]

/-- An item is looked for where no bracket closes the list. -/
theorem readItems_of_head {c : Char} {tail : List Char}
    (hhead : Toml.skipLines false cs = c :: tail) (hc : c ≠ ']')
    (h : item.Reads (c :: tail) v more) :
    (Reader.char ']').afterLines cs = none ∧ item.afterLines.Reads cs v more := by
  constructor
  · refine Reader.afterLines_of_none ?_
    rw [hhead, Reader.char_of_ne hc]
  · refine Reader.Reads.afterLines ?_
    rwa [hhead]

/-- An item with the closing bracket behind it is the last one. -/
theorem readItems_last {c : Char} {tail : List Char}
    (hhead : Toml.skipLines false cs = c :: tail) (hc : c ≠ ']')
    (h : item.Reads (c :: tail) v (']' :: rest)) :
    Reader.Reads (readItems item) cs [v] rest := by
  obtain ⟨hnone, hlength, hread⟩ := readItems_of_head hhead hc h
  refine ⟨Nat.lt_of_succ_lt hlength, ?_⟩
  rw [readItems, hnone]
  simp only [hread]
  rfl

/-- Behind an item and its comma the items go on. -/
theorem readItems_cons {c : Char} {tail : List Char}
    (hhead : Toml.skipLines false cs = c :: tail) (hc : c ≠ ']')
    (h : item.Reads (c :: tail) v (',' :: more))
    (hmore : Reader.Reads (readItems item) more vs rest) :
    Reader.Reads (readItems item) cs (v :: vs) rest := by
  obtain ⟨hnone, hlength, hread⟩ := readItems_of_head hhead hc h
  obtain ⟨hlength', hread'⟩ := hmore
  refine ⟨Nat.lt_trans hlength' (Nat.lt_of_succ_lt hlength), ?_⟩
  have hcomma : Rest.skip? ',' (Rest.skipLines (⟨',' :: more, hlength⟩ : Rest cs)) =
      some ⟨more, Nat.lt_of_succ_lt hlength⟩ := rfl
  rw [readItems, hnone]
  simp only [hread, Option.bind_eq_bind, Option.bind_some, hcomma, hread']
  rfl

end Steps

/-! ### Whole lists -/

/-- A text of a list with a line for each, as it is written. -/
def writtenItem (s : String) : List Char := "    ".toList ++ writtenText s.toList ++ [',', '\n']

/-- The lines of a list are read text by text, up to the bracket behind the last line. -/
theorem reads_lines (texts : List String) (rest : List Char) :
    Reader.Reads (readItems (readValue depth)) ('\n' :: texts.flatMap writtenItem ++ ']' :: rest)
      (texts.map .text) rest := by
  -- each step reads one line, and the bracket stays behind the last of them
  induction texts with
  | nil => exact readItems_close rfl
  | cons s texts ih =>
    obtain ⟨q, tail, hwritten, hquote⟩ := exists_writtenText_eq_cons s.toList
    have hread : (readValue depth).Reads
        (writtenText s.toList ++ ',' :: '\n' :: (texts.flatMap writtenItem ++ ']' :: rest))
        (.text s) (',' :: '\n' :: (texts.flatMap writtenItem ++ ']' :: rest)) :=
      reads_text s (forall_mem_head?_cons (by decide) _)
    rw [hwritten] at hread
    -- the blanks in front of a text are skipped, as its quote is never one
    refine readItems_cons ?_ (ne_of_holds hquote rfl) hread ih
    rw [List.flatMap_cons, writtenItem, hwritten]
    simp only [List.append_assoc, List.cons_append, List.nil_append]
    exact neverSkipped_isQuote.skipLines hquote _

/-- Items behind an opening bracket are a list. -/
theorem reads_array {tail : List Char} {vs : List Value}
    (h : Reader.Reads (readItems (readValue depth)) tail vs rest) :
    (readValue (depth + 1)).Reads ('[' :: tail) (.array vs) rest := by
  obtain ⟨hlength, hread⟩ := h
  refine ⟨Nat.lt_succ_of_lt hlength, ?_⟩
  rw [readValue, hread]
  rfl

/-- How a list is written depends on how many texts it has. -/
theorem reads_texts (texts : List String) :
    (readValue (depth + 1)).Reads ((Simple.texts texts).written ++ rest)
      (.array (texts.map .text)) rest := by
  -- no text and one text stand on one line, more have a line each
  match texts with
  | [] => exact reads_array (readItems_close rfl)
  | [s] =>
    obtain ⟨q, tail, hwritten, hquote⟩ := exists_writtenText_eq_cons s.toList
    have hread : (readValue depth).Reads (writtenText s.toList ++ ']' :: rest) (.text s)
        (']' :: rest) := reads_text s (forall_mem_head?_cons (by decide) _)
    show (readValue (depth + 1)).Reads ('[' :: (writtenText s.toList ++ [']'] ++ rest)) _ _
    rw [List.append_assoc, List.singleton_append]
    rw [hwritten] at hread ⊢
    exact reads_array (readItems_last (neverSkipped_isQuote.skipLines hquote _)
      (ne_of_holds hquote rfl) hread)
  | a :: b :: more =>
    have hlines : Reader.Reads (readItems (readValue depth))
        ('\n' :: (a :: b :: more).flatMap writtenItem ++ ']' :: rest)
        ((a :: b :: more).map .text) rest := reads_lines _ rest
    have hwritten : (Simple.texts (a :: b :: more)).written ++ rest =
        '[' :: ('\n' :: (a :: b :: more).flatMap writtenItem ++ ']' :: rest) := by
      simp only [Simple.written, List.append_assoc, List.cons_append, List.nil_append]
      rfl
    rw [hwritten]
    exact reads_array hlines

/-- **A written value reads back.** -/
theorem reads_written (v : Simple) (h : EndsValue rest) :
    (readValue (depth + 1)).Reads (v.written ++ rest) v.toValue rest := by
  -- a number and a truth value are read without quotes, and the others by their first character
  cases v with
  | integer n =>
    have hread := reads_number n h
    obtain ⟨c, cs, hwritten, hc⟩ := exists_toDigits_eq_cons n
    have hne : ∀ d, isDigit d = false → c ≠ d := by
      intro d hd
      exact ne_of_holds hc hd
    show (readValue (depth + 1)).Reads (Nat.toDigits 10 n ++ rest) (.integer n) rest
    rw [hwritten] at hread ⊢
    refine reads_unquoted (hne '[' rfl) (hne '\x7b' rfl) ?_ hread
    simp [isQuote, hne '"' rfl, hne '\'' rfl]
  | boolean b =>
    have hread := reads_boolean b h
    cases b with
    | true => exact reads_unquoted (by decide) (by decide) (by decide) hread
    | false => exact reads_unquoted (by decide) (by decide) (by decide) hread
  | text s => exact reads_text s h.noQuote
  | texts items => exact reads_texts items

end Items

/-! ## What may stand in a file -/

theorem isAllowed_of_isDigit {c : Char} (h : isDigit c = true) : isAllowed c = true := by
  simp only [isDigit, Bool.and_eq_true, decide_eq_true_eq] at h
  exact isAllowed_of_between (by decide) (by decide) h.1 h.2

theorem isAllowed_writtenItem (s : String) : (writtenItem s).all isAllowed = true := by
  simp only [writtenItem, List.all_append, isAllowed_writtenText]
  rfl

/-- A written value holds no character that may not stand in a file. -/
theorem isAllowed_written (v : Simple) : v.written.all isAllowed = true := by
  -- brackets, commas and line ends may stand in a file, so it is the texts that count
  match v with
  | .integer n =>
    rw [List.all_eq_true]
    intro c hc
    exact isAllowed_of_isDigit ((toDigits_spec n).2.1 c hc)
  | .boolean true => rfl
  | .boolean false => rfl
  | .text s => exact isAllowed_writtenText s.toList
  | .texts [] => rfl
  | .texts [s] =>
    simp only [Simple.written, List.cons_append, List.all_cons, List.all_append,
      isAllowed_writtenText]
    rfl
  | .texts (a :: b :: more) =>
    have hitems : ((a :: b :: more).flatMap writtenItem).all isAllowed = true := by
      rw [List.all_flatMap, List.all_eq_true]
      intro s _
      exact isAllowed_writtenItem s
    show ('[' :: '\n' :: (a :: b :: more).flatMap writtenItem ++ [']']).all isAllowed = true
    simp only [List.cons_append, List.all_cons, List.all_append, hitems]
    rfl

end WikiSearch.Toml
