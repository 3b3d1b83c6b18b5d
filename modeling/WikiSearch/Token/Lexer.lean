import WikiSearch.Text.Alphanumeric
import WikiSearch.Text.Blank
import WikiSearch.Text.Numeral
import WikiSearch.Token
import WikiSearch.Limit

/-!
# WikiSearch — reading tokens

One pass from left to right splits a query into tokens.

* Blanks separate tokens. A backslash in front of a blank makes it part of a word.
* A backslash in front of a backslash or a quote stands for that character; any
  other backslash stands for itself, one at the very end included.
* A quote at the start of a token opens a phrase, which runs to the closing quote
  or, without one, to the end of the query. A closing quote may be followed by
  `~` and a number, or by a bare `~`.
* `key:value` is a candidate for a directive if it stands at the start of the
  query or behind a blank, the key is made of letters, numbers and underscores,
  and the value does not start with a blank.
* `+` or `-` directly in front of other text binds to it as a sign.

Every reader splits its input in two: what it took and what is left. The lemmas
at the end say so, and that a token takes at least one character, which is why
reading ends.
-/

namespace WikiSearch

open Text

/-! ## Readers -/

/-- What a reader took from the front of its input, and what it left. -/
structure Reading where
  /-- The text that was read, escapes resolved. -/
  text : List Char
  source : List Char
  rest : List Char
deriving Repr, DecidableEq

namespace Reading

/-- A reading that has taken nothing. -/
def none (cs : List Char) : Reading := ⟨[], [], cs⟩

/-- Puts one character, written as `source`, in front of what was read. -/
def push (r : Reading) (c : Char) (source : List Char) : Reading :=
  { r with text := c :: r.text, source := source ++ r.source }

end Reading

/-- Whether a backslash inside a word makes a pair with the character behind it. -/
def escapable (c : Char) : Bool := isBlank c || c = '\\' || c = '"'

/-- Reads a word: up to the first blank that is not escaped, or to the end. -/
def readWord : List Char → Reading
  | [] => .none []
  | '\\' :: c :: rest =>
    if escapable c then (readWord rest).push c ['\\', c]
    else (readWord (c :: rest)).push '\\' ['\\']
  | c :: rest =>
    if isBlank c then .none (c :: rest) else (readWord rest).push c [c]

/-- Reads what stands behind an opening quote, the closing quote included. The
second part says whether there is a closing quote. -/
def readQuoted : List Char → Reading × Bool
  | [] => (.none [], false)
  | '"' :: rest => (⟨[], ['"'], rest⟩, true)
  | '\\' :: '"' :: rest =>
    let (r, closed) := readQuoted rest
    (r.push '"' ['\\', '"'], closed)
  | '\\' :: '\\' :: rest =>
    let (r, closed) := readQuoted rest
    (r.push '\\' ['\\', '\\'], closed)
  | c :: rest =>
    let (r, closed) := readQuoted rest
    (r.push c [c], closed)

/-- Reads the characters at the front that have a property. -/
def readWhile (p : Char → Bool) (cs : List Char) : Reading :=
  ⟨cs.takeWhile p, cs.takeWhile p, cs.dropWhile p⟩

/-- The largest slop that a phrase can have; a greater number stands for it. -/
def maxSlop : Nat := UInt32.size - 1

/-- What may follow the closing quote of a phrase: `~` and a number, which is the
slop, or a bare `~`, which marks the phrase as stemmed. -/
structure PhraseMark where
  slop : Option Nat
  stemmed : Bool
  source : List Char
  rest : List Char
deriving Repr, DecidableEq

/-- Reads what may follow the closing quote of a phrase. -/
def readMark : List Char → PhraseMark
  | '~' :: rest =>
    let digits := readWhile isDigit rest
    if digits.text = [] then ⟨none, true, ['~'], rest⟩
    else ⟨some (min (digitsValue digits.text) maxSlop), false, '~' :: digits.source, digits.rest⟩
  | cs => ⟨none, false, [], cs⟩

/-- What a token holds, with the characters that were taken and those left. -/
structure Lexeme where
  content : Content
  source : List Char
  rest : List Char
deriving Repr, DecidableEq

/-- Reads a phrase from behind its opening quote, which is part of the source. -/
def readPhrase (cs : List Char) : Lexeme :=
  let quoted := readQuoted cs
  let text := String.ofList quoted.1.text
  if quoted.2 then
    let mark := readMark quoted.1.rest
    ⟨.phrase ⟨text, mark.slop, mark.stemmed, true⟩, '"' :: quoted.1.source ++ mark.source, mark.rest⟩
  else ⟨.phrase ⟨text, none, false, false⟩, '"' :: quoted.1.source, quoted.1.rest⟩

/-- Whether a character may stand in a keyword name. -/
def isKeyChar (c : Char) : Bool := isAlphanumeric c || c = '_'

/-- Reads the rest of a candidate from behind the opening quote of its value. What
follows the closing quote belongs to it, up to the next blank. -/
def readQuotedValue (key : List Char) (cs : List Char) : Lexeme :=
  let value := (readQuoted cs).1
  let suffix := readWhile (fun c => !isBlank c) value.rest
  let source := key ++ ':' :: '"' :: value.source ++ suffix.source
  let candidate : Candidate :=
    { key := String.ofList key
      value := String.ofList value.text
      quotedValue := String.ofList ('"' :: value.source)
      delimiter := some '"'
      suffix := String.ofList suffix.text
      literal := String.ofList source }
  ⟨.keyword candidate, source, suffix.rest⟩

/-- Reads the rest of a candidate from behind its colon, where a word stands. -/
def readBareValue (key : List Char) (cs : List Char) : Lexeme :=
  let value := readWord cs
  let candidate : Candidate :=
    { key := String.ofList key
      value := String.ofList value.text
      quotedValue := String.ofList value.text
      delimiter := none
      suffix := ""
      literal := String.ofList (key ++ ':' :: value.text) }
  ⟨.keyword candidate, key ++ ':' :: value.source, value.rest⟩

/-- Reads a candidate for a directive, if the input starts with one. -/
def readCandidate? (cs : List Char) : Option Lexeme :=
  let key := readWhile isKeyChar cs
  if key.text = [] then none
  else match key.rest with
    -- a quote opens a quoted value, whether it is closed or not
    | ':' :: '"' :: rest => some (readQuotedValue key.text rest)
    | ':' :: c :: rest => if isBlank c then none else some (readBareValue key.text (c :: rest))
    | _ => none

/-- Reads what a token holds, behind its sign. A candidate for a directive stands
at a boundary: at the start of the query or behind a blank. -/
def readContent (boundary : Bool) : List Char → Lexeme
  | '"' :: rest => readPhrase rest
  | cs =>
    match if boundary then readCandidate? cs else none with
    | some lexeme => lexeme
    | none =>
      let word := readWord cs
      ⟨.word (String.ofList word.text), word.source, word.rest⟩

/-- The sign at the front of a token, if it has one. A sign is directly followed by
other text. -/
def sign? : List Char → Option Sign
  | '+' :: c :: _ => if isBlank c then none else some .require
  | '-' :: c :: _ => if isBlank c then none else some .exclude
  | _ => none

/-- The number of characters that a sign takes. -/
def signLength (sign : Option Sign) : Nat := if sign.isSome then 1 else 0

/-! ## Nothing is lost, and a token is never empty -/

/-- What a reader takes and what it leaves are all that there was, in this order. So it is for each
of the readers. -/
theorem readWord_split (cs : List Char) : (readWord cs).source ++ (readWord cs).rest = cs := by
  fun_induction readWord cs <;> simp_all [Reading.none, Reading.push]

theorem readQuoted_split (cs : List Char) :
    (readQuoted cs).1.source ++ (readQuoted cs).1.rest = cs := by
  fun_induction readQuoted cs <;> simp_all [Reading.none, Reading.push]

theorem readWhile_split (p : Char → Bool) (cs : List Char) :
    (readWhile p cs).source ++ (readWhile p cs).rest = cs := by
  simp [readWhile]

theorem readMark_split (cs : List Char) : (readMark cs).source ++ (readMark cs).rest = cs := by
  unfold readMark
  split
  · rename_i rest
    have h := readWhile_split isDigit rest
    simp only
    split <;> simp_all
  · simp

theorem readPhrase_split (cs : List Char) :
    (readPhrase cs).source ++ (readPhrase cs).rest = '"' :: cs := by
  have hq := readQuoted_split cs
  have hm := readMark_split (readQuoted cs).1.rest
  unfold readPhrase
  simp only
  split <;> simp_all

theorem readQuotedValue_split (key cs : List Char) :
    (readQuotedValue key cs).source ++ (readQuotedValue key cs).rest = key ++ ':' :: '"' :: cs := by
  have hq := readQuoted_split cs
  have hs := readWhile_split (fun c => !isBlank c) (readQuoted cs).1.rest
  simp [readQuotedValue, hq, hs]

theorem readBareValue_split (key cs : List Char) :
    (readBareValue key cs).source ++ (readBareValue key cs).rest = key ++ ':' :: cs := by
  simp [readBareValue, readWord_split cs]

theorem readCandidate?_split {cs : List Char} {lexeme : Lexeme}
    (h : readCandidate? cs = some lexeme) : lexeme.source ++ lexeme.rest = cs := by
  have hk : (readWhile isKeyChar cs).text ++ (readWhile isKeyChar cs).rest = cs :=
    readWhile_split isKeyChar cs
  unfold readCandidate? at h
  simp only at h
  split at h
  · simp at h
  · -- behind the colon a quote or another character decides which value is read
    split at h
    · rename_i rest heq
      obtain rfl := Option.some.inj h
      rw [readQuotedValue_split, ← heq, hk]
    · rename_i c rest _ heq
      split at h
      · simp at h
      · obtain rfl := Option.some.inj h
        rw [readBareValue_split, ← heq, hk]
    · simp at h

theorem readContent_split (boundary : Bool) (cs : List Char) :
    (readContent boundary cs).source ++ (readContent boundary cs).rest = cs := by
  unfold readContent
  split
  · rename_i rest
    exact readPhrase_split rest
  · split
    · rename_i lexeme h
      cases boundary with
      | false => simp at h
      | true => exact readCandidate?_split (by simpa using h)
    · exact readWord_split cs

/-- A word that starts with a character that is not blank takes that character. -/
theorem readWord_source_ne_nil {c : Char} (h : isBlank c = false) (cs : List Char) :
    (readWord (c :: cs)).source ≠ [] := by
  unfold readWord
  split <;> simp_all [Reading.none, Reading.push]
  split <;> simp

/-- A candidate has its key, at least. -/
theorem readCandidate?_source_ne_nil {cs : List Char} {lexeme : Lexeme}
    (h : readCandidate? cs = some lexeme) : lexeme.source ≠ [] := by
  unfold readCandidate? at h
  simp only at h
  split at h
  · simp at h
  · split at h
    · obtain rfl := Option.some.inj h
      simp [readQuotedValue]
    · split at h
      · simp at h
      · obtain rfl := Option.some.inj h
        simp [readBareValue]
    · simp at h

/-- Every token takes something, so that reading goes on. -/
theorem readContent_source_ne_nil (boundary : Bool) {c : Char} (h : isBlank c = false)
    (cs : List Char) : (readContent boundary (c :: cs)).source ≠ [] := by
  unfold readContent
  split
  · simp only [readPhrase]
    split <;> simp
  · split
    · rename_i lexeme hl
      cases boundary with
      | false => simp at hl
      | true => exact readCandidate?_source_ne_nil (by simpa using hl)
    · exact readWord_source_ne_nil h cs

/-- What is left behind a token is shorter than what was there before. -/
theorem readContent_rest_lt (boundary : Bool) {c : Char} (h : isBlank c = false)
    (cs : List Char) : (readContent boundary (c :: cs)).rest.length < (c :: cs).length := by
  have hs := congrArg List.length (readContent_split boundary (c :: cs))
  have hne := List.length_pos_iff.mpr (readContent_source_ne_nil boundary h cs)
  rw [List.length_append] at hs
  omega

/-- A sign stands in front of a character that is not blank. -/
theorem exists_cons_of_sign? {c : Char} (cs : List Char) (h : isBlank c = false) :
    ∃ d ds, (c :: cs).drop (signLength (sign? (c :: cs))) = d :: ds ∧ isBlank d = false := by
  unfold sign?
  split
  · rename_i d ds _
    split
    · exact ⟨_, _, rfl, h⟩
    · exact ⟨d, ds, by simp_all [signLength], by simp_all⟩
  · rename_i d ds _
    split
    · exact ⟨_, _, rfl, h⟩
    · exact ⟨d, ds, by simp_all [signLength], by simp_all⟩
  · exact ⟨_, _, rfl, h⟩

theorem readSigned_rest_lt (boundary : Bool) {c : Char} (h : isBlank c = false)
    (cs : List Char) :
    (readContent boundary ((c :: cs).drop (signLength (sign? (c :: cs))))).rest.length
      < (c :: cs).length := by
  obtain ⟨d, ds, hd, hb⟩ := exists_cons_of_sign? cs h
  have hlt := readContent_rest_lt boundary hb ds
  have hle := congrArg List.length hd
  rw [List.length_drop] at hle
  rw [hd]
  omega

/-! ## Tokens of a query -/

namespace Token

/-- The tokens of the characters from offset `pos` on. `boundary` says whether the
first of them stands at the start of the query or behind a blank. -/
def scan (pos : Nat) (boundary : Bool) : List Char → List Token
  | [] => []
  | c :: cs =>
    if h : isBlank c then scan (pos + 1) true cs
    else
      -- a token that follows another one directly is not at a boundary
      let sign := sign? (c :: cs)
      let textStart := pos + signLength sign
      let lexeme := readContent boundary ((c :: cs).drop (signLength sign))
      let stop := textStart + lexeme.source.length
      ⟨lexeme.content, sign, ⟨pos, stop⟩, textStart⟩ :: scan stop false lexeme.rest
termination_by cs => cs.length
decreasing_by
  · simp
  · exact readSigned_rest_lt boundary (by simpa using h) cs

/-- The tokens of a query that is within the hard length limit. -/
def ofText (query : String) : Except TooLong (List Token) := do
  let cs ← checkedChars query
  return scan 0 true cs

end Token

end WikiSearch
