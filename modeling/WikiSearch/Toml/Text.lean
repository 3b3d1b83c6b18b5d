import WikiSearch.Toml.Reader

/-!
# WikiSearch — texts in TOML files

A text stands between quotes of one of two kinds. Between double quotes a backslash
starts an escape; between single quotes every character stands for itself. Three
quotes of a kind open a text that may go over several lines: a line end directly
behind them does not count, and the text ends at the next three quotes, in front of
which up to two more may stand.
-/

namespace WikiSearch.Toml

/-- The value of a hexadecimal digit. -/
def hexDigit? (c : Char) : Option Nat :=
  if '0' ≤ c ∧ c ≤ '9' then some (c.toNat - '0'.toNat)
  else if 'a' ≤ c ∧ c ≤ 'f' then some (c.toNat - 'a'.toNat + 10)
  else if 'A' ≤ c ∧ c ≤ 'F' then some (c.toNat - 'A'.toNat + 10)
  else none

/-- The value of some hexadecimal digits. -/
def hexValue? (digits : List Char) : Option Nat :=
  digits.foldlM (fun n d => (hexDigit? d).map (16 * n + ·)) 0

/-- The character whose number some hexadecimal digits give. -/
def numbered? (digits : List Char) : Option Char := do
  let n ← hexValue? digits
  if n.isValidChar then some (Char.ofNat n) else none

/-- The character that a letter stands for behind a backslash. -/
def lettered? (c : Char) : Option Char :=
  match c with
  | 'b' => some '\x08'
  | 't' => some '\t'
  | 'n' => some '\n'
  | 'f' => some '\x0c'
  | 'r' => some '\r'
  | 'e' => some '\x1b'
  | '"' => some '"'
  | '\\' => some '\\'
  | _ => none

/-- Puts a character in front of a text that was read. -/
def pushChar (c : Option Char) (read : Option (List Char × List Char)) :
    Option (List Char × List Char) := do
  let c ← c
  let (text, rest) ← read
  some (c :: text, rest)

/-- Reads what stands behind an opening double quote, up to the closing one. -/
def readBasic : List Char → Option (List Char × List Char)
  | [] => none
  | '"' :: rest => some ([], rest)
  | '\\' :: 'x' :: a :: b :: rest => pushChar (numbered? [a, b]) (readBasic rest)
  | '\\' :: 'u' :: a :: b :: c :: d :: rest => pushChar (numbered? [a, b, c, d]) (readBasic rest)
  | '\\' :: 'U' :: a :: b :: c :: d :: e :: f :: g :: h :: rest =>
    pushChar (numbered? [a, b, c, d, e, f, g, h]) (readBasic rest)
  | '\\' :: c :: rest => pushChar (lettered? c) (readBasic rest)
  | c :: rest => if isLineEnd c then none else pushChar (some c) (readBasic rest)

/-- Whether the rest of a line is blank. -/
def blankLine (cs : List Char) : Bool :=
  match skipSpaces cs with
  | c :: _ => isLineEnd c
  | [] => false

/-- Reads what stands behind three opening double quotes, up to the closing ones. A
backslash at the end of a line drops the line end and all blanks and line ends behind
it; `dropping` says whether that goes on. -/
def readBasicLines (dropping : Bool) : List Char → Option (List Char × List Char)
  | [] => none
  -- of four or five quotes the last three close the text
  | '"' :: '"' :: '"' :: '"' :: '"' :: rest => some (['"', '"'], rest)
  | '"' :: '"' :: '"' :: '"' :: rest => some (['"'], rest)
  | '"' :: '"' :: '"' :: rest => some ([], rest)
  | '\\' :: 'x' :: a :: b :: rest => pushChar (numbered? [a, b]) (readBasicLines false rest)
  | '\\' :: 'u' :: a :: b :: c :: d :: rest =>
    pushChar (numbered? [a, b, c, d]) (readBasicLines false rest)
  | '\\' :: 'U' :: a :: b :: c :: d :: e :: f :: g :: h :: rest =>
    pushChar (numbered? [a, b, c, d, e, f, g, h]) (readBasicLines false rest)
  | '\\' :: c :: rest =>
    -- behind the last backslash of a line only blanks may stand
    if blankLine (c :: rest) then readBasicLines true rest
    else pushChar (lettered? c) (readBasicLines false rest)
  | c :: rest =>
    if dropping && (isSpace c || isLineEnd c) then readBasicLines true rest
    else pushChar (some c) (readBasicLines false rest)

/-- Reads what stands behind an opening single quote, up to the closing one. -/
def readLiteral : List Char → Option (List Char × List Char)
  | [] => none
  | '\'' :: rest => some ([], rest)
  | c :: rest => if isLineEnd c then none else pushChar (some c) (readLiteral rest)

/-- Reads what stands behind three opening single quotes, up to the closing ones. -/
def readLiteralLines : List Char → Option (List Char × List Char)
  | [] => none
  | '\'' :: '\'' :: '\'' :: '\'' :: '\'' :: rest => some (['\'', '\''], rest)
  | '\'' :: '\'' :: '\'' :: '\'' :: rest => some (['\''], rest)
  | '\'' :: '\'' :: '\'' :: rest => some ([], rest)
  | c :: rest => pushChar (some c) (readLiteralLines rest)

/-- Drops a line end at the very front. -/
def dropLineEnd : List Char → List Char
  | '\n' :: rest => rest
  | '\r' :: '\n' :: rest => rest
  | cs => cs

/-- Takes a text of any kind off the front. -/
def readText? : List Char → Option (List Char × List Char)
  | '"' :: '"' :: '"' :: rest => readBasicLines false (dropLineEnd rest)
  | '"' :: rest => readBasic rest
  | '\'' :: '\'' :: '\'' :: rest => readLiteralLines (dropLineEnd rest)
  | '\'' :: rest => readLiteral rest
  | _ => none

/-! ## Nothing is longer than before -/

/-- A character is put in front of a text only if the text could be read. -/
theorem pushChar_eq_some {c : Option Char} {read : Option (List Char × List Char)}
    {text rest : List Char} (h : pushChar c read = some (text, rest)) :
    ∃ text', read = some (text', rest) := by
  unfold pushChar at h
  cases c with
  | none => simp at h
  | some c =>
    cases read with
    | none => simp at h
    | some r =>
      obtain ⟨t, r⟩ := r
      simp at h
      exact ⟨t, by simp [h.2]⟩

/-- Reading a text takes its quotes, at least. So it is in each notation. -/
theorem readBasic_length_lt {cs text rest : List Char} (h : readBasic cs = some (text, rest)) :
    rest.length < cs.length := by
  -- each step takes a character at least, and the closing quote takes one as well
  fun_induction readBasic cs generalizing text with
  | case1 => simp at h
  | case2 rest' => simp_all
  | case3 a b rest' ih | case4 a b c d rest' ih | case5 a b c d e f g k rest' ih
  | case6 c rest' _ _ _ ih =>
    obtain ⟨t, ht⟩ := pushChar_eq_some h
    have := ih ht
    simp only [List.length_cons]
    omega
  | case7 => simp at h
  | case8 =>
    rename_i ih
    obtain ⟨t, ht⟩ := pushChar_eq_some h
    have := ih ht
    simp only [List.length_cons]
    omega

theorem readBasicLines_length_lt {dropping : Bool} {cs text rest : List Char}
    (h : readBasicLines dropping cs = some (text, rest)) : rest.length < cs.length := by
  -- each step takes a character at least, and the closing quotes take three
  fun_induction readBasicLines dropping cs generalizing text with
  | case1 => simp at h
  | case2 d rest' | case3 d rest' | case4 d rest' =>
    simp only [Option.some.injEq, Prod.mk.injEq] at h
    simp only [← h.2, List.length_cons]
    omega
  | case5 | case6 | case7 | case9 | case11 =>
    rename_i ih
    obtain ⟨t, ht⟩ := pushChar_eq_some h
    have := ih ht
    simp only [List.length_cons]
    omega
  | case8 | case10 =>
    rename_i ih
    have := ih h
    simp only [List.length_cons]
    omega

theorem readLiteral_length_lt {cs text rest : List Char} (h : readLiteral cs = some (text, rest)) :
    rest.length < cs.length := by
  fun_induction readLiteral cs generalizing text with
  | case1 => simp at h
  | case2 rest' => simp_all
  | case3 => simp at h
  | case4 =>
    rename_i ih
    obtain ⟨t, ht⟩ := pushChar_eq_some h
    have := ih ht
    simp only [List.length_cons]
    omega

theorem readLiteralLines_length_lt {cs text rest : List Char}
    (h : readLiteralLines cs = some (text, rest)) : rest.length < cs.length := by
  fun_induction readLiteralLines cs generalizing text with
  | case1 => simp at h
  | case2 rest' | case3 rest' | case4 rest' =>
    simp only [Option.some.injEq, Prod.mk.injEq] at h
    simp only [← h.2, List.length_cons]
    omega
  | case5 =>
    rename_i ih
    obtain ⟨t, ht⟩ := pushChar_eq_some h
    have := ih ht
    simp only [List.length_cons]
    omega

/-- The line end right behind opening quotes is not part of the text. -/
theorem dropLineEnd_length_le (cs : List Char) : (dropLineEnd cs).length ≤ cs.length := by
  unfold dropLineEnd
  split
  · simp
  · simp only [List.length_cons]
    omega
  · exact Nat.le_refl _

theorem readText?_length_lt {cs text rest : List Char} (h : readText? cs = some (text, rest)) :
    rest.length < cs.length := by
  unfold readText? at h
  split at h
  · rename_i r
    have := readBasicLines_length_lt h
    have := dropLineEnd_length_le r
    simp only [List.length_cons]
    omega
  · have := readBasic_length_lt h
    simp only [List.length_cons]
    omega
  · rename_i r
    have := readLiteralLines_length_lt h
    have := dropLineEnd_length_le r
    simp only [List.length_cons]
    omega
  · have := readLiteral_length_lt h
    simp only [List.length_cons]
    omega
  · simp at h

/-- Reads a text of any kind. -/
def readText : Reader String :=
  (Reader.ofFunction readText? readText?_length_lt).map String.ofList

end WikiSearch.Toml
