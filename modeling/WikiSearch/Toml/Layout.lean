/-!
# WikiSearch — the layout of TOML files

The characters that a file may hold, and what separates its values: blanks within
a line, and comments and line ends between lines. A carriage return stands only in
front of a line feed, and no other control character but the tab occurs anywhere in
a file. That is checked once, before anything is read.
-/

namespace WikiSearch.Toml

/-- Whether a character may stand anywhere in a file. -/
def isAllowed (c : Char) : Bool := c = '\t' || c = '\n' || (' ' ≤ c && c ≠ '\x7f')

/-- Whether a file holds only characters that it may hold. -/
def wellFormed : List Char → Bool
  | [] => true
  | '\r' :: '\n' :: rest => wellFormed rest
  | c :: rest => isAllowed c && wellFormed rest

/-- Whether a character separates the parts of a line. -/
def isSpace (c : Char) : Bool := c = ' ' || c = '\t'

/-- Whether a character belongs to a line end. -/
def isLineEnd (c : Char) : Bool := c = '\n' || c = '\r'

/-- Drops the blanks at the front. -/
def skipSpaces (cs : List Char) : List Char := cs.dropWhile isSpace

/-- Drops the blanks, the line ends and the comments at the front; `comment` says
whether the front lies in a comment. -/
def skipLines (comment : Bool) : List Char → List Char
  | [] => []
  | c :: cs =>
    if comment then skipLines (c ≠ '\n') cs
    else if isSpace c || isLineEnd c then skipLines false cs
    else if c = '#' then skipLines true cs
    else c :: cs

/-- What is left behind the end of a line that holds nothing more but a comment. -/
def endLine? (cs : List Char) : Option (List Char) :=
  match skipSpaces cs with
  | [] => some []
  | '\n' :: rest => some rest
  | '\r' :: '\n' :: rest => some rest
  | '#' :: rest => some ((rest.dropWhile (· ≠ '\n')).drop 1)
  | _ => none

/-! ## Nothing is longer than before -/

theorem length_dropWhile_le {α : Type} (p : α → Bool) (l : List α) :
    (l.dropWhile p).length ≤ l.length :=
  (List.dropWhile_sublist p).length_le

/-- Skipping makes nothing longer. The same holds for each way of skipping. -/
theorem skipSpaces_length_le (cs : List Char) : (skipSpaces cs).length ≤ cs.length :=
  length_dropWhile_le _ _

theorem skipLines_length_le (comment : Bool) (cs : List Char) :
    (skipLines comment cs).length ≤ cs.length := by
  induction cs generalizing comment with
  | nil => simp [skipLines]
  | cons c cs ih =>
    have ht := ih true
    have hf := ih false
    have hn := ih (c ≠ '\n')
    unfold skipLines
    simp only [List.length_cons]
    repeat' split
    all_goals first | omega | simp

theorem endLine?_length_le {cs rest : List Char} (h : endLine? cs = some rest) :
    rest.length ≤ cs.length := by
  have hs := skipSpaces_length_le cs
  unfold endLine? at h
  -- the end of the text, one of the two line ends, or a comment that goes up to one
  split at h
  · obtain rfl := Option.some.inj h
    simp
  · rename_i r heq
    obtain rfl := Option.some.inj h
    rw [heq, List.length_cons] at hs
    omega
  · rename_i r heq
    obtain rfl := Option.some.inj h
    rw [heq, List.length_cons, List.length_cons] at hs
    omega
  · rename_i r heq
    obtain rfl := Option.some.inj h
    rw [heq, List.length_cons] at hs
    have hd := length_dropWhile_le (· ≠ '\n') r
    rw [List.length_drop]
    omega
  · simp at h

end WikiSearch.Toml
