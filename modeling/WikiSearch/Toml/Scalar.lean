import WikiSearch.Text.Numeral
import WikiSearch.Text.Split
import WikiSearch.Toml.Text
import WikiSearch.Toml.Value

/-!
# WikiSearch — TOML values without quotes

Truth values, numbers and dates stand without quotes and reach up to the next blank,
line end or punctuation. Within a number, single underscores may stand between two
digits, and no number to base ten starts with a needless zero.
-/

namespace WikiSearch.Toml

open WikiSearch.Text

/-! ## Numbers -/

/-- The digits of a number without the underscores, if every underscore stands between
two digits. -/
def digitRun? (ok : Char → Bool) (cs : List Char) : Option (List Char) :=
  let groups := pieces '_' cs
  if groups.all (fun group => !group.isEmpty && group.all ok) then some groups.flatten else none

/-- The digits of a number to base ten, if it has no needless zero in front. -/
def wholeDigits? (cs : List Char) : Option (List Char) :=
  match digitRun? isDigit cs with
  | some ('0' :: _ :: _) => none
  | digits => digits

/-- The value of the digits of a number to some base up to sixteen. -/
def basedValue? (base : Nat) (cs : List Char) : Option Int := do
  let isBaseDigit (c : Char) := (hexDigit? c).any (· < base)
  let digits ← digitRun? isBaseDigit cs
  some (digits.foldl (fun n d => base * n + (hexDigit? d).getD 0) 0 : Nat)

/-- Takes a sign off the front, and says whether it is a minus. -/
def splitSign : List Char → Bool × List Char
  | '-' :: cs => (true, cs)
  | '+' :: cs => (false, cs)
  | cs => (false, cs)

/-- The whole number that is written, if it is one. -/
def integer? : List Char → Option Int
  | '0' :: 'x' :: cs => basedValue? 16 cs
  | '0' :: 'o' :: cs => basedValue? 8 cs
  | '0' :: 'b' :: cs => basedValue? 2 cs
  | cs =>
    let (minus, size) := splitSign cs
    (wholeDigits? size).map fun digits =>
      if minus then -(digitsValue digits : Int) else digitsValue digits

/-- The number `digits * 10 ^ exponent`; none if it is too large. -/
def scaled? (digits : List Char) (exponent : Int) : Option Float :=
  let n := digitsValue digits
  -- far beyond what can be held there is no need to compute the power
  if n = 0 ∨ exponent + digits.length < -400 then some 0
  else if exponent > 400 then none
  else
    let x := Float.ofScientific n (exponent < 0) exponent.natAbs
    if x.isInf then none else some x

/-- The number without a sign that is written with a fraction or an exponent, if it is
one; its value is none if it is too large. -/
def unsignedFloat? (cs : List Char) : Option (Option Float) :=
  let (mantissa, tail) := cs.span (fun c => c ≠ 'e' && c ≠ 'E')
  let (whole, point) := mantissa.span (· ≠ '.')
  -- without a fraction and an exponent it is a whole number
  if point = [] ∧ tail = [] then none
  else do
    let digits ← wholeDigits? whole
    let fraction ← if point = [] then some [] else digitRun? isDigit (point.drop 1)
    let (minus, size) := splitSign (tail.drop 1)
    let power ← if tail = [] then some [] else digitRun? isDigit size
    let exponent : Int := if minus then -(digitsValue power : Int) else digitsValue power
    some (scaled? (digits ++ fraction) (exponent - fraction.length))

/-- The number with a fraction or an exponent that is written, if it is one. -/
def float? (cs : List Char) : Option (Option Float) :=
  let (minus, size) := splitSign cs
  let signed (x : Float) := if minus then -x else x
  if size = "inf".toList then some (some (signed (1 / 0)))
  else if size = "nan".toList then some (some (0 / 0))
  else (unsignedFloat? size).map (·.map signed)

/-! ## Dates -/

/-- Takes a number of two digits within bounds off the front. -/
def twoDigits? (low high : Nat) : List Char → Option (Nat × List Char)
  | a :: b :: rest =>
    let n := digitsValue [a, b]
    if isDigit a && isDigit b && low ≤ n && n ≤ high then some (n, rest) else none
  | _ => none

/-- The number of days of a month. -/
def daysIn (year month : Nat) : Nat :=
  if month = 2 then
    if year % 4 = 0 ∧ (year % 100 ≠ 0 ∨ year % 400 = 0) then 29 else 28
  else if month = 4 ∨ month = 6 ∨ month = 9 ∨ month = 11 then 30
  else 31

/-- Takes a given character off the front. -/
def skipChar? (c : Char) : List Char → Option (List Char)
  | d :: rest => if d = c then some rest else none
  | [] => none

/-- Takes a date off the front. -/
def skipDate? (cs : List Char) : Option (List Char) := do
  let (century, cs) ← twoDigits? 0 99 cs
  let (rest, cs) ← twoDigits? 0 99 cs
  let cs ← skipChar? '-' cs
  let (month, cs) ← twoDigits? 1 12 cs
  let cs ← skipChar? '-' cs
  let (_, cs) ← twoDigits? 1 (daysIn (100 * century + rest) month) cs
  some cs

/-- Takes the seconds of a time off the front, if it has any. -/
def skipSeconds? : List Char → Option (List Char)
  | ':' :: cs => do
    let (_, cs) ← twoDigits? 0 60 cs
    match cs with
    | '.' :: d :: cs => if isDigit d then some (cs.dropWhile isDigit) else none
    | '.' :: [] => none
    | cs => some cs
  | cs => some cs

/-- Takes a time of day off the front. The seconds may be left out. -/
def skipTime? (cs : List Char) : Option (List Char) := do
  let (_, cs) ← twoDigits? 0 23 cs
  let cs ← skipChar? ':' cs
  let (_, cs) ← twoDigits? 0 59 cs
  skipSeconds? cs

/-- Whether this is how far a place's time is from the universal one. -/
def isOffset : List Char → Bool
  | ['Z'] | ['z'] => true
  | sign :: cs =>
    (sign = '+' || sign = '-') && (do
      let (_, cs) ← twoDigits? 0 23 cs
      let cs ← skipChar? ':' cs
      let (_, cs) ← twoDigits? 0 59 cs
      some cs) == some []
  | [] => false

/-- Whether this is a date without a time. -/
def isDate (cs : List Char) : Bool := skipDate? cs == some []

/-- Whether this is a date, a time of day, or both with a `T` or a blank between them
and a distance from universal time behind them or not. -/
def isDatetime (cs : List Char) : Bool :=
  match skipDate? cs with
  | none => skipTime? cs == some []
  | some [] => true
  | some (c :: cs) =>
    (c = 'T' || c = 't' || c = ' ') &&
      match skipTime? cs with
      | none => false
      | some [] => true
      | some cs => isOffset cs

/-! ## Reading -/

/-- The value that is written without quotes. -/
def scalar? (cs : List Char) : Option Value :=
  if cs = "true".toList then some (.boolean true)
  else if cs = "false".toList then some (.boolean false)
  else if isDatetime cs then some (.datetime (String.ofList cs))
  else ((integer? cs).map .integer).or ((float? cs).map .float)

/-- Whether a character belongs to a value that stands without quotes. -/
def inRun (c : Char) : Bool :=
  !(isSpace c || isLineEnd c || [',', ']', '}', '#', '=', '[', '{', '"', '\''].contains c)

/-- The run of characters at the front that a value without quotes is written with, and
what is left. A date and a time with one blank between them are one run. -/
def splitRun (cs : List Char) : List Char × List Char :=
  let run := cs.takeWhile inRun
  match isDate run, cs.dropWhile inRun with
  | true, ' ' :: c :: rest =>
    -- a digit behind a date and a blank can only start its time
    if isDigit c then (run ++ ' ' :: (c :: rest).takeWhile inRun, (c :: rest).dropWhile inRun)
    else (run, ' ' :: c :: rest)
  | _, rest => (run, rest)

/-- Takes a value without quotes off the front. -/
def readScalar? (cs : List Char) : Option (Value × List Char) :=
  let (run, rest) := splitRun cs
  (scalar? run).map (·, rest)

/-! ## Nothing is longer than before -/

theorem splitRun_append (cs : List Char) : (splitRun cs).1 ++ (splitRun cs).2 = cs := by
  have h := List.takeWhile_append_dropWhile (p := inRun) (l := cs)
  unfold splitRun
  dsimp only
  split
  · rename_i c rest _ heq
    rw [heq] at h
    split
    · rw [List.append_assoc, List.cons_append, List.takeWhile_append_dropWhile]
      exact h
    · exact h
  · exact h

theorem scalar?_nil : scalar? [] = none := by
  have hfloat : unsignedFloat? [] = none := rfl
  simp [scalar?, isDatetime, skipDate?, skipTime?, twoDigits?, integer?, float?, splitSign,
    wholeDigits?, digitRun?, pieces, hfloat]

theorem readScalar?_length_lt {cs rest : List Char} {v : Value}
    (h : readScalar? cs = some (v, rest)) : rest.length < cs.length := by
  have ha := splitRun_append cs
  unfold readScalar? at h
  generalize splitRun cs = parts at h ha
  obtain ⟨run, left⟩ := parts
  -- an empty run is no value
  cases run with
  | nil => simp [scalar?_nil] at h
  | cons c run =>
    obtain ⟨_, _, hv⟩ := Option.map_eq_some_iff.1 h
    have := congrArg List.length ha
    simp only [Prod.mk.injEq] at hv
    simp only [List.cons_append, List.length_cons, List.length_append] at this
    rw [← hv.2]
    omega

/-- Reads a value without quotes. -/
def readScalar : Reader Value := Reader.ofFunction readScalar? readScalar?_length_lt

end WikiSearch.Toml
