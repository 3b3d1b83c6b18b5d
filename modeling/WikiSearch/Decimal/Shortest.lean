/-!
# WikiSearch — the shortest decimal of a number

A number in double precision is shown with the fewest digits that read back to it.
Of two decimals of that length the one closer to the number is taken, and of two
that are equally close the greater one.

The number is taken apart into `m * 2 ^ q`. The reals that round to it reach from
halfway to its lower neighbour to halfway to its upper one, ends included if `m` is
even; a decimal reads back if it lies in there. For one digit, two digits and so on
the two neighbours of the number on that decimal grid are tried.
-/

namespace WikiSearch.Decimal

/-- A positive number `m * 2 ^ q` in double precision. -/
structure Binary where
  m : Nat
  q : Int
  /-- Whether the lower neighbour is half as far away as the upper one. -/
  narrowBelow : Bool
deriving Repr, DecidableEq

/-- The number `digits * 10 ^ exponent`. -/
structure Dec where
  digits : Nat
  exponent : Int
deriving Repr, DecidableEq

/-- The positive finite number with these bits, the sign left out. -/
def Binary.ofBits (bits : UInt64) : Binary :=
  let e := ((bits >>> 52) &&& 0x7FF).toNat
  let f := (bits &&& 0xFFFFFFFFFFFFF).toNat
  if e = 0 then ⟨f, -1074, false⟩ else ⟨Nat.pow 2 52 + f, (e : Int) - 1075, f = 0 ∧ e > 1⟩

/-- Compares `a * 10 ^ i` with `n * 2 ^ j`. -/
def compareScaled (a : Nat) (i : Int) (n : Nat) (j : Int) : Ordering :=
  compare (a * Nat.pow 10 i.toNat * Nat.pow 2 (-j).toNat)
    (n * Nat.pow 2 j.toNat * Nat.pow 10 (-i).toNat)

/-- Whether a decimal reads back to the number. -/
def Binary.readsBack (x : Binary) (d : Dec) : Bool :=
  let low := if x.narrowBelow then 4 * x.m - 1 else 4 * x.m - 2
  let atLow := compareScaled d.digits d.exponent low (x.q - 2)
  let atHigh := compareScaled d.digits d.exponent (4 * x.m + 2) (x.q - 2)
  let ends := x.m % 2 == 0
  (atLow == .gt || (ends && atLow == .eq)) && (atHigh == .lt || (ends && atHigh == .eq))

/-- The greatest multiple of `10 ^ e` that is not above the number. -/
def Binary.floorAt (x : Binary) (e : Int) : Nat :=
  x.m * Nat.pow 2 x.q.toNat * Nat.pow 10 (-e).toNat /
    (Nat.pow 2 (-x.q).toNat * Nat.pow 10 e.toNat)

/-- The least exponent of a power of ten above the number. -/
def Binary.magnitude (x : Binary) : Int :=
  let whole := x.m * Nat.pow 2 x.q.toNat * Nat.pow 10 330 / Nat.pow 2 (-x.q).toNat
  ((Nat.toDigits 10 whole).length : Int) - 330

/-- The neighbour of the number on the grid of `10 ^ e` that reads back, if there is
one: the closer of the two, and the upper one if both are equally close. -/
def Binary.neighbour? (x : Binary) (e : Int) : Option Dec :=
  let low : Dec := ⟨x.floorAt e, e⟩
  let high : Dec := ⟨x.floorAt e + 1, e⟩
  let upperHalf := compareScaled (2 * low.digits + 1) e (2 * x.m) x.q != .gt
  match x.readsBack low, x.readsBack high with
  | true, true => some (if upperHalf then high else low)
  | true, false => some low
  | false, true => some high
  | false, false => none

/-- The shortest decimal of the number. Seventeen digits are enough for any. -/
def Binary.shortest (x : Binary) : Dec :=
  let grids := (List.range 17).map fun (n : Nat) => x.magnitude - 1 - (n : Int)
  (grids.findSome? x.neighbour?).getD ⟨x.floorAt (x.magnitude - 17), x.magnitude - 17⟩

/-- A decimal written without an exponent, with at least one digit on both sides of
the point. -/
def Dec.positional (d : Dec) : String :=
  if 0 ≤ d.exponent then
    toString d.digits ++ String.ofList (List.replicate d.exponent.toNat '0') ++ ".0"
  else
    let places := (-d.exponent).toNat
    let digits := Nat.toDigits 10 d.digits
    let padded := List.replicate (places + 1 - digits.length) '0' ++ digits
    let fraction := (padded.drop (padded.length - places)).reverse.dropWhile (· = '0')
    String.ofList (padded.take (padded.length - places)) ++ "."
      ++ (if fraction = [] then "0" else String.ofList fraction.reverse)

/-- A number in double precision as it is shown. -/
def text (x : Float) : String :=
  if x.isNaN then "NaN"
  else
    let bits := x.toBits
    let sign := if bits >>> 63 = 1 then "-" else ""
    let size := bits &&& 0x7FFFFFFFFFFFFFFF
    if size = 0x7FF0000000000000 then sign ++ "inf"
    else if size = 0 then sign ++ "0.0"
    else sign ++ (Binary.ofBits size).shortest.positional

end WikiSearch.Decimal
