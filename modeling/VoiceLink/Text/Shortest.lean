import VoiceLink.Text.Numeral

/-!
# Shortest decimals

The text of a finite double is the decimal with the fewest digits that reads back as that double;
among equally short ones it is the nearest. Everything is computed on exact integers from the bits:
a double is `m · 2 ^ q`, and the decimals that read back as it fill an interval around it whose ends
belong to it exactly when `m` is even.

The search starts at a power of ten above the double and goes to finer grids until one has a point
inside the interval. What it finds is a number of digits and an exponent; how these are laid out is
another matter (`Layout`), on which messages and settings do not agree.
-/

namespace VoiceLink.Shortest

/-! ## Intervals -/

/-- A nonnegative decimal `digits · 10 ^ exponent`. -/
structure Decimal where
  digits : Nat
  exponent : Int
  deriving DecidableEq, Repr

/-- The decimals that read back as one double: the fractions between `low / den` and `high / den`
around `mid / den`. -/
structure Interval where
  low : Nat
  mid : Nat
  high : Nat
  den : Nat
  closed : Bool
  deriving DecidableEq, Repr

namespace Interval

/-- The interval of the double `m · 2 ^ q`. Below a power of two the neighbour is only half as far
away; `narrow` marks that case. -/
def around (m : Nat) (q : Int) (narrow : Bool) : Interval :=
  let shift := Nat.pow 2 (q - 2).toNat
  let den := Nat.pow 2 (2 - q).toNat
  { low := (4 * m - (if narrow then 1 else 2)) * shift
    mid := 4 * m * shift
    high := (4 * m + 2) * shift
    den
    closed := m % 2 = 0 }

def contains (i : Interval) (num : Nat) (scale : Nat) : Bool :=
  if i.closed then i.low * scale ≤ num && num ≤ i.high * scale
  else i.low * scale < num && num < i.high * scale

/-- The multiple of `10 ^ e` closest to the middle that lies inside, if there is one. Of two equally
close ones it is the even multiple. -/
def onGrid? (i : Interval) (e : Int) : Option Nat :=
  let up := Nat.pow 10 e.toNat
  let down := Nat.pow 10 (-e).toNat
  let step := up * i.den
  let mid := i.mid * down
  let below := mid / step
  let rest := mid % step
  let lowIn := i.contains (below * step) down
  let highIn := i.contains ((below + 1) * step) down
  if lowIn && highIn then
    if 2 * rest < step || (2 * rest = step && below % 2 = 0) then some below else some (below + 1)
  else if lowIn then some below
  else if highIn then some (below + 1)
  else none

/-- The least `e` at or above `start` with `mid / den < 10 ^ e`, looked for up to `fuel` steps. -/
def magnitude (i : Interval) : Nat → Int → Int
  | 0, e => e
  | fuel + 1, e =>
    if i.mid * Nat.pow 10 (-e).toNat < i.den * Nat.pow 10 e.toNat then e
    else magnitude i fuel (e + 1)

/-- The coarsest grid that meets the interval, searched from `10 ^ e` downwards. -/
def search (i : Interval) : Nat → Int → Decimal
  | 0, _ => { digits := i.mid / i.den, exponent := 0 }
  | fuel + 1, e =>
    match i.onGrid? e with
    | some n => if n = 0 then search i fuel (e - 1) else { digits := n, exponent := e }
    | none => search i fuel (e - 1)

end Interval

/-- A decimal without zeros at its end. -/
def Decimal.trim (d : Decimal) : Nat → Decimal
  | 0 => d
  | fuel + 1 =>
    if d.digits ≠ 0 ∧ d.digits % 10 = 0 then
      Decimal.trim { digits := d.digits / 10, exponent := d.exponent + 1 } fuel
    else d

/-! ## The bits of a double

Of the 64 bits, 52 hold the fraction, 11 the exponent and one the sign. Where the exponent field is
zero the fraction has no leading one. -/

def fractions : Nat := 4503599627370496

def exponents : Nat := 2048

def fields (bits : UInt64) : Nat × Nat :=
  (bits.toNat % fractions, bits.toNat / fractions % exponents)

def sign (x : Float) : String := if UInt64.size / 2 ≤ x.toBits.toNat then "-" else ""

/-- The shortest decimal of the magnitude of a finite double, given by its bits. -/
def ofBits (bits : UInt64) : Decimal :=
  let (fraction, exponent) := fields bits
  if fraction = 0 ∧ exponent = 0 then { digits := 0, exponent := 0 }
  else
    let i :=
      if exponent = 0 then Interval.around fraction (-1074) false
      else
        -- below a power of two, but not below the least
        let narrow := fraction = 0 ∧ 1 < exponent
        Interval.around (fractions + fraction) (exponent - 1075 : Int) narrow
    let top := i.magnitude 640 (-324)
    (i.search 800 top).trim 20

/-! ## Layouts -/

/-- How a decimal is laid out: which range of magnitudes is written positionally, whether a whole
number keeps `.0`, and whether a positive exponent carries its sign. -/
structure Layout where
  /-- Positional from `10 ^ (least - 1)` upwards, where `least` may be negative. -/
  least : Int
  /-- Positional below `10 ^ most`. -/
  most : Int
  wholePoint : Bool
  deriving DecidableEq, Repr

/-- Digits with a point after `point` of them; zeros fill the gap on either side. -/
def positional (ds : List Char) (point : Int) (wholePoint : Bool) : List Char :=
  if point ≤ 0 then '0' :: '.' :: List.replicate (-point).toNat '0' ++ ds
  else
    let p := point.toNat
    if ds.length ≤ p then
      ds ++ List.replicate (p - ds.length) '0' ++ (if wholePoint then ['.', '0'] else [])
    else ds.take p ++ '.' :: ds.drop p

def scientific (ds : List Char) (point : Int) : List Char :=
  let mantissa := match ds with
    | [] => []
    | [d] => [d]
    | d :: rest => d :: '.' :: rest
  let e := point - 1
  mantissa ++ 'e' :: (if e < 0 then '-' else '+') :: Numeral.digits e.natAbs

def Decimal.layOut (d : Decimal) (l : Layout) : List Char :=
  let ds := Numeral.digits d.digits
  if d.digits = 0 then '0' :: (if l.wholePoint then ['.', '0'] else [])
  else
    let point := (ds.length : Int) + d.exponent
    if l.least ≤ point ∧ point ≤ l.most then positional ds point l.wholePoint
    else scientific ds point

/-- The text of a double: a sign where its bits carry one, then its shortest decimal. -/
def text (l : Layout) (x : Float) : String :=
  if x.isNaN then "NaN"
  else if x.isInf then sign x ++ "inf"
  else sign x ++ String.ofList ((ofBits x.toBits).layOut l)

/-- Numbers in messages about data: positional from 0.00001 up to 10^16, always with a point. -/
def dataLayout : Layout := { least := -4, most := 16, wholePoint := true }

/-- Numbers turned into settings text: always positional, whole numbers without a point. -/
def plainLayout : Layout := { least := -400, most := 400, wholePoint := false }

end VoiceLink.Shortest
