import VoiceLink.Text.Numeral

/-!
# Decimal numbers with a fraction

The double a text such as `-1.5e3` stands for: the nearest one. A point needs a digit on one of its
sides; infinity and what is no number are spelled out.

A number is an integer of all its digits, scaled by the exponent less the digits behind the point. A
text may ask for any exponent, so the scale is cut off (`maxScale`) where the double no longer
depends on it.
-/

namespace VoiceLink.Real

/-- The largest power of ten that is worked with; beyond it every number is zero or too large. -/
def maxScale : Nat := 100000

/-- The double nearest to a decimal: a sign, digits before and after the point, and an exponent. -/
def ofDecimal (negative : Bool) (whole fraction : List Char) (exponent : Int) : Float :=
  let n := Numeral.ofDigits (whole ++ fraction)
  let scale := max (-(maxScale : Int)) (min maxScale (exponent - (fraction.length : Int)))
  let x := if n = 0 then 0.0 else Float.ofScientific n (scale < 0) scale.natAbs
  if negative then -x else x

def infinity : Float := 1.0 / 0.0

def notANumber : Float := 0.0 / 0.0

/-- A text without a leading sign, and whether the sign was a minus. -/
def splitSign : List Char → Bool × List Char
  | '-' :: cs => (true, cs)
  | '+' :: cs => (false, cs)
  | cs => (false, cs)

def integer? (cs : List Char) : Option Int :=
  let (negative, ds) := splitSign cs
  if ds.isEmpty ∨ ¬ ds.all Char.isDigit then none
  else some (if negative then -(Numeral.ofDigits ds : Int) else Numeral.ofDigits ds)

def named : List (String × Float) :=
  [("inf", infinity), ("infinity", infinity), ("nan", notANumber)]

/-- An exponent, if there is one, to the end of the text. -/
def exponent? : List Char → Option Int
  | [] => some 0
  | c :: cs => if c = 'e' ∨ c = 'E' then integer? cs else none

/-- The double a whole text stands for. -/
def ofChars? (cs : List Char) : Option Float :=
  let (negative, body) := splitSign cs
  let word := String.ofList (body.map Char.toLower)
  match named.lookup word with
  | some x => some (if negative then -x else x)
  | none => do
    let whole := body.takeWhile Char.isDigit
    let rest := body.dropWhile Char.isDigit
    -- both sides of a point may be empty, but not at once
    let (fraction, rest) := match rest with
      | '.' :: more => (more.takeWhile Char.isDigit, more.dropWhile Char.isDigit)
      | _ => ([], rest)
    if whole.isEmpty ∧ fraction.isEmpty then none
    else return ofDecimal negative whole fraction (← exponent? rest)

end VoiceLink.Real
