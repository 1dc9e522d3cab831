import VoiceLink.Text.Shortest

/-!
# Decimals with fixed places

The text of a finite double with a given number of digits behind the point: the nearest such decimal
to the exact value, and of two equally near ones the one with an even last digit. As with shortest
decimals (`Shortest`) all of it is computed on exact integers from the bits, so nothing is rounded
before the last digit.
-/

namespace VoiceLink.Fixed

/-- A quotient as a whole number, rounded to the nearest; a half goes to the even neighbour. -/
def roundDiv (num den : Nat) : Nat :=
  let below := num / den
  let twice := 2 * (num % den)
  if twice < den ∨ (twice = den ∧ below % 2 = 0) then below else below + 1

/-- The magnitude of a double in units of `10 ^ -places`, to the nearest. -/
def units (places : Nat) (x : Float) : Nat :=
  let (fraction, exponent) := Shortest.fields x.toBits
  -- the double is `m · 2 ^ q`; an exponent field of zero takes away the leading one
  let m := if exponent = 0 then fraction else Shortest.fractions + fraction
  let q : Int := if exponent = 0 then -1074 else exponent - 1075
  roundDiv (m * Nat.pow 10 places * Nat.pow 2 q.toNat) (Nat.pow 2 (-q).toNat)

def text (places : Nat) (x : Float) : String :=
  let sign := Shortest.sign x
  if x.isNaN then "NaN"
  else if x.isInf then sign ++ "inf"
  else
    let n := units places x
    let whole := Numeral.text (n / Nat.pow 10 places)
    let fraction := if places = 0 then "" else "." ++ Numeral.padded places (n % Nat.pow 10 places)
    sign ++ whole ++ fraction

end VoiceLink.Fixed
