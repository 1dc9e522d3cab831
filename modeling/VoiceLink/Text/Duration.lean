import VoiceLink.Text.Numeral

/-!
# Durations for people

A duration is written in the largest unit of which it has at least one, with the digits that are
needed behind the point: a minute is `60s`, and a millisecond and a half is `1.5ms`.
-/

namespace VoiceLink.DurationText

/-- A number of `10 ^ width`-ths as a decimal, without zeros at its end. -/
def decimal (width n : Nat) : String :=
  let whole := n / Nat.pow 10 width
  let rest := n % Nat.pow 10 width
  if rest = 0 then Numeral.text whole
  else
    let digits := (Numeral.padded width rest).toList
    Numeral.text whole ++ "."
      ++ String.ofList (digits.reverse.dropWhile (fun c => c = '0')).reverse

def ofNanoseconds (n : Nat) : String :=
  if 1000000000 ≤ n then decimal 9 n ++ "s"
  else if 1000000 ≤ n then decimal 6 n ++ "ms"
  else if 1000 ≤ n then decimal 3 n ++ "µs"
  else Numeral.text n ++ "ns"

def ofMilliseconds (n : Nat) : String := ofNanoseconds (n * 1000000)

end VoiceLink.DurationText
