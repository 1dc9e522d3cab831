import VoiceLink.Audio.Format

/-!
# Opus packets

A packet tells by its first bytes how many frames it holds, how long each lasts and where they end.
`Packet.frames?` takes the framing apart; a packet that breaks a rule of the framing has none, and
`Packet.ticks?` gives the duration of one that keeps them all.

The first byte holds the configuration in its high five bits, which fixes the duration of a frame,
and a code in its low two, which says how the frames are told apart: one frame, two alike, two with
a length in front, or any number with a byte that counts them. The bit between says how many
channels were encoded, which does not matter for the framing.
-/

namespace VoiceLink

abbrev Packet := List UInt8

namespace Packet

/-! ## Limits -/

/-- The duration in ticks of the frames of each of the 32 configurations. -/
def frameTicks (config : Nat) : Nat :=
  if config < 12 then [4, 8, 16, 24].getD (config % 4) 0
  else if config < 16 then [4, 8].getD (config % 2) 0
  else [1, 2, 4, 8].getD (config % 4) 0

def maxFrameBytes : Nat := 1275

/-- No packet lasts longer than 120 milliseconds. -/
def maxTicks : Nat := 48

/-! ## Fields

Lengths and padding are read off the front of the bytes, and what is left is handed on. A length is
one byte up to 251 and two bytes from there on; padding is a run of 255s, each of which stands for
254 bytes, and a smaller number that closes it. -/

def lengthField : List UInt8 → Option (Nat × List UInt8)
  | [] => none
  | b :: rest =>
    if b.toNat < 252 then some (b.toNat, rest)
    else match rest with
      | [] => none
      | c :: rest => some (4 * c.toNat + b.toNat, rest)

def lengthFields : Nat → List UInt8 → Option (List Nat × List UInt8)
  | 0, bytes => some ([], bytes)
  | n + 1, bytes => do
    let (length, bytes) ← lengthField bytes
    let (lengths, bytes) ← lengthFields n bytes
    return (length :: lengths, bytes)

def paddingField : List UInt8 → Option (Nat × List UInt8)
  | [] => none
  | b :: rest =>
    if b = 255 then do
      let (n, rest) ← paddingField rest
      return (254 + n, rest)
    else some (b.toNat, rest)

/-! ## Frames

The last frame of a packet never has a length of its own: it takes what the others have left, or
where all are alike, its share. -/

/-- Frames of the given lengths, and one more that takes what is left of `total` bytes. -/
def lastTakesRest (lengths : List Nat) (total : Nat) : Option (List Nat) :=
  let taken := lengths.foldr (· + ·) 0
  if taken ≤ total then some (lengths ++ [total - taken]) else none

/-- The frames of a packet that counts them: its flags, the padding, and the lengths where the
frames are not all alike. -/
def countedFrames : List UInt8 → Option (List Nat)
  | [] => none
  | flags :: bytes => do
    let count := flags.toNat % 64
    let varying := 128 ≤ flags.toNat
    let padded := 64 ≤ flags.toNat % 128
    let (padding, bytes) ← if padded then paddingField bytes else some (0, bytes)
    -- padding stands at the very end, behind the frames
    if bytes.length < padding then none
    let bytes := bytes.take (bytes.length - padding)
    -- a packet that counts its frames counts at least one
    if count = 0 then none
    else if varying then
      let (lengths, bytes) ← lengthFields (count - 1) bytes
      lastTakesRest lengths bytes.length
    else if bytes.length % count = 0 then some (List.replicate count (bytes.length / count))
    else none

/-- The lengths of the frames behind the first byte, whose low bits are `code`. -/
def framesOf (code : Nat) (bytes : List UInt8) : Option (List Nat) :=
  match code with
  | 0 => some [bytes.length]
  | 1 => if bytes.length % 2 = 0 then some [bytes.length / 2, bytes.length / 2] else none
  | 2 => do
    let (length, bytes) ← lengthField bytes
    lastTakesRest [length] bytes.length
  | _ => countedFrames bytes

/-- The lengths of the frames in a packet, if its framing is sound: no frame too long, and not more
than 120 milliseconds in all. -/
def frames? : Packet → Option (List Nat)
  | [] => none
  | toc :: bytes =>
    match framesOf (toc.toNat % 4) bytes with
    | none => none
    | some lengths =>
      if lengths.all (· ≤ maxFrameBytes) ∧ lengths.length * frameTicks (toc.toNat / 8) ≤ maxTicks
      then some lengths else none

/-- How long a packet lasts, in ticks, if its framing is sound. -/
def ticks? (p : Packet) : Option Nat :=
  match p with
  | [] => none
  | toc :: _ => p.frames?.map fun lengths => lengths.length * frameTicks (toc.toNat / 8)

end Packet

end VoiceLink
