import VoiceLink.Text.Numeral
import VoiceLink.Text.Printable

/-!
# Quoted text

How messages show a text that may hold anything: between double quotes, with a backslash before
quotes and backslashes, and with characters that would not be seen given by their number. A message
about a single character is stricter than one about a text and shows nothing but ASCII.
-/

namespace VoiceLink.Quoted

/-- The number of a character in an escape of its own. -/
def numbered (c : Char) : List Char :=
  '\\' :: 'u' :: '\x7b' :: Numeral.hexDigits c.toNat ++ ['\x7d']

def escape (c : Char) : List Char :=
  if c = '"' then ['\\', '"']
  else if c = '\\' then ['\\', '\\']
  else if c = '\n' then ['\\', 'n']
  else if c = '\r' then ['\\', 'r']
  else if c = '\t' then ['\\', 't']
  else if c = '\x00' then ['\\', '0']
  else if Printable.isPrintable c then [c]
  else numbered c

def text (s : String) : String := String.ofList ('"' :: s.toList.flatMap escape ++ ['"'])

def single (c : Char) : String :=
  let shown := if c = '\'' then ['\\', '\''] else if c = '"' then ['"'] else escape c
  String.ofList ('\'' :: shown ++ ['\''])

/-- One character as messages about single characters show it: everything outside ASCII by number.
-/
def character (c : Char) : String :=
  String.ofList (
    if c = '"' then ['\\', '"']
    else if c = '\'' then ['\\', '\'']
    else if c = '\\' then ['\\', '\\']
    else if c = '\n' then ['\\', 'n']
    else if c = '\r' then ['\\', 'r']
    else if c = '\t' then ['\\', 't']
    else if 32 ≤ c.toNat ∧ c.toNat < 127 then [c]
    else numbered c)

end VoiceLink.Quoted
