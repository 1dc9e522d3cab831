import VoiceLink.Text.Numeral

/-!
# Errors of the storage device

The errors that operations on files can end with, each with the number the system gives it and the
words it has for it. A name with a zero byte in it never reaches the system, so that error has no
number.
-/

namespace VoiceLink

/-- Why the system refused an operation on files. -/
inductive OsError where
  | notFound
  | deviceFault
  | busy
  | alreadyExists
  | notDirectory
  | isDirectory
  | invalidArgument
  | noSpace
  | nameTooLong
  /-- A name contains the character that ends names in the system's own tables. -/
  | zeroByte
  deriving DecidableEq, Repr

namespace OsError

/-- The system's number of an error, where it has one. -/
def number? : OsError → Option Nat
  | notFound => some 2
  | deviceFault => some 5
  | busy => some 16
  | alreadyExists => some 17
  | notDirectory => some 20
  | isDirectory => some 21
  | invalidArgument => some 22
  | noSpace => some 28
  | nameTooLong => some 36
  | zeroByte => none

def words : OsError → String
  | notFound => "No such file or directory"
  | deviceFault => "Input/output error"
  | busy => "Device or resource busy"
  | alreadyExists => "File exists"
  | notDirectory => "Not a directory"
  | isDirectory => "Is a directory"
  | invalidArgument => "Invalid argument"
  | noSpace => "No space left on device"
  | nameTooLong => "File name too long"
  | zeroByte => "file name contained an unexpected NUL byte"

def message (e : OsError) : String :=
  match e.number? with
  | some n => e.words ++ " (os error " ++ Numeral.text n ++ ")"
  | none => e.words

end OsError

end VoiceLink
