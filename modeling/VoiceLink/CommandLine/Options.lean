import VoiceLink.Message.Audio
import VoiceLink.Text.Numeral

/-!
# The options of the command line

An option has a name and mostly a letter. Its value is the next argument or is attached: after an
equals sign, or right behind a letter. Options come in any order and each at most once. An option
whose value is the next argument is only examined when the next option is met, so an unknown
argument is complained about first.

What can be asked for is a table by option (`word`, `letter?`, `placeholder?`), from which the
reader and the explanations are made. An `ArgumentReader` goes through the arguments once and
remembers one option whose value may still come.
-/

namespace VoiceLink

/-! ## Options -/

/-- An option. -/
inductive OptionName where
  | config
  | server
  | device
  | text
  | audio
  | mode
  | outputDir
  | wait
  | dumpOpus
  | help
  deriving DecidableEq, Repr

namespace OptionName

/-- All options, in the order in which they are explained. -/
def all : List OptionName :=
  [config, server, device, text, audio, mode, outputDir, wait, dumpOpus, help]

/-- The name behind two hyphens. -/
def word : OptionName → String
  | config => "config"
  | server => "server"
  | device => "device"
  | text => "text"
  | audio => "audio"
  | mode => "mode"
  | outputDir => "output-dir"
  | wait => "wait"
  | dumpOpus => "dump-opus"
  | help => "help"

/-- The letter behind one hyphen. -/
def letter? : OptionName → Option Char
  | config => some 'c'
  | server => some 's'
  | device => some 'd'
  | text => some 't'
  | audio => some 'a'
  | mode => some 'm'
  | outputDir => some 'o'
  | wait => some 'w'
  | dumpOpus => none
  | help => some 'h'

/-- What stands for the value in explanations, if there is one. -/
def placeholder? : OptionName → Option String
  | config => some "CONFIG"
  | server => some "SERVER"
  | device => some "DEVICE"
  | text => some "TEXT"
  | audio => some "AUDIO"
  | mode => some "MODE"
  | outputDir => some "OUTPUT_DIR"
  | wait => some "WAIT"
  | dumpOpus => none
  | help => none

/-- An option as messages show it. -/
def shown (o : OptionName) : String :=
  match o.placeholder? with
  | some placeholder => "--" ++ o.word ++ " <" ++ placeholder ++ ">"
  | none => "--" ++ o.word

def takesValue (o : OptionName) : Bool := o.placeholder?.isSome

end OptionName

/-- What was asked for on the command line. -/
structure Options where
  config : Option String := none
  server : Option String := none
  device : Option String := none
  /-- Sent in place of speech. -/
  text : String := "你好测试"
  /-- A recording to send. -/
  audio : Option String := none
  mode : Option ListenMode := none
  outputDir : Option String := none
  /-- Seconds to wait for the reply. -/
  wait : Option UInt64 := none
  dumpOpus : Bool := false
  deriving DecidableEq, Repr

/-! ## Misuse -/

/-- What is wrong with a number. -/
inductive NumberFault where
  | empty
  | digit
  | tooLarge
  deriving DecidableEq, Repr

def NumberFault.message : NumberFault → String
  | empty => "cannot parse integer from empty string"
  | digit => "invalid digit found in string"
  | tooLarge => "number too large to fit in target type"

/-- What is wrong with a command line. -/
inductive UsageError where
  | unexpected (argument : String)
  /-- A value is attached to an option that has none. -/
  | unexpectedValue (value : String) (option : OptionName)
  | missingValue (option : OptionName)
  | repeated (option : OptionName)
  | invalidValue (value : String) (option : OptionName)
  | invalidNumber (value : String) (option : OptionName) (fault : NumberFault)
  deriving DecidableEq, Repr

namespace UsageError

/-- How a value that an option does not take is quoted. -/
def invalid (value : String) (o : OptionName) : String :=
  "invalid value '" ++ value ++ "' for '" ++ o.shown ++ "'"

def message : UsageError → String
  | unexpected argument => "unexpected argument '" ++ argument ++ "' found"
  | unexpectedValue value o =>
    "unexpected value '" ++ value ++ "' for '" ++ o.shown ++ "' found; no more were expected"
  | missingValue o => "a value is required for '" ++ o.shown ++ "' but none was supplied"
  | repeated o => "the argument '" ++ o.shown ++ "' cannot be used multiple times"
  | invalidValue value o => invalid value o
  | invalidNumber value o fault => invalid value o ++ ": " ++ fault.message

end UsageError

/-- Why a command line gives no options. -/
inductive UsageStop where
  /-- An explanation was asked for. -/
  | help
  | misuse (error : UsageError)
  deriving DecidableEq, Repr

/-! ## Values -/

namespace Options

/-- A number of 64 bits, read digit by digit. -/
def number (value : String) : Except NumberFault UInt64 := do
  let cs := value.toList
  if cs.isEmpty then throw .empty
  let digits := if cs.head? = some '+' then cs.drop 1 else cs
  if digits.isEmpty then throw .digit
  let step (n : Nat) (c : Char) : Except NumberFault Nat :=
    if !c.isDigit then .error .digit
    else if UInt64.size ≤ 10 * n + Numeral.digitValue c then .error .tooLarge
    else .ok (10 * n + Numeral.digitValue c)
  return UInt64.ofNat (← digits.foldlM step 0)

/-- A path, which may not be empty. -/
def path (o : OptionName) (value : String) : Except UsageError String :=
  if value.isEmpty then .error (.missingValue o) else .ok value

def set (options : Options) (o : OptionName) (value : String) : Except UsageError Options :=
  match o with
  | .config => .ok { options with config := some value }
  | .server => .ok { options with server := some value }
  | .device => .ok { options with device := some value }
  | .text => .ok { options with text := value }
  | .audio => do return { options with audio := some (← path o value) }
  | .outputDir => do return { options with outputDir := some (← path o value) }
  | .mode =>
    match ListenMode.table.lookup value with
    | some mode => .ok { options with mode := some mode }
    | none => .error (if value.isEmpty then .missingValue o else .invalidValue value o)
  | .wait =>
    match number value with
    | .ok n => .ok { options with wait := some n }
    | .error fault => .error (.invalidNumber value o fault)
  | .dumpOpus => .ok { options with dumpOpus := true }
  | .help => .ok options

end Options

/-! ## Arguments -/

/-- A command line that has been read in part. -/
structure ArgumentReader where
  options : Options := {}
  /-- The options met so far. -/
  met : List OptionName := []
  /-- The last option, while its value is not attached, with that value once it has come. -/
  pending : Option (OptionName × Option String) := none

namespace ArgumentReader

/-- Take an option with its value. -/
def take (r : ArgumentReader) (o : OptionName) (value : String) :
    Except UsageStop ArgumentReader := do
  -- an explanation is given at once, whatever else is wrong further on
  if o = .help then throw .help
  if o ∈ r.met then throw (.misuse (.repeated o))
  let options ← (r.options.set o value).mapError .misuse
  return { r with options, met := o :: r.met }

/-- Take the option that is pending. -/
def settle (r : ArgumentReader) : Except UsageStop ArgumentReader :=
  match r.pending with
  | none => .ok r
  | some (o, none) => .error (.misuse (.missingValue o))
  | some (o, some value) => take { r with pending := none } o value

/-- Meet an option, with the value that is attached to it. -/
def meet (r : ArgumentReader) (o : OptionName) (attached : Option String) :
    Except UsageStop ArgumentReader :=
  if o.takesValue then
    match attached with
    | some value => do (← r.settle).take o value
    | none => do return { (← r.settle) with pending := some (o, none) }
  else
    match attached with
    | some value => .error (.misuse (.unexpectedValue value o))
    | none => do (← r.settle).take o ""

/-- An option given by its name, perhaps with a value behind an equals sign. -/
def long (r : ArgumentReader) (cs : List Char) : Except UsageStop ArgumentReader :=
  let name := String.ofList (cs.takeWhile (· ≠ '='))
  let attached := match cs.dropWhile (· ≠ '=') with
    | _ :: value => some (String.ofList value)
    | [] => none
  match OptionName.all.find? fun o => o.word = name with
  | some o => r.meet o attached
  | none => .error (.misuse (.unexpected ("--" ++ name)))

/-- An option given by its letter, perhaps with a value right behind it. -/
def short (r : ArgumentReader) (letter : Char) (behind : List Char) :
    Except UsageStop ArgumentReader :=
  match OptionName.all.find? fun o => o.letter? = some letter with
  | none => .error (.misuse (.unexpected ("-" ++ String.singleton letter)))
  | some o =>
    let attached := match behind with
      | [] => none
      | '=' :: value => some (String.ofList value)
      | value => some (String.ofList value)
    -- behind a letter that has no value nothing is looked at
    r.meet o (if o.takesValue then attached else none)

/-- One argument. What is no option is the value of the one before, or has no place. -/
def argument (r : ArgumentReader) (a : String) : Except UsageStop ArgumentReader :=
  match a.toList, r.pending with
  | '-' :: '-' :: cs, _ => r.long cs
  | '-' :: c :: cs, _ => r.short c cs
  | _, some (o, none) => .ok { r with pending := some (o, some a) }
  | _, _ => .error (.misuse (.unexpected a))

/-- The arguments of a command line. Behind two hyphens alone nothing is an option. -/
def arguments (r : ArgumentReader) : List String → Except UsageStop ArgumentReader
  | [] => r.settle
  -- a program without arguments of its own has no place for it
  | "--" :: a :: _ => .error (.misuse (.unexpected a))
  | "--" :: [] => r.settle
  | a :: rest => do arguments (← r.argument a) rest

end ArgumentReader

/-- Read the arguments of a command line. -/
def Options.parse (arguments : List String) : Except UsageStop Options := do
  return (← ArgumentReader.arguments {} arguments).options

/-! ### Explanations -/

/-- What an option is for. -/
def OptionName.explanation : OptionName → String
  | config => "Configuration file (TOML); defaults apply when omitted"
  | server => "Server WebSocket URL"
  | device => "Device ID"
  | text => "Text sent with \x60listen detect\x60 [default: " ++ ({} : Options).text ++ "]"
  | audio => "WAV file to stream upstream instead of sending text"
  | mode =>
    "Listen mode used when streaming audio [possible values: "
      ++ ", ".intercalate (ListenMode.table.map Prod.fst) ++ "]"
  | outputDir => "Directory for the received WAV files"
  | wait => "Seconds to wait for the reply"
  | dumpOpus => "Also save the raw Opus frames of each reply"
  | help => "Print help"

namespace Options

/-- An option with its letter. -/
def title (o : OptionName) : String :=
  let letter := match o.letter? with
    | some c => "-" ++ String.singleton c ++ ", "
    | none => "    "
  "  " ++ letter ++ o.shown

/-- How the program is started. -/
def usage : String := "Usage: voice-session-client [OPTIONS]\n"

/-- What the program does and all its options. -/
def help : String :=
  let titles := OptionName.all.map title
  let width := (titles.map String.length).foldl max 0 + 2
  let line (o : OptionName) : String :=
    let t := title o
    t ++ String.ofList (List.replicate (width - t.length) ' ') ++ o.explanation ++ "\n"
  "Drive one voice-assistant turn over WebSocket and save the reply as WAV\n\n" ++ usage
    ++ "\nOptions:\n" ++ String.join (OptionName.all.map line)

/-- An error with what helps to avoid it. -/
def complaint (e : UsageError) : String :=
  let hint := match e with
    | .invalidValue _ .mode | .missingValue .mode =>
      "\n  [possible values: " ++ ", ".intercalate (ListenMode.table.map Prod.fst) ++ "]\n"
    | .invalidValue _ _ | .invalidNumber _ _ _ | .missingValue _ => "\n"
    | .unexpected _ | .unexpectedValue _ _ | .repeated _ => "\n\n" ++ usage
  "error: " ++ e.message ++ hint ++ "\nFor more information, try '--help'.\n"

end Options

end VoiceLink
