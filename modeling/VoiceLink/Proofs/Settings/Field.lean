import Mathlib
import VoiceLink.Proofs.Basic
import VoiceLink.Settings.Client

/-!
# The fields of the settings

There are fifteen fields in three sections, and eight kinds of them. A kind says what its fields
hold, how a value is written in a file (`Written`), how it is spelled in a text (`Spelled`), and how
it is read again. Reading undoes both ways of writing: `reads_written` and `reads_spelled`.

All that the later modules need of a field is its kind, its section and its name. A field is added
by adding a row to each of the tables; no proof goes through the fields one by one, unless to say
that their names differ.
-/

namespace VoiceLink

/-! ## Kinds

A file has values of its own for numbers and truth values, and a variable has texts only. `Written`
and `Spelled` are relations, as most values can be written in more ways than one. -/

/-- What sort of value a field holds. -/
inductive FieldKind where
  | text
  | identifier
  | optionalText
  | word16
  | word32
  | word64
  | truth
  | mode
  deriving DecidableEq, Repr

namespace FieldKind

def Value : FieldKind → Type
  | text => String
  | identifier => ClientId
  | optionalText => Option String
  | word16 => UInt16
  | word32 => UInt32
  | word64 => UInt64
  | truth => Bool
  | mode => ListenMode

def conversion : (k : FieldKind) → Conversion k.Value
  | text => Setting.toText
  | identifier => fun v => return .given (← v.toText)
  | optionalText => Setting.toOption Setting.toText
  | word16 => Setting.toUInt16
  | word32 => Setting.toUInt32
  | word64 => Setting.toUInt64
  | truth => Setting.toBool
  | mode => Setting.toListenMode

/-- What a file has to hold for a value. There is nothing to write for an identifier that is yet to
be drawn, and for a text that is not there. -/
def Written : (k : FieldKind) → k.Value → Datum → Prop
  | text, v, d => d = .text v
  | identifier, v, d => ∃ s, v = .given s ∧ d = .text s
  | optionalText, v, d => ∃ s, v = some s ∧ d = .text s
  | word16, v, d => d = .integer (UInt16.toNat v)
  | word32, v, d => d = .integer (UInt32.toNat v)
  | word64, v, d => d = .integer (UInt64.toNat v)
  | truth, v, d => d = .boolean v
  | mode, v, d => d = .text (ListenMode.word v)

def truthWords : Bool → List String
  | true => ["1", "true", "on", "yes"]
  | false => ["0", "false", "off", "no"]

/-- The texts that stand for a value. -/
def Spelled : (k : FieldKind) → k.Value → String → Prop
  | text, v, s => s = v
  | identifier, v, s => v = .given s
  | optionalText, v, s => v = some s
  | word16, v, s => Numeral.Spells (UInt16.toNat v) s
  | word32, v, s => Numeral.Spells (UInt32.toNat v) s
  | word64, v, s => Numeral.Spells (UInt64.toNat v) s
  | truth, v, s => LowerCase.text s ∈ truthWords v
  | mode, v, s => s = ListenMode.word v

end FieldKind

/-! ## Reading what was written

The conversions try one form after another. What is shown is that the forms of one kind do not get
in each other's way: no numeral is a word for a truth value, and none is changed by writing it in
lower case. -/

namespace Setting

variable {s : String}

/-- There is no case in digits and signs. -/
theorem lowerCase_of_spells {n : Nat} (h : Numeral.Spells n s) : LowerCase.text s = s := by
  obtain ⟨sign, digits, hsign, hs, -, all, -⟩ := h
  have same : ∀ c ∈ s.toList, LowerCase.chars c = [c] := by
    intro c hc
    rw [hs, List.mem_append] at hc
    rcases hc with inSign | inDigits
    · rcases hsign with rfl | rfl
      · cases inSign
      · rw [List.mem_singleton.1 inSign]
        rfl
    · have digit := all c inDigits
      rw [Char.isDigit, Bool.and_eq_true, decide_eq_true_eq, decide_eq_true_eq] at digit
      have low : c.toNat ≤ 57 := digit.2
      have noCapital : ¬('A' ≤ c ∧ c ≤ 'Z') := by
        rintro ⟨capital, -⟩
        have : 65 ≤ c.toNat := capital
        omega
      rw [LowerCase.chars, if_neg noCapital, if_pos (by omega)]
  rw [LowerCase.text, List.flatMap_congr same]
  simp

/-- The words that count as numbers are not made of digits. -/
theorem not_mem_words_of_spells {n : Nat} (h : Numeral.Spells n s) :
    s ∉ yesWords ++ noWords := by
  obtain ⟨sign, digits, hsign, hs, -, all, -⟩ := h
  have numeric : ∀ c ∈ s.toList, c = '+' ∨ c.isDigit = true := by
    intro c hc
    rw [hs, List.mem_append] at hc
    rcases hc with inSign | inDigits
    · rcases hsign with rfl | rfl
      · cases inSign
      · exact .inl (List.mem_singleton.1 inSign)
    · exact .inr (all c inDigits)
  have words : ∀ w ∈ yesWords ++ noWords, ¬ ∀ c ∈ w.toList, c = '+' ∨ c.isDigit = true := by
    simp [yesWords, noWords]
  exact fun word => words s word numeric

/-- A whole number that is not negative is read as it is. -/
theorem toUInt64_of_integer (o : Option Origin) (n : Nat) :
    toUInt64 (.scalar o (.integer n)) = .ok (.ofNat n) := by
  simp [toUInt64]

theorem wordOfText?_of_spells {n : Nat} (h : Numeral.Spells n s) (fits : n < UInt64.size) :
    wordOfText? s = some (.ofNat n) := by
  obtain ⟨sign, digits, hsign, hs, some, all, value⟩ := h
  have whole : ¬(digits.isEmpty = true ∨ ¬digits.all Char.isDigit = true) := by
    simpa [some] using all
  have read : (if Numeral.ofDigits digits < UInt64.size then
      Option.some (UInt64.ofNat (Numeral.ofDigits digits)) else none) = UInt64.ofNat n := by
    rw [value, if_pos fits]
  rcases hsign with rfl | rfl
  · cases digits with
    | nil => exact absurd rfl some
    | cons c more =>
        have other : c ≠ '+' := by
          rintro rfl
          exact absurd (all '+' List.mem_cons_self) (by decide)
        rw [List.nil_append] at hs
        unfold wordOfText?
        simp only [hs, List.cons.injEq, other, false_and, imp_false, not_false_eq_true,
          implies_true]
        rw [if_neg whole, read]
  · unfold wordOfText?
    simp only [hs, List.singleton_append]
    rw [if_neg whole, read]

theorem toUInt64_of_spells (o : Option Origin) {n : Nat} (h : Numeral.Spells n s)
    (fits : n < UInt64.size) : toUInt64 (.scalar o (.text s)) = .ok (.ofNat n) := by
  obtain ⟨noYes, noNo⟩ := not_or.1 (mt List.mem_append.2 (not_mem_words_of_spells h))
  unfold toUInt64
  simp only [lowerCase_of_spells h, if_neg noYes, if_neg noNo, wordOfText?_of_spells h fits]

/-- A number that fits 32 bits is not cut. -/
theorem toUInt32_of_toUInt64 {v : Setting} {n : UInt32} (h : v.toUInt64 = .ok (.ofNat n.toNat)) :
    v.toUInt32 = .ok n := by
  rw [toUInt32, h]
  exact congrArg Except.ok (by simp)

/-- A number that fits 16 bits is not cut. -/
theorem toUInt16_of_toUInt64 {v : Setting} {n : UInt16} (h : v.toUInt64 = .ok (.ofNat n.toNat)) :
    v.toUInt16 = .ok n := by
  rw [toUInt16, h]
  exact congrArg Except.ok (by simp)

theorem toBool_of_word (o : Option Origin) {b : Bool}
    (h : LowerCase.text s ∈ FieldKind.truthWords b) : toBool (.scalar o (.text s)) = .ok b := by
  have apart : ∀ word ∈ FieldKind.truthWords false, word ∉ FieldKind.truthWords true := by decide
  unfold toBool
  cases b with
  | true => exact if_pos (List.mem_cons.1 h)
  | false =>
      have noYes := mt List.mem_cons.2 (apart _ h)
      exact (if_neg noYes).trans (if_pos (List.mem_cons.1 h))

theorem toListenMode_of_word (o : Option Origin) (m : ListenMode) :
    toListenMode (.scalar o (.text m.word)) = .ok m := by
  cases m <;> rfl

end Setting

namespace FieldKind

/-- What a file holds for a value is no table, and is read as the value. -/
theorem reads_written {k : FieldKind} {v : k.Value} {d : Datum} (h : k.Written v d) (o : Origin) :
    ∃ x, d = .scalar x ∧ k.conversion (d.comingFrom o) = .ok v := by
  cases k with
  | text =>
      obtain rfl : d = _ := h
      exact ⟨_, rfl, rfl⟩
  | identifier =>
      obtain ⟨s, rfl, rfl⟩ := h
      exact ⟨_, rfl, rfl⟩
  | optionalText =>
      obtain ⟨s, rfl, rfl⟩ := h
      exact ⟨_, rfl, rfl⟩
  | word16 =>
      obtain rfl : d = _ := h
      exact ⟨_, rfl, Setting.toUInt16_of_toUInt64 (Setting.toUInt64_of_integer _ _)⟩
  | word32 =>
      obtain rfl : d = _ := h
      exact ⟨_, rfl, Setting.toUInt32_of_toUInt64 (Setting.toUInt64_of_integer _ _)⟩
  | word64 =>
      obtain rfl : d = _ := h
      have read := Setting.toUInt64_of_integer (some o) (UInt64.toNat v)
      exact ⟨_, rfl, read.trans (congrArg Except.ok UInt64.ofNat_toNat)⟩
  | truth =>
      obtain rfl : d = _ := h
      exact ⟨_, rfl, rfl⟩
  | mode =>
      obtain rfl : d = _ := h
      exact ⟨_, rfl, Setting.toListenMode_of_word o v⟩

/-- What a text spells is read from it. -/
theorem reads_spelled {k : FieldKind} {v : k.Value} {s : String} (h : k.Spelled v s)
    (o : Option Origin) : k.conversion (.scalar o (.text s)) = .ok v := by
  cases k with
  | text =>
      obtain rfl : s = _ := h
      rfl
  | identifier =>
      obtain rfl : v = _ := h
      rfl
  | optionalText =>
      obtain rfl : v = _ := h
      rfl
  | word16 =>
      have fits := (UInt16.toNat_lt v).trans (by decide : 2 ^ 16 < UInt64.size)
      exact Setting.toUInt16_of_toUInt64 (Setting.toUInt64_of_spells o h fits)
  | word32 =>
      have fits := (UInt32.toNat_lt v).trans (by decide : 2 ^ 32 < UInt64.size)
      exact Setting.toUInt32_of_toUInt64 (Setting.toUInt64_of_spells o h fits)
  | word64 =>
      have read := Setting.toUInt64_of_spells o h (UInt64.toNat_lt_size v)
      exact read.trans (congrArg Except.ok UInt64.ofNat_toNat)
  | truth => exact Setting.toBool_of_word o h
  | mode =>
      obtain rfl : s = _ := h
      exact Setting.toListenMode_of_word o v

end FieldKind

/-! ## Fields

A field is known by two names at once, that of its section and its own. Joined by a point they are a
key, which is how the environment speaks of it; a file has them in two tables, one in the other. -/

/-- The fields of the settings. -/
inductive SettingsField where
  | url
  | deviceId
  | clientId
  | token
  | sampleRate
  | channels
  | frameDuration
  | outputSampleRate
  | outputChannels
  | outputDir
  | dumpRawOpus
  | listenMode
  | idleTimeout
  | helloSettle
  | responseTimeout
  deriving DecidableEq, Repr

namespace SettingsField

def kind : SettingsField → FieldKind
  | url | deviceId | outputDir => .text
  | clientId => .identifier
  | token => .optionalText
  | channels | outputChannels => .word16
  | sampleRate | frameDuration | outputSampleRate => .word32
  | idleTimeout | helloSettle | responseTimeout => .word64
  | dumpRawOpus => .truth
  | listenMode => .mode

/-- What a field holds. -/
abbrev Value (f : SettingsField) : Type := f.kind.Value

def sectionName : SettingsField → String
  | url | deviceId | clientId | token => "server"
  | sampleRate | channels | frameDuration | outputSampleRate | outputChannels | outputDir
  | dumpRawOpus | listenMode => "audio"
  | idleTimeout | helloSettle | responseTimeout => "session"

/-- The name of a field in its section. -/
def name : SettingsField → String
  | url => "url"
  | deviceId => "device_id"
  | clientId => "client_id"
  | token => "token"
  | sampleRate => "sample_rate"
  | channels => "channels"
  | frameDuration => "frame_duration_ms"
  | outputSampleRate => "output_sample_rate"
  | outputChannels => "output_channels"
  | outputDir => "output_dir"
  | dumpRawOpus => "dump_raw_opus"
  | listenMode => "listen_mode"
  | idleTimeout => "idle_timeout_secs"
  | helloSettle => "hello_settle_ms"
  | responseTimeout => "response_timeout_secs"

/-- A name belongs to one field only, even across sections. -/
theorem name_injective : Function.Injective name := by
  intro f g h
  cases f <;> cases g <;> first | rfl | exact absurd h (by decide)

/-- Where a field is in a tree: its section and its name, joined by a point. -/
def key (f : SettingsField) : String := f.sectionName ++ "." ++ f.name

theorem ofText_sectionName (f : SettingsField) :
    SettingKey.ofText f.sectionName = { root := f.sectionName, steps := [] } := by
  cases f <;> rfl

theorem ofText_key (f : SettingsField) :
    SettingKey.ofText f.key = { root := f.sectionName, steps := [.member f.name] } := by
  cases f <;> rfl

theorem key_injective : Function.Injective key := by
  intro f g h
  have parsed := congrArg SettingKey.ofText h
  rw [ofText_key, ofText_key] at parsed
  exact name_injective (by simpa using congrArg SettingKey.steps parsed)

end SettingsField

/-- Values for some of the fields. -/
abbrev SettingsAssignment := (f : SettingsField) → Option f.Value

namespace ClientSettings

def get (c : ClientSettings) : (f : SettingsField) → f.Value
  | .url => c.server.url
  | .deviceId => c.server.deviceId
  | .clientId => c.server.clientId
  | .token => c.server.token
  | .sampleRate => c.audio.sampleRate
  | .channels => c.audio.channels
  | .frameDuration => c.audio.frameDuration
  | .outputSampleRate => c.audio.outputSampleRate
  | .outputChannels => c.audio.outputChannels
  | .outputDir => c.audio.outputDir
  | .dumpRawOpus => c.audio.dumpRawOpus
  | .listenMode => c.audio.listenMode
  | .idleTimeout => c.timing.idleTimeout
  | .helloSettle => c.timing.helloSettle
  | .responseTimeout => c.timing.responseTimeout

def ofFields (x : (f : SettingsField) → f.Value) : ClientSettings where
  server :=
    { url := x .url, deviceId := x .deviceId, clientId := x .clientId, token := x .token }
  audio :=
    { sampleRate := x .sampleRate, channels := x .channels, frameDuration := x .frameDuration
      outputSampleRate := x .outputSampleRate, outputChannels := x .outputChannels
      outputDir := x .outputDir, dumpRawOpus := x .dumpRawOpus, listenMode := x .listenMode }
  timing :=
    { idleTimeout := x .idleTimeout, helloSettle := x .helloSettle
      responseTimeout := x .responseTimeout }

@[simp]
theorem get_ofFields (x : (f : SettingsField) → f.Value) (f : SettingsField) :
    (ofFields x).get f = x f := by
  cases f <;> rfl

end ClientSettings

end VoiceLink
