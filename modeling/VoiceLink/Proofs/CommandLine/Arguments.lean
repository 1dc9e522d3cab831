import Mathlib
import VoiceLink.CommandLine.Options
import VoiceLink.Proofs.Basic

/-!
# Writing options as arguments

Arguments are read as one set of options, but the same options have many arguments: they come in any
order, and each can be written in several ways. `OptionName.Writes` lists the ways for one option
and `Options.WrittenAs` those for a whole command line. `Options.parse_written` says that all of
them are read as the options they were written for.

The reader keeps an option pending until it knows what its value is, so its state after an option
depends on how that was written. What it has settled on does not. That is what the induction over
the options is about: every step leads from one settled state to the next.
-/

namespace VoiceLink

/-! ## One option

A value may stand apart from its option only if it does not look like an option itself. In the other
ways it may be any text, but for a letter with the value right behind it, which cannot be empty and
not begin with an equals sign. -/

/-- A text that is no option, so it can be the value of the one in front of it. -/
def IsPlainArgument (a : String) : Prop := ∀ c cs, a.toList ≠ '-' :: c :: cs

namespace OptionName

/-- The ways to write an option with a value. -/
inductive Writes (o : OptionName) : String → List String → Prop
  | alone : o.takesValue = false → Writes o "" ["--" ++ o.word]
  | word {value : String} : o.takesValue → IsPlainArgument value →
      Writes o value ["--" ++ o.word, value]
  | wordEquals {value : String} : o.takesValue → Writes o value ["--" ++ o.word ++ "=" ++ value]
  | letter {value : String} {c : Char} : o.takesValue → o.letter? = some c →
      IsPlainArgument value → Writes o value ["-" ++ String.singleton c, value]
  | letterEquals {value : String} {c : Char} : o.takesValue → o.letter? = some c →
      Writes o value ["-" ++ String.singleton c ++ "=" ++ value]
  | letterJoined {value : String} {c : Char} : o.takesValue → o.letter? = some c → value ≠ "" →
      value.toList.head? ≠ some '=' → Writes o value ["-" ++ String.singleton c ++ value]

theorem find?_word (o : OptionName) : (all.find? fun p => p.word = o.word) = some o := by
  cases o <;> rfl

theorem find?_letter {o : OptionName} {c : Char} (h : o.letter? = some c) :
    (all.find? fun p => p.letter? = some c) = some o := by
  cases o <;> first | (cases h; rfl) | cases h

/-- The name of an option goes on up to the equals sign. -/
theorem ne_equals_of_mem_word (o : OptionName) :
    ∀ c ∈ o.word.toList, decide (c ≠ '=') = true := by
  intro c hc
  rw [decide_eq_true_eq]
  rintro rfl
  revert hc
  cases o <;> decide

end OptionName

namespace ArgumentReader

variable {r : ArgumentReader} {o : OptionName} {value : String}

theorem long_word (r : ArgumentReader) (o : OptionName) :
    r.long o.word.toList = r.meet o none := by
  have name := o.ne_equals_of_mem_word
  rw [long, List.takeWhile_eq_self_iff.2 name, List.dropWhile_eq_nil_iff.2 name,
    String.ofList_toList, o.find?_word]

theorem long_equals (r : ArgumentReader) (o : OptionName) (value : String) :
    r.long (o.word.toList ++ '=' :: value.toList) = r.meet o (some value) := by
  have name := o.ne_equals_of_mem_word
  have taken : (o.word.toList ++ '=' :: value.toList).takeWhile (· ≠ '=') = o.word.toList := by
    rw [List.takeWhile_append_of_pos name, List.takeWhile_cons_of_neg (by simp), List.append_nil]
  have left : (o.word.toList ++ '=' :: value.toList).dropWhile (· ≠ '=') = '=' :: value.toList := by
    rw [List.dropWhile_append_of_pos name, List.dropWhile_cons_of_neg (by simp)]
  rw [long, taken, left, String.ofList_toList, o.find?_word]
  exact congrArg (fun s => r.meet o (some s)) String.ofList_toList

/-! ## One argument

What the reader makes of each way to write an option, up to the call of `meet` that all of them
share. -/

theorem argument_word (r : ArgumentReader) (o : OptionName) :
    r.argument ("--" ++ o.word) = r.meet o none := by
  have chars : ("--" ++ o.word).toList = '-' :: '-' :: o.word.toList := String.toList_append
  simp only [argument, chars]
  exact r.long_word o

theorem argument_equals (r : ArgumentReader) (o : OptionName) (value : String) :
    r.argument ("--" ++ o.word ++ "=" ++ value) = r.meet o (some value) := by
  have chars : ("--" ++ o.word ++ "=" ++ value).toList =
      '-' :: '-' :: (o.word.toList ++ '=' :: value.toList) := by
    rw [String.toList_append, String.toList_append, String.toList_append, List.append_assoc]
    rfl
  simp only [argument, chars]
  exact r.long_equals o value

theorem letter_ne_hyphen {c : Char} (h : o.letter? = some c) : c ≠ '-' := by
  cases o <;> first | (cases h; decide) | cases h

theorem argument_letter {c : Char} (r : ArgumentReader) (h : o.letter? = some c) {a : String}
    {behind : List Char} (chars : a.toList = '-' :: c :: behind) :
    r.argument a = r.short c behind := by
  rw [argument, chars]
  split
  · next long =>
      cases long
      exact absurd rfl (letter_ne_hyphen h)
  · next same =>
      cases same
      rfl
  · next notShort => exact absurd rfl (notShort c behind)
  · next notShort _ => exact absurd rfl (notShort c behind)

theorem argument_letter_alone {c : Char} (r : ArgumentReader) (takes : o.takesValue)
    (h : o.letter? = some c) : r.argument ("-" ++ String.singleton c) = r.meet o none := by
  have chars : ("-" ++ String.singleton c).toList = ['-', c] := by
    rw [String.toList_append, String.toList_singleton]
    rfl
  rw [r.argument_letter h chars]
  simp only [short, OptionName.find?_letter h, takes, if_true]

theorem argument_letter_equals {c : Char} (r : ArgumentReader) (takes : o.takesValue)
    (h : o.letter? = some c) (value : String) :
    r.argument ("-" ++ String.singleton c ++ "=" ++ value) = r.meet o (some value) := by
  have chars : ("-" ++ String.singleton c ++ "=" ++ value).toList =
      '-' :: c :: '=' :: value.toList := by
    rw [String.toList_append, String.toList_append, String.toList_append, String.toList_singleton]
    rfl
  rw [r.argument_letter h chars]
  simp only [short, OptionName.find?_letter h, takes, if_true, String.ofList_toList]

theorem argument_letter_joined {c : Char} (r : ArgumentReader) (takes : o.takesValue)
    (h : o.letter? = some c) (nonempty : value ≠ "") (other : value.toList.head? ≠ some '=') :
    r.argument ("-" ++ String.singleton c ++ value) = r.meet o (some value) := by
  have chars : ("-" ++ String.singleton c ++ value).toList = '-' :: c :: value.toList := by
    rw [String.toList_append, String.toList_append, String.toList_singleton]
    rfl
  rw [r.argument_letter h chars]
  simp only [short, OptionName.find?_letter h, takes, if_true]
  split
  · next none => exact absurd (String.toList_eq_nil_iff.1 none) nonempty
  · next equals => exact absurd (congrArg List.head? equals) other
  · rw [String.ofList_toList]

theorem argument_plain (waiting : r.pending = some (o, none)) (plain : IsPlainArgument value) :
    r.argument value = .ok { r with pending := some (o, some value) } := by
  rw [argument, waiting]
  split
  · next long => exact absurd long (plain _ _)
  · next short => exact absurd short (plain _ _)
  · next same _ _ => cases same; rfl
  · next none => exact absurd rfl (none o)

/-! ## Options one after another

The reader refuses an option that it has met, so the options met so far belong to what it has
settled on. `arguments_writes` is the step. -/

variable {options options' : Options} {met : List OptionName}

theorem take_eq_ok (known : o ≠ .help) (fresh : o ∉ met)
    (set : options.set o value = .ok options') :
    take { options, met } o value = .ok { options := options', met := o :: met } := by
  have mapped : (options.set o value).mapError UsageStop.misuse = .ok options' := by
    rw [set]
    rfl
  simp only [take, if_neg known, if_neg fresh, mapped]
  rfl

/-- An option whose value is attached, or that has none, is taken at once. -/
theorem meet_attached {attached : Option String} (settled : r.settle = .ok { options, met })
    (known : o ≠ .help) (fresh : o ∉ met) (set : options.set o value = .ok options')
    (whole : o.takesValue ∧ attached = some value ∨
      o.takesValue = false ∧ attached = none ∧ value = "") :
    r.meet o attached = .ok { options := options', met := o :: met } := by
  have taken : (r.settle >>= fun s => s.take o value) = _ :=
    bind_eq_ok.2 ⟨_, settled, take_eq_ok known fresh set⟩
  rcases whole with ⟨takes, rfl⟩ | ⟨takesNone, rfl, rfl⟩
  · rw [meet, if_pos takes]
    exact taken
  · rw [meet, if_neg (by simp [takesNone])]
    exact taken

/-- An option whose value is the next argument waits for it. -/
theorem meet_pending (settled : r.settle = .ok { options, met }) (takes : o.takesValue) :
    r.meet o none = .ok { options, met, pending := some (o, none) } := by
  rw [meet, if_pos takes]
  exact bind_eq_ok.2 ⟨_, settled, rfl⟩

theorem argument_hyphens (r : ArgumentReader) :
    r.argument "--" = .error (.misuse (.unexpected "--")) := rfl

theorem arguments_cons {a : String} {r' : ArgumentReader} (h : r.argument a = .ok r')
    (rest : List String) : r.arguments (a :: rest) = r'.arguments rest := by
  -- two hyphens end the options, but no option is written that way
  have other : a ≠ "--" := by
    rintro rfl
    rw [argument_hyphens] at h
    cases h
  rw [arguments, h]
  · rfl
  · exact fun _ _ same => absurd same other
  · exact fun same => absurd same other

/-- An option is taken in whichever way it is written, now or with the next one. -/
theorem arguments_writes {as : List String} (settled : r.settle = .ok { options, met })
    (written : o.Writes value as) (known : o ≠ .help) (fresh : o ∉ met)
    (set : options.set o value = .ok options') :
    ∃ r' : ArgumentReader, r'.settle = .ok { options := options', met := o :: met } ∧
      ∀ rest, r.arguments (as ++ rest) = r'.arguments rest := by
  have now {a : String} {attached : Option String} (h : r.argument a = r.meet o attached)
      (whole : o.takesValue ∧ attached = some value ∨
        o.takesValue = false ∧ attached = none ∧ value = "") :
      ∃ r' : ArgumentReader, r'.settle = .ok { options := options', met := o :: met } ∧
        ∀ rest, r.arguments ([a] ++ rest) = r'.arguments rest :=
    ⟨_, rfl, arguments_cons (h.trans (meet_attached settled known fresh set whole))⟩
  -- what is pending is only taken when the reader settles, so the next reader has not moved on yet
  have later {a : String} (h : r.argument a = r.meet o none) (takes : o.takesValue)
      (plain : IsPlainArgument value) :
      ∃ r' : ArgumentReader, r'.settle = .ok { options := options', met := o :: met } ∧
        ∀ rest, r.arguments ([a, value] ++ rest) = r'.arguments rest := by
    refine ⟨{ options, met, pending := some (o, some value) }, take_eq_ok known fresh set,
      fun rest => ?_⟩
    rw [List.cons_append, arguments_cons (h.trans (meet_pending settled takes))]
    exact arguments_cons (argument_plain rfl plain) rest
  cases written with
  | alone takesNone => exact now (r.argument_word o) (.inr ⟨takesNone, rfl, rfl⟩)
  | word takes plain => exact later (r.argument_word o) takes plain
  | wordEquals takes => exact now (r.argument_equals o value) (.inl ⟨takes, rfl⟩)
  | letter takes has plain => exact later (r.argument_letter_alone takes has) takes plain
  | letterEquals takes has =>
      exact now (r.argument_letter_equals takes has value) (.inl ⟨takes, rfl⟩)
  | letterJoined takes has nonempty other =>
      exact now (r.argument_letter_joined takes has nonempty other) (.inl ⟨takes, rfl⟩)

end ArgumentReader

/-! ## A whole command line

`only` cuts the options down to some of them. The reader has read `only met` when it has met these,
and the order in which it met them does not show. -/

namespace Options

variable {o : Options}

def Has (o : Options) : OptionName → String → Prop
  | .config, value => o.config = some value
  | .server, value => o.server = some value
  | .device, value => o.device = some value
  | .text, value => o.text = value
  | .audio, value => o.audio = some value ∧ value ≠ ""
  | .mode, value => ∃ m, o.mode = some m ∧ value = m.word
  | .outputDir, value => o.outputDir = some value ∧ value ≠ ""
  | .wait, value => ∃ n, o.wait = some n ∧ Numeral.Spells n.toNat value
  | .dumpOpus, value => o.dumpOpus = true ∧ value = ""
  | .help, _ => False

def only (o : Options) (names : List OptionName) : Options where
  config := if .config ∈ names then o.config else none
  server := if .server ∈ names then o.server else none
  device := if .device ∈ names then o.device else none
  text := if .text ∈ names then o.text else ({} : Options).text
  audio := if .audio ∈ names then o.audio else none
  mode := if .mode ∈ names then o.mode else none
  outputDir := if .outputDir ∈ names then o.outputDir else none
  wait := if .wait ∈ names then o.wait else none
  dumpOpus := if .dumpOpus ∈ names then o.dumpOpus else false

/-- Arguments that ask for just these options: each at most once, in any order, and in any of the
ways to write it. -/
def WrittenAs (o : Options) (arguments : List String) : Prop :=
  ∃ given : List (OptionName × String × List String), (given.map (·.1)).Nodup ∧
    (∀ g ∈ given, o.Has g.1 g.2.1 ∧ g.1.Writes g.2.1 g.2.2) ∧ o.only (given.map (·.1)) = o ∧
    arguments = given.flatMap (·.2.2)

/-! ### Values

Numbers have many spellings, all of which are read. The other values are texts and stand for
themselves. -/

theorem foldlM_digits {cs : List Char} (all : ∀ c ∈ cs, c.isDigit = true) (n : Nat)
    (fits : Numeral.ofDigitsFrom n cs < UInt64.size) :
    cs.foldlM (fun n c =>
      if !c.isDigit then .error .digit
      else if UInt64.size ≤ 10 * n + Numeral.digitValue c then .error .tooLarge
      else .ok (10 * n + Numeral.digitValue c)) n =
    (.ok (Numeral.ofDigitsFrom n cs) : Except NumberFault Nat) := by
  induction cs generalizing n with
  | nil => rfl
  | cons c cs ih =>
      have digit := all c List.mem_cons_self
      have small := (Numeral.le_ofDigitsFrom (10 * n + Numeral.digitValue c) cs).trans_lt fits
      rw [List.foldlM_cons, digit, if_neg (by simp), if_neg (Nat.not_le.2 small)]
      exact ih (fun d hd => all d (List.mem_cons_of_mem c hd)) _ fits

theorem number_spells {n : UInt64} {s : String} (h : Numeral.Spells n.toNat s) :
    number s = .ok n := by
  obtain ⟨digits, chars, some, all, value⟩ := h.digits_eq
  have nonempty : s.toList.isEmpty = false := by
    rw [chars, List.isEmpty_eq_false_iff]
    exact List.append_ne_nil_of_right_ne_nil _ some
  have behind : (if s.toList.head? = .some '+' then s.toList.drop 1 else s.toList) = digits := by
    split_ifs at chars ⊢ with plus
    · rw [chars]
      rfl
    · exact chars
  have fits : Numeral.ofDigitsFrom 0 digits < UInt64.size := by
    rw [show Numeral.ofDigitsFrom 0 digits = n.toNat from value]
    exact n.toNat_lt_size
  unfold number
  simp only [nonempty, behind, List.isEmpty_eq_false_iff.2 some]
  refine bind_eq_ok.2 ⟨_, foldlM_digits all 0 fits, ?_⟩
  exact congrArg Except.ok ((congrArg UInt64.ofNat value).trans UInt64.ofNat_toNat)

theorem set_only {n : OptionName} {value : String} (has : o.Has n value)
    (names : List OptionName) : (o.only names).set n value = .ok (o.only (n :: names)) := by
  cases n with
  | config => simp [set, only, show o.config = _ from has]
  | server => simp [set, only, show o.server = _ from has]
  | device => simp [set, only, show o.device = _ from has]
  | text => simp [set, only, show o.text = _ from has]
  | audio => simp [set, only, path, has.1, has.2]
  | mode =>
      obtain ⟨m, hm, rfl⟩ := has
      have found : ListenMode.table.lookup m.word = some m := by cases m <;> rfl
      simp [set, only, found, hm]
  | outputDir => simp [set, only, path, has.1, has.2]
  | wait =>
      obtain ⟨count, hcount, spelled⟩ := has
      simp [set, only, number_spells spelled, hcount]
  | dumpOpus => simp [set, only, has.1]
  | help => exact has.elim

/-! ### Reading -/

theorem only_congr {names names' : List OptionName} (h : ∀ n, n ∈ names ↔ n ∈ names') :
    o.only names = o.only names' := by
  simp only [only, h]

/-- Options given one after another are met in this order, each once. -/
theorem arguments_given {given : List (OptionName × String × List String)} {r : ArgumentReader}
    {met : List OptionName} (settled : r.settle = .ok { options := o.only met, met })
    (each : ∀ g ∈ given, o.Has g.1 g.2.1 ∧ g.1.Writes g.2.1 g.2.2)
    (once : ((given.map (·.1)).reverse ++ met).Nodup) :
    ∃ met', r.arguments (given.flatMap (·.2.2)) =
      .ok { options := o.only ((given.map (·.1)).reverse ++ met), met := met' } := by
  induction given generalizing r met with
  | nil => exact ⟨met, settled⟩
  | cons g given ih =>
      obtain ⟨n, value, as⟩ := g
      -- the option that is met now comes first among those met before
      have order : ((n :: given.map (·.1)).reverse ++ met) =
          (given.map (·.1)).reverse ++ n :: met := by
        rw [List.reverse_cons, List.append_assoc, List.singleton_append]
      rw [List.map_cons, order] at once ⊢
      obtain ⟨has, writes⟩ := each _ List.mem_cons_self
      have known : n ≠ .help := by
        rintro rfl
        exact has
      have fresh : n ∉ met := (List.nodup_cons.1 (List.nodup_append.1 once).2.1).1
      obtain ⟨r', settled', rest⟩ :=
        ArgumentReader.arguments_writes settled writes known fresh (set_only has met)
      rw [List.flatMap_cons, rest]
      exact ih settled' (fun g hg => each g (List.mem_cons_of_mem _ hg)) once

/-- Options are read from any arguments that they are written as. -/
theorem parse_written {arguments : List String} (h : o.WrittenAs arguments) :
    parse arguments = .ok o := by
  obtain ⟨given, once, each, all, rfl⟩ := h
  have start : ArgumentReader.settle {} = .ok { options := o.only [], met := [] } := rfl
  obtain ⟨met, read⟩ := arguments_given start each (by simpa using once)
  refine bind_eq_ok.2 ⟨_, read, congrArg Except.ok ?_⟩
  calc o.only ((given.map (·.1)).reverse ++ [])
      = o.only (given.map (·.1)) := only_congr (by simp)
    _ = o := all

end Options

end VoiceLink
