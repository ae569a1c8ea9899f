import Bindings.Config.Settings
import Bindings.Proofs.Text.Division
import Bindings.Proofs.Threading

/-! Which of its sources a setting is taken from, and what is wrong with settings.

Arguments come before the file and the file before defaults, and what is not taken is not looked at:
a file may hold whatever it likes where the arguments have the say.
-/

set_option autoImplicit false

namespace Bindings

namespace Log.Level

def nameIn (raw : String) : String := .ofList (Unicode.asciiLowercase (Unicode.trim raw.toList))

def names : List String := ["trace", "debug", "info", "warn", "warning", "error", "off"]

theorem isSome_ofName?_iff {name : String} : (ofName? name).isSome ↔ name ∈ names := by
  constructor
  · intro known
    by_contra other
    simp only [names, List.mem_cons, List.not_mem_nil, or_false, not_or] at other
    obtain ⟨trace, debug, info, warn, warning, error, off⟩ := other
    rw [ofName?] at known
    · cases known
    all_goals assumption
  · intro member
    simp only [names, List.mem_cons, List.not_mem_nil, or_false] at member
    rcases member with rfl | rfl | rfl | rfl | rfl | rfl | rfl <;> rfl

theorem ofText_eq_ok_iff {raw : String} {level : Log.Level} :
    ofText raw = .ok level ↔ ofName? (nameIn raw) = some level := by
  rw [ofText, ← nameIn]
  cases ofName? (nameIn raw) <;> simp

theorem ofText_eq_error_iff {raw : String} {cause : Error} :
    ofText raw = .error cause ↔ nameIn raw ∉ names ∧ cause = .unknownLevel (nameIn raw) := by
  rw [ofText, ← nameIn, ← isSome_ofName?_iff]
  cases ofName? (nameIn raw) <;> simp [eq_comm]

end Log.Level

namespace Settings

open Log (Level)
open Text (Divides divides_fields flatten_fields)
open Unicode (isBlank)

/-- The value of a setting: that of the arguments if it is given, else what the file is read as, else
the default. -/
inductive Chosen {α β : Type} (given : Option α) (file : Option β) (Reads : β → α → Prop)
    (fallback : α) : α → Prop where
  | given {value : α} : given = some value → Chosen given file Reads fallback value
  | file {raw : β} {value : α} : given = none → file = some raw → Reads raw value →
      Chosen given file Reads fallback value
  | fallback : given = none → file = none → Chosen given file Reads fallback fallback

inductive Unless {α : Type} (off : Bool) (Value : α → Prop) : Option α → Prop where
  | off : off = true → Unless off Value none
  | on {value : α} : off = false → Value value → Unless off Value (some value)

/-- The words of a command, of which there is at least one, with white space between them. -/
structure Splits (command : String) (words : List String) : Prop where
  given : words ≠ []
  divides : Divides isBlank (fun _ _ _ => False) command.toList (words.map String.toList)

def verifyCommandOf (file : ConfigFile) : String := file.verifyCommand.getD defaultVerifyCommand

structure Merges (args : Arguments) (file : ConfigFile) (settings : Settings) : Prop where
  dest : args.dest = some settings.dest ∨ args.dest = none ∧ file.dest = some settings.dest
  importRoot : Chosen args.importRoot file.importRoot Eq defaultImportRoot settings.importRoot
  browserProtocol : Chosen args.browserProtocol file.browserProtocol Eq defaultBrowserProtocol
    settings.browserProtocol
  jsProtocol : Chosen args.jsProtocol file.jsProtocol Eq defaultJsProtocol settings.jsProtocol
  formatter : Unless args.noFormat (Chosen none file.formatter Eq defaultFormatter)
    settings.formatter
  verifyCommand : Unless args.noVerify (Splits (verifyCommandOf file)) settings.verifyCommand
  logLevel : Chosen args.logLevel file.logLevel
    (fun raw level => Level.ofName? (Level.nameIn raw) = some level) .info settings.logLevel

/-- What is wrong with arguments and a file, whatever else may be. -/
inductive Faults (args : Arguments) (file : ConfigFile) : SettingsError → Prop where
  | noDestination : args.dest = none → file.dest = none → Faults args file .noDestination
  | invalidLevel {raw : String} : args.logLevel = none → file.logLevel = some raw →
      Level.nameIn raw ∉ Level.names →
        Faults args file (.invalidLevel (.unknownLevel (Level.nameIn raw)))
  | emptyVerifyCommand : args.noVerify = false →
      (∀ c ∈ (verifyCommandOf file).toList, isBlank c = true) →
        Faults args file .emptyVerifyCommand

/-- The place of an error in the order in which errors are reported. -/
def rank : SettingsError → Nat
  | .noDestination => 0
  | .invalidLevel _ => 1
  | .emptyVerifyCommand => 2

section Values
variable {α β : Type} {file : Option β} {Reads : β → α → Prop} {fallback value other : α} {raw : β}
  {Value : α → Prop} {chosen : Option α}

@[simp] theorem chosen_given :
    Chosen (some other) file Reads fallback value ↔ value = other := by
  constructor
  · rintro (⟨⟨⟩⟩ | ⟨⟨⟩, -, -⟩ | ⟨⟨⟩, -⟩)
    rfl
  · rintro rfl
    exact .given rfl

@[simp] theorem chosen_file : Chosen none (some raw) Reads fallback value ↔ Reads raw value := by
  constructor
  · rintro (⟨⟨⟩⟩ | ⟨-, ⟨⟩, reads⟩ | ⟨-, ⟨⟩⟩)
    exact reads
  · exact .file rfl rfl

@[simp] theorem chosen_fallback :
    Chosen none (none : Option β) Reads fallback value ↔ value = fallback := by
  constructor
  · rintro (⟨⟨⟩⟩ | ⟨-, ⟨⟩, -⟩ | -)
    rfl
  · rintro rfl
    exact .fallback rfl rfl

theorem chosen_eq_iff {given file : Option α} :
    Chosen given file Eq fallback value ↔ value = (given.or file).getD fallback := by
  cases given with
  | some other => simp
  | none => cases file <;> simp [eq_comm]

@[simp] theorem unless_off : Unless true Value chosen ↔ chosen = none := by
  constructor
  · rintro (- | ⟨⟨⟩, -⟩)
    rfl
  · rintro rfl
    exact .off rfl

@[simp] theorem unless_on :
    Unless false Value chosen ↔ ∃ value, chosen = some value ∧ Value value := by
  constructor
  · rintro (⟨⟨⟩⟩ | ⟨-, holds⟩)
    exact ⟨_, rfl, holds⟩
  · rintro ⟨value, rfl, holds⟩
    exact .on rfl holds

end Values

section Command
variable {command : String} {words : List String}

theorem divides_commandWords (command : String) :
    Divides isBlank (fun _ _ _ => False) command.toList
      ((commandWords command).map String.toList) := by
  -- The words are the runs between white space, and no two neighbours of one run are parted.
  have same : (commandWords command).map String.toList = Text.fields isBlank command.toList := by
    simp [commandWords, Function.comp_def]
  exact same ▸ divides_fields isBlank command.toList

theorem splits_iff : Splits command words ↔ words ≠ [] ∧ words = commandWords command := by
  constructor
  · intro splits
    have same := splits.divides.unique (divides_commandWords command)
    exact ⟨splits.given, List.map_injective_iff.2 (fun _ _ => String.toList_inj.1) same⟩
  · rintro ⟨given, rfl⟩
    exact ⟨given, divides_commandWords command⟩

/-- A command has no words if it is blank. -/
theorem commandWords_eq_nil_iff :
    commandWords command = [] ↔ ∀ c ∈ command.toList, isBlank c = true := by
  have whole := (divides_commandWords command).whole
  have given := (divides_commandWords command).given
  constructor
  · intro none_
    rw [none_, List.map_nil, List.flatten_nil] at whole
    simpa using List.filter_eq_nil_iff.1 whole.symm
  · intro blank
    have nothing : Text.kept isBlank command.toList = [] :=
      List.filter_eq_nil_iff.2 fun c member => by simp [blank c member]
    rw [nothing, List.flatten_eq_nil_iff] at whole
    refine List.eq_nil_iff_forall_not_mem.2 fun word member => ?_
    have listed := List.mem_map_of_mem (f := String.toList) member
    exact given _ listed (whole _ listed)

end Command

section Parts
variable {args : Arguments} {file : ConfigFile} {error : SettingsError}

theorem resolveLevel_eq_ok_iff {level : Level} :
    resolveLevel args file = .ok level ↔ Chosen args.logLevel file.logLevel
      (fun raw level => Level.ofName? (Level.nameIn raw) = some level) .info level := by
  rw [resolveLevel]
  cases args.logLevel with
  | some given => simp [eq_comm]
  | none =>
    cases file.logLevel with
    | none => simp [eq_comm]
    | some raw =>
      have read : (Level.ofText raw).mapError SettingsError.invalidLevel = .ok level ↔
          Level.ofText raw = .ok level := by
        cases Level.ofText raw <;> simp [Except.mapError]
      rw [chosen_file, ← Level.ofText_eq_ok_iff, ← read]

theorem resolveLevel_eq_error_iff : resolveLevel args file = .error error ↔
    ∃ raw, args.logLevel = none ∧ file.logLevel = some raw ∧ Level.nameIn raw ∉ Level.names ∧
      error = .invalidLevel (.unknownLevel (Level.nameIn raw)) := by
  rw [resolveLevel]
  cases args.logLevel with
  | some given => simp
  | none =>
    cases file.logLevel with
    | none => simp
    | some raw =>
      have read : (Level.ofText raw).mapError .invalidLevel = .error error ↔
          ∃ cause, Level.ofText raw = .error cause ∧ error = .invalidLevel cause := by
        cases Level.ofText raw <;> simp [Except.mapError, eq_comm]
      simp [read, Level.ofText_eq_error_iff]

theorem resolveVerifyCommand_eq_ok_iff {chosen : Option (List String)} :
    resolveVerifyCommand args file = .ok chosen ↔
      Unless args.noVerify (Splits (verifyCommandOf file)) chosen := by
  rw [resolveVerifyCommand, ← verifyCommandOf]
  cases args.noVerify with
  | true => simp [eq_comm]
  | false =>
    rw [unless_on]
    simp only [splits_iff]
    cases commandWords (verifyCommandOf file) <;> simp [eq_comm]

theorem resolveVerifyCommand_eq_error_iff : resolveVerifyCommand args file = .error error ↔
    args.noVerify = false ∧ (∀ c ∈ (verifyCommandOf file).toList, isBlank c = true) ∧
      error = .emptyVerifyCommand := by
  rw [resolveVerifyCommand, ← verifyCommandOf, ← commandWords_eq_nil_iff]
  cases args.noVerify with
  | true => simp
  | false => cases commandWords (verifyCommandOf file) <;> simp [eq_comm]

end Parts

section Resolution
variable {args : Arguments} {file : ConfigFile} {settings : Settings} {error other : SettingsError}

theorem resolve_eq_ok_iff : resolve args file = .ok settings ↔ Merges args file settings := by
  constructor
  · intro resolved
    rw [resolve] at resolved
    split at resolved
    · cases resolved
    · next dest found =>
      obtain ⟨level, readLevel, resolved⟩ := bind_eq_ok.1 resolved
      obtain ⟨verify, readVerify, resolved⟩ := bind_eq_ok.1 resolved
      obtain rfl := Except.ok.inj resolved
      exact {
        dest := Option.or_eq_some_iff.1 found
        importRoot := chosen_eq_iff.2 rfl
        browserProtocol := chosen_eq_iff.2 rfl
        jsProtocol := chosen_eq_iff.2 rfl
        formatter := by
          cases args.noFormat with
          | true => simp
          | false => simp [chosen_eq_iff]
        verifyCommand := resolveVerifyCommand_eq_ok_iff.1 readVerify
        logLevel := resolveLevel_eq_ok_iff.1 readLevel }
  · intro merges
    have formatter : settings.formatter =
        if args.noFormat then none else some (file.formatter.getD defaultFormatter) := by
      have chosen := merges.formatter
      cases off : args.noFormat with
      | true => simpa [off] using chosen
      | false => simpa [off, chosen_eq_iff] using chosen
    rw [resolve, Option.or_eq_some_iff.2 merges.dest]
    dsimp only
    rw [resolveLevel_eq_ok_iff.2 merges.logLevel,
      resolveVerifyCommand_eq_ok_iff.2 merges.verifyCommand,
      ← chosen_eq_iff.1 merges.importRoot, ← chosen_eq_iff.1 merges.browserProtocol,
      ← chosen_eq_iff.1 merges.jsProtocol, ← formatter]
    rfl

/-- Where settings can be merged, nothing is wrong. -/
theorem Merges.not_faults (merges : Merges args file settings) : ¬Faults args file error := by
  rintro (⟨notGiven, none_⟩ | ⟨notGiven, held, unknown⟩ | ⟨on, blank⟩)
  · rcases merges.dest with given | ⟨-, held⟩
    · rw [notGiven] at given
      cases given
    · rw [none_] at held
      cases held
  · have level := resolveLevel_eq_ok_iff.2 merges.logLevel
    rw [resolveLevel_eq_error_iff.2 ⟨_, notGiven, held, unknown, rfl⟩] at level
    cases level
  · have verify := resolveVerifyCommand_eq_ok_iff.2 merges.verifyCommand
    rw [resolveVerifyCommand_eq_error_iff.2 ⟨on, blank, rfl⟩] at verify
    cases verify

/-- An error is a fault, and the first of them. -/
theorem first_of_resolve_eq_error (failed : resolve args file = .error error) :
    Faults args file error ∧ ∀ other, Faults args file other → rank error ≤ rank other := by
  rw [resolve] at failed
  -- The checks are made in the order of ranks, and what has passed one has not the fault it looks for.
  split at failed
  · next none_ =>
    obtain rfl := Except.error.inj failed
    obtain ⟨notGiven, notHeld⟩ := Option.or_eq_none_iff.1 none_
    exact ⟨.noDestination notGiven notHeld, fun _ _ => Nat.zero_le _⟩
  · next dest found =>
    have given : ¬Faults args file .noDestination := by
      rintro ⟨notGiven, notHeld⟩
      rw [Option.or_eq_none_iff.2 ⟨notGiven, notHeld⟩] at found
      cases found
    rcases bind_eq_error.1 failed with unread | ⟨level, readLevel, failed⟩
    · obtain ⟨raw, notGiven, held, unknown, rfl⟩ := resolveLevel_eq_error_iff.1 unread
      refine ⟨.invalidLevel notGiven held unknown, fun other fault => ?_⟩
      cases fault with
      | noDestination notGiven notHeld => exact absurd (.noDestination notGiven notHeld) given
      | invalidLevel _ _ _ => exact Nat.le_refl 1
      | emptyVerifyCommand _ _ => exact Nat.le_succ _
    · rcases bind_eq_error.1 failed with unread | ⟨verify, -, failed⟩
      · obtain ⟨on, blank, rfl⟩ := resolveVerifyCommand_eq_error_iff.1 unread
        refine ⟨.emptyVerifyCommand on blank, fun other fault => ?_⟩
        cases fault with
        | noDestination notGiven notHeld => exact absurd (.noDestination notGiven notHeld) given
        | invalidLevel notGiven held unknown =>
          rw [resolveLevel_eq_error_iff.2 ⟨_, notGiven, held, unknown, rfl⟩] at readLevel
          cases readLevel
        | emptyVerifyCommand _ _ => exact Nat.le_refl _
      · cases failed

/-- No two faults have one place. -/
theorem Faults.eq_of_rank (left : Faults args file error) (right : Faults args file other)
    (same : rank error = rank other) : error = other := by
  cases left with
  | noDestination _ _ =>
    cases right with
    | noDestination _ _ => rfl
    | invalidLevel _ _ _ => cases same
    | emptyVerifyCommand _ _ => cases same
  | invalidLevel _ held _ =>
    cases right with
    | noDestination _ _ => cases same
    | invalidLevel _ again _ => rw [Option.some.inj (held.symm.trans again)]
    | emptyVerifyCommand _ _ => cases same
  | emptyVerifyCommand _ _ =>
    cases right with
    | noDestination _ _ => cases same
    | invalidLevel _ _ _ => cases same
    | emptyVerifyCommand _ _ => rfl

theorem resolve_eq_error_iff : resolve args file = .error error ↔
    Faults args file error ∧ ∀ other, Faults args file other → rank error ≤ rank other := by
  refine ⟨first_of_resolve_eq_error, fun ⟨fault, first⟩ => ?_⟩
  cases result : resolve args file with
  | ok settings => exact absurd fault (resolve_eq_ok_iff.1 result).not_faults
  | error found =>
    obtain ⟨wrong, before⟩ := first_of_resolve_eq_error result
    rw [fault.eq_of_rank wrong (Nat.le_antisymm (first found wrong) (before error fault))]

end Resolution

end Settings

end Bindings
