import Bindings.Log.Level

/-! Command-line arguments.

An option takes its value from the same argument or from the next one. A value
that stands alone is judged when the next option begins or the arguments end, so
an argument that is not known at all is reported before it.
-/

set_option autoImplicit false

namespace Bindings

structure Arguments where
  dest : Option String := none
  importRoot : Option String := none
  browserProtocol : Option String := none
  jsProtocol : Option String := none
  config : Option String := none
  noVerify : Bool := false
  noFormat : Bool := false
  logLevel : Option Log.Level := none
  deriving DecidableEq

inductive ArgumentError where
  | unknownArgument
  | emptyValue
  | invalidLevel
  | repeatedOption
  | unexpectedValue
  | help
  | version
  deriving DecidableEq

namespace Arguments

inductive Setting where
  | dest
  | importRoot
  | browserProtocol
  | jsProtocol
  | config
  | logLevel
  deriving DecidableEq

inductive Switch where
  | noVerify
  | noFormat
  | help
  | version
  deriving DecidableEq

inductive OptionKind where
  | setting (setting : Setting)
  | switch (switch : Switch)

def ofLongName? : String → Option OptionKind
  | "dest" => some (.setting .dest)
  | "import" => some (.setting .importRoot)
  | "browser-proto" => some (.setting .browserProtocol)
  | "js-proto" => some (.setting .jsProtocol)
  | "config" => some (.setting .config)
  | "log-level" => some (.setting .logLevel)
  | "no-verify" => some (.switch .noVerify)
  | "no-format" => some (.switch .noFormat)
  | "help" => some (.switch .help)
  | "version" => some (.switch .version)
  | _ => none

def ofShortName? : Char → Option OptionKind
  | 'c' => some (.setting .config)
  | 'h' => some (.switch .help)
  | 'V' => some (.switch .version)
  | _ => none

/-- An option may be given once; paths are not empty. -/
def once {α : Type} (old : Option α) (new : Except ArgumentError α) :
    Except ArgumentError (Option α) :=
  match old with
  | some _ => .error .repeatedOption
  | none => new.map some

def path (value : String) : Except ArgumentError String :=
  if value.isEmpty then .error .emptyValue else .ok value

def level (value : String) : Except ArgumentError Log.Level :=
  (Log.Level.ofText value).mapError fun _ => .invalidLevel

def assign (a : Arguments) (setting : Setting) (value : String) : Except ArgumentError Arguments :=
  match setting with
  | .dest => do return { a with dest := ← once a.dest (path value) }
  | .importRoot => do return { a with importRoot := ← once a.importRoot (.ok value) }
  | .browserProtocol => do return { a with browserProtocol := ← once a.browserProtocol (path value) }
  | .jsProtocol => do return { a with jsProtocol := ← once a.jsProtocol (path value) }
  | .config => do return { a with config := ← once a.config (path value) }
  | .logLevel => do return { a with logLevel := ← once a.logLevel (level value) }

def turnOn (a : Arguments) : Switch → Except ArgumentError Arguments
  | .noVerify => if a.noVerify then .error .repeatedOption else .ok { a with noVerify := true }
  | .noFormat => if a.noFormat then .error .repeatedOption else .ok { a with noFormat := true }
  | .help => .error .help
  | .version => .error .version

/-- A setting whose value has not been judged yet. -/
inductive Pending where
  | none
  | awaiting (setting : Setting)
  | given (setting : Setting) (value : String)

def settle (a : Arguments) : Pending → Except ArgumentError Arguments
  | .none => .ok a
  | .awaiting _ => .error .emptyValue
  | .given setting value => a.assign setting value

def takeOption (a : Arguments) (pending : Pending) (option : OptionKind) (value : Option String) :
    Except ArgumentError (Arguments × Pending) :=
  match option, value with
  | .switch _, some _ => .error .unexpectedValue
  | .switch switch, none => do return (← (← a.settle pending).turnOn switch, .none)
  | .setting setting, some value => do return (← (← a.settle pending).assign setting value, .none)
  | .setting setting, none => do return (← a.settle pending, .awaiting setting)

/-- A cluster of short options; the first one with a value takes the rest of the argument, less an
equals sign. -/
def takeShort (a : Arguments) (pending : Pending) :
    List Char → Except ArgumentError (Arguments × Pending)
  | [] => .ok (a, pending)
  | c :: rest =>
    match ofShortName? c with
    | none => .error .unknownArgument
    | some (.switch switch) => do
      let (a, pending) ← a.takeOption pending (.switch switch) none
      takeShort a pending rest
    | some (.setting setting) =>
      let value := match rest with
        | [] => none
        | '=' :: value => some value
        | value => some value
      a.takeOption pending (.setting setting) (value.map String.ofList)

def takeLong (a : Arguments) (pending : Pending) (body : List Char) :
    Except ArgumentError (Arguments × Pending) :=
  let name := body.takeWhile (· != '=')
  match ofLongName? (.ofList name) with
  | none => .error .unknownArgument
  | some option =>
    let value := match body.dropWhile (· != '=') with
      | [] => none
      | _ :: value => some (String.ofList value)
    a.takeOption pending option value

def take : (a : Arguments) → Pending → List (List Char) → Except ArgumentError Arguments
  | a, pending, [] => a.settle pending
  | a, pending, arg :: rest =>
    match arg with
    | ['-', '-'] => if rest.isEmpty then a.settle pending else .error .unknownArgument
    | '-' :: '-' :: body => do
      let (a, pending) ← a.takeLong pending body
      take a pending rest
    | '-' :: c :: body => do
      let (a, pending) ← a.takeShort pending (c :: body)
      take a pending rest
    | value =>
      match pending with
      | .awaiting setting => take a (.given setting (.ofList value)) rest
      | _ => .error .unknownArgument

def ofList (args : List String) : Except ArgumentError Arguments :=
  take {} .none (args.map String.toList)

end Arguments

end Bindings
