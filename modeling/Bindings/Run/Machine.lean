import Bindings.Text.Utf8

/-! What a run needs of the machine it runs on. -/

set_option autoImplicit false

namespace Bindings

open Text (Bytes)

inductive OsError where
  | noEntry
  | formatError
  | unavailable
  | accessDenied
  | exists
  | notDirectory
  | isDirectory
  | brokenPipe
  | nameTooLong
  | notText
  | zeroInPath
  | zeroInArgument
  deriving DecidableEq

def OsError.reason : OsError → Option Nat × String
  | .noEntry => (some 2, "No such file or directory")
  | .formatError => (some 8, "Exec format error")
  | .unavailable => (some 11, "Resource temporarily unavailable")
  | .accessDenied => (some 13, "Permission denied")
  | .exists => (some 17, "File exists")
  | .notDirectory => (some 20, "Not a directory")
  | .isDirectory => (some 21, "Is a directory")
  | .brokenPipe => (some 32, "Broken pipe")
  | .nameTooLong => (some 36, "File name too long")
  | .notText => (none, "stream did not contain valid UTF-8")
  | .zeroInPath => (none, "file name contained an unexpected NUL byte")
  | .zeroInArgument => (none, "nul byte found in provided data")

def OsError.message (e : OsError) : String :=
  match e.reason with
  | (some number, text) => text ++ " (os error " ++ toString number ++ ")"
  | (none, text) => text

structure Invocation where
  program : String
  arguments : List String := []
  /-- Where it runs, if not in the working directory. -/
  directory : Option String := none
  input : String := ""

inductive ExitStatus where
  | code (n : Nat)
  | signal (n : Nat)
  deriving DecidableEq

def ExitStatus.isSuccess (status : ExitStatus) : Bool := status = .code 0

def signalNames : List String :=
  ["HUP", "INT", "QUIT", "ILL", "TRAP", "ABRT", "BUS", "FPE", "KILL", "USR1", "SEGV", "USR2",
   "PIPE", "ALRM", "TERM", "STKFLT", "CHLD", "CONT", "STOP", "TSTP", "TTIN", "TTOU", "URG",
   "XCPU", "XFSZ", "VTALRM", "PROF", "WINCH", "IO", "PWR", "SYS"]

def signalName? (n : Nat) : Option String := if n = 0 then none else signalNames[n - 1]?

def ExitStatus.text : ExitStatus → String
  | .code n => "exit status: " ++ toString n
  | .signal n =>
    "signal: " ++ toString n
      ++ match signalName? n with
        | some name => " (SIG" ++ name ++ ")"
        | none => ""

structure Execution where
  status : ExitStatus
  output : Bytes
  errors : Bytes
  /-- Why the input could not be passed on as a whole, if so. -/
  refusal : Option OsError := none

/-- Operations on a machine in state `σ`. An operation that fails has no effect. -/
structure Machine (σ : Type) where
  /-- The text of a file. -/
  read : String → σ → Except OsError String
  /-- Create a directory and those above it, as far as they are missing. -/
  createDirectories : String → σ → Except OsError σ
  /-- Create or replace a file. -/
  write : String → String → σ → Except OsError σ
  /-- Run a program to its end. -/
  execute : Invocation → σ → Except OsError (Execution × σ)

end Bindings
