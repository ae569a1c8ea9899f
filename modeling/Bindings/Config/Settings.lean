import Bindings.Config.Arguments
import Bindings.Config.ConfigFile
import Bindings.Text.Split

/-! Settings of a run: arguments over the configuration file over defaults. -/

set_option autoImplicit false

namespace Bindings

structure Settings where
  dest : String
  importRoot : String
  browserProtocol : String
  jsProtocol : String
  /-- Absent when nothing is to be formatted. -/
  formatter : Option String
  /-- A program and its arguments; absent when nothing is to be verified. -/
  verifyCommand : Option (List String)
  logLevel : Log.Level
  deriving DecidableEq

inductive SettingsError where
  | noDestination
  | invalidLevel (cause : Error)
  | emptyVerifyCommand

def SettingsError.chain : SettingsError → List String
  | .noDestination => ["No output directory: pass --dest or set `dest` in the config file"]
  | .invalidLevel cause => ["Invalid `log_level` in config", cause.message]
  | .emptyVerifyCommand => ["`verify_command` cannot be empty; use --no-verify to skip"]

namespace Settings

def defaultImportRoot : String := "github.com/mafredri/cdp"

def defaultBrowserProtocol : String := "protodef/browser_protocol.json"

def defaultJsProtocol : String := "protodef/js_protocol.json"

def defaultFormatter : String := "gofmt"

def defaultVerifyCommand : String := "go build ./..."

def commandWords (command : String) : List String :=
  (Text.fields Unicode.isBlank command.toList).map String.ofList

def resolveLevel (args : Arguments) (file : ConfigFile) : Except SettingsError Log.Level :=
  match args.logLevel, file.logLevel with
  | some level, _ => .ok level
  | none, some raw => (Log.Level.ofText raw).mapError .invalidLevel
  | none, none => .ok .info

def resolveVerifyCommand (args : Arguments) (file : ConfigFile) :
    Except SettingsError (Option (List String)) :=
  if args.noVerify then .ok none
  else
    match commandWords (file.verifyCommand.getD defaultVerifyCommand) with
    | [] => .error .emptyVerifyCommand
    | words => .ok (some words)

/-- Merge arguments and file. The destination has to be given; then the level and the verification
command have to be usable, unless the arguments override them. -/
def resolve (args : Arguments) (file : ConfigFile) : Except SettingsError Settings :=
  match args.dest.or file.dest with
  | none => .error .noDestination
  | some dest => do
    let logLevel ← resolveLevel args file
    let verifyCommand ← resolveVerifyCommand args file
    return {
      dest := dest
      importRoot := (args.importRoot.or file.importRoot).getD defaultImportRoot
      browserProtocol := (args.browserProtocol.or file.browserProtocol).getD defaultBrowserProtocol
      jsProtocol := (args.jsProtocol.or file.jsProtocol).getD defaultJsProtocol
      formatter := if args.noFormat then none else some (file.formatter.getD defaultFormatter)
      verifyCommand := verifyCommand
      logLevel := logLevel }

end Settings

end Bindings
