import Bindings.Emission.Output
import Bindings.Protocol.Reader
import Bindings.Run.Materialize

/-! A run: read the descriptions, generate, write, verify. -/

set_option autoImplicit false

namespace Bindings

open Go (SourceFile)

namespace Run

variable {σ : Type}

def readFile (m : Machine σ) (path : String) (failure : OsError → RunError) : Action σ String := do
  match m.read path (← get).machine with
  | .ok text => return text
  | .error cause => throw (failure cause)

def readProtocol (m : Machine σ) (path : String) : Action σ Protocol := do
  let text ← readFile m path (.readProtocol path)
  Action.lift (Protocol.ofText text) (.parseProtocol path)

def shownVersion : Option Version → String
  | some v => "Some(" ++ Text.shown (v.major ++ "." ++ v.minor) ++ ")"
  | none => "None"

def loadProtocol (m : Machine σ) (settings : Settings) : Action σ Protocol := do
  let browser ← readProtocol m settings.browserProtocol
  let js ← readProtocol m settings.jsProtocol
  let protocol := Protocol.merge [browser, js]
  Action.log .info "cdpgen_cli::generate" "Loaded protocol"
    [("domains", toString protocol.domains.length), ("version", shownVersion protocol.version)]
  return protocol

def logDomain (domain : Domain) : Action σ Unit :=
  Action.log .debug "cdpgen_cli::codegen::domain" "Emitted domain"
    [("domain", domain.name), ("types", toString domain.types.length),
     ("commands", toString domain.commands.length),
     ("redirected", toString (domain.commands.length - domain.ownCommands.length)),
     ("events", toString domain.events.length)]

/-- Generate, logging how far it got. The answer is that of `generate`. -/
def emit (protocol : Protocol) (root : String) : Action σ (List SourceFile) := do
  let target := "cdpgen_cli::codegen"
  let exemptions ← Action.lift (prepare protocol) .generation
  Action.log .debug target "Built nullability exemptions"
    [("exempt", toString exemptions.names.length)]
  (emittedDomains protocol root exemptions).forM logDomain
  let emitted ← Action.lift (emitDomains protocol root exemptions) .generation
  Action.log .debug target "Collected shared definitions"
    [("shared", toString emitted.1.scope.size)]
  let files ← Action.lift (assemble protocol root emitted) .generation
  Action.log .info target "Generated bindings"
    [("domains", toString protocol.domains.length), ("files", toString files.length)]
  return files

def verify (m : Machine σ) (dest : String) (words : List String) : Action σ Unit := do
  let target := "cdpgen_cli::verify"
  let command := " ".intercalate words
  Action.log .info target "Verifying generated code" [("command", command), ("dir", dest)]
  match ← Action.execute m
      { program := words.headD "", arguments := words.tail, directory := some dest } with
  | .error cause => throw (.startVerification command cause)
  | .ok execution =>
    if execution.status.isSuccess then Action.log .info target "Verification passed"
    else
      throw (.verification command execution.status
        (.ofList (Unicode.trimEnd (Text.Utf8.decodeLossy execution.errors))))

def generateInto (m : Machine σ) (settings : Settings) (protocol : Protocol) :
    Action σ Summary := do
  let files ← emit protocol settings.importRoot
  let stats ← Materialize.writeAll m settings.formatter settings.dest files {}
  Action.log .info "cdpgen_cli::generate" "Wrote bindings"
    [("domains", toString protocol.domains.length), ("written", toString stats.written),
     ("unformatted", toString stats.unformatted), ("skipped", toString stats.skipped),
     ("dest", settings.dest)]
  match settings.verifyCommand with
  | some words =>
    verify m settings.dest words
    return ⟨protocol.domains.length, stats, true⟩
  | none => return ⟨protocol.domains.length, stats, false⟩

def loadSettings (m : Machine σ) (args : Arguments) : Action σ Settings := do
  let file ← match args.config with
    | none => pure {}
    | some path => do
      let text ← readFile m path (.readConfig path)
      match ConfigFile.ofText? text with
      | some file => pure file
      | none => throw .parseConfig
  match Settings.resolve args file with
  | .ok settings => return settings
  | .error e => throw (.settings e)

def run (m : Machine σ) (settings : Settings) : Action σ Summary := do
  let protocol ← loadProtocol m settings
  generateInto m settings protocol

end Run

end Bindings
