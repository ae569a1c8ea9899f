import Bindings.Log.Diagnostics
import Bindings.Log.Filter
import Bindings.Run.Generation

/-! The command-line program. -/

set_option autoImplicit false

namespace Bindings

/-- What the program leaves behind: exit code, standard output, log lines and the final error. -/
structure ProgramExit where
  code : Nat
  output : String := ""
  log : List String := []
  error : Option String := none

/-- Causes below the message of an error: indented, and numbered if there are several. -/
def causeLines (causes : List String) : String :=
  match causes with
  | [cause] => indent "    " "    " cause
  | causes =>
    "\n".intercalate (causes.mapIdx fun i cause =>
      let number := toString i
      indent ("".pushn ' ' (5 - number.length) ++ number ++ ": ") "       " cause)
where
  indent (first others cause : String) : String :=
    match (Text.splitWhere (· == '\n') cause.toList).map String.ofList with
    | [] => first
    | line :: lines => Text.joinLines ((first ++ line) :: lines.map (others ++ ·))

def RunError.report (e : RunError) : String :=
  match e.chain with
  | [] => "Error: "
  | [message] => "Error: " ++ message
  | message :: causes => "Error: " ++ message ++ "\n\nCaused by:\n" ++ causeLines causes

namespace Program

variable {σ : Type}

def version : String := "cdpgen 0.3.0\n"

/-- The environment's filter if it can be read, else one for the level of the settings. -/
def filter (environment : Option String) (level : Log.Level) : Log.Filter :=
  (environment.bind Log.Filter.ofText?).getD (.ofLevel level)

def finish (m : Machine σ) (settings : Settings) : Action σ (Summary × Log.Diagnostics) := do
  let summary ← Run.run m settings
  let diagnostics := Log.Diagnostics.ofEvents (← get).events
  Action.log .info "cdpgen" "Done"
    [("summary", summary.text), ("diagnostics", diagnostics.summary)]
  return (summary, diagnostics)

def output (summary : Summary) (diagnostics : Log.Diagnostics) : String :=
  "Generated " ++ summary.text ++ " (" ++ diagnostics.summary ++ ")\n"
    ++ diagnostics.report.getD ""

/-- Run with parsed arguments. Nothing is logged before the level of the settings is known. -/
def runWith (m : Machine σ) (args : Arguments) (environment : Option String) (machine : σ) :
    ProgramExit × σ :=
  match (Run.loadSettings m args).run.run ⟨machine, []⟩ with
  | (.error e, state) => ({ code := 1, error := some e.report }, state.machine)
  | (.ok settings, state) =>
    let (result, state) := (finish m settings).run.run state
    let shown := state.events.filter (filter environment settings.logLevel).shows
    let log := shown.map Log.Event.line
    match result with
    | .error e => ({ code := 1, log := log, error := some e.report }, state.machine)
    | .ok (summary, diagnostics) =>
      ({ code := 0, output := output summary diagnostics, log := log }, state.machine)

def inputs (m : Machine σ) (args : List String) (machine : σ) : List String :=
  match Arguments.ofList args with
  | .error _ => []
  | .ok args =>
    args.config.toList ++
      match (Run.loadSettings m args).run.run ⟨machine, []⟩ with
      | (.ok settings, _) => [settings.browserProtocol, settings.jsProtocol]
      | (.error _, _) => []

def main (m : Machine σ) (args : List String) (environment : Option String) (machine : σ) :
    ProgramExit × σ :=
  match Arguments.ofList args with
  | .error .version => ({ code := 0, output := version }, machine)
  | .error .help => ({ code := 0 }, machine)
  | .error _ => ({ code := 2 }, machine)
  | .ok args => runWith m args environment machine

end Program

end Bindings
