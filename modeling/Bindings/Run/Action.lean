import Bindings.Config.Settings
import Bindings.Log.Event
import Bindings.Run.Machine

/-! Actions of a run: they change the machine, log events and may fail for good. -/

set_option autoImplicit false

namespace Bindings

inductive RunError where
  | readConfig (path : String) (cause : OsError)
  | parseConfig
  | settings (cause : SettingsError)
  | readProtocol (path : String) (cause : OsError)
  | parseProtocol (path : String) (cause : Error)
  | generation (cause : Error)
  | createDirectory (path : String) (cause : OsError)
  | writeFile (path : String) (cause : OsError)
  | startVerification (command : String) (cause : OsError)
  | verification (command : String) (status : ExitStatus) (errors : String)

def Error.Category.message : Error.Category → String
  | .schema => "Invalid protocol description"
  | .defect => "Generator cannot emit valid code for this protocol"
  | .config => "Invalid configuration"

def RunError.chain : RunError → List String
  | .readConfig path cause => ["Failed to read config: " ++ Text.shown path, cause.message]
  | .parseConfig => ["Failed to parse config"]
  | .settings cause => cause.chain
  | .readProtocol path cause => ["Failed to read protocol: " ++ path, cause.message]
  | .parseProtocol path cause => ["Failed to parse protocol: " ++ path, cause.message]
  | .generation cause => [cause.category.message, cause.message]
  | .createDirectory path cause => ["Failed to create directory: " ++ path, cause.message]
  | .writeFile path cause => ["Failed to write file: " ++ path, cause.message]
  | .startVerification command cause =>
    ["Failed to execute verification command: " ++ command, cause.message]
  | .verification command status errors =>
    ["Verification failed (" ++ command ++ ", " ++ status.text ++ "):\n" ++ errors]

structure RunState (σ : Type) where
  machine : σ
  events : List Log.Event := []

abbrev Action (σ α : Type) := ExceptT RunError (StateM (RunState σ)) α

namespace Action

variable {σ α : Type}

def log (level : Log.Level) (target message : String) (fields : List (String × String) := []) :
    Action σ Unit :=
  modify fun state =>
    { state with events := state.events ++ [⟨level, target, some message, fields⟩] }

def change (operation : σ → Except OsError σ) (failure : OsError → RunError) : Action σ Unit := do
  match operation (← get).machine with
  | .ok machine => modify fun state => { state with machine := machine }
  | .error cause => throw (failure cause)

/-- Run a program; that it cannot be started is part of the answer. -/
def execute (m : Machine σ) (invocation : Invocation) : Action σ (Except OsError Execution) := do
  match m.execute invocation (← get).machine with
  | .ok (execution, machine) =>
    modify fun state => { state with machine := machine }
    return .ok execution
  | .error cause => return .error cause

def lift (result : Except Error α) (failure : Error → RunError) : Action σ α :=
  match result with
  | .ok a => pure a
  | .error e => throw (failure e)

end Action

end Bindings
