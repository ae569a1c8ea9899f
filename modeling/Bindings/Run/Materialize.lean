import Bindings.Emission.Imports
import Bindings.Go.SourceFile
import Bindings.Run.Action
import Bindings.Run.Summary

/-! Writing source files under a destination.

Every file is rendered, formatted and written. A file that the formatter refuses is
written as it is, with a warning; a directory or file that cannot be written ends
the run.
-/

set_option autoImplicit false

namespace Bindings

open Go (SourceFile)

inductive FormatError where
  | start (program : String) (cause : OsError)
  | rejected (program reason : String)

def FormatError.message : FormatError → String
  | .start program cause => "failed to run formatter " ++ program ++ ": " ++ cause.message
  | .rejected program reason => "formatter " ++ program ++ " rejected the source: " ++ reason

def FormatError.ofExecution (program : String) :
    Except OsError Execution → Except FormatError String
  | .error cause => .error (.start program cause)
  | .ok execution =>
    if !execution.status.isSuccess then
      .error (.rejected program
        (.ofList (Unicode.trim (Text.Utf8.decodeLossy execution.errors))))
    else
      match execution.refusal with
      | some cause => .error (.start program cause)
      | none =>
        (Text.Utf8.decode execution.output).mapError fun fault => .rejected program fault.message

def parentPath (path : String) : String :=
  let parts := (Text.splitWhere (· == '/') path.toList).reverse
  match trimParts ((trimParts parts).drop 1) with
  | [[]] => "/"
  | kept => .ofList ("/".toList.intercalate kept.reverse)
where
  /-- Drop parts that name no directory of their own, but not the first part of a path. -/
  trimParts : List (List Char) → List (List Char)
    | part :: next :: rest =>
      if part = [] || part = ['.'] then trimParts (next :: rest) else part :: next :: rest
    | parts => parts

namespace Materialize

variable {σ : Type}

def target : String := "cdpgen_cli::materialize"

/-- The text to write: formatted, or as it is where there is no formatter or it fails. -/
def format (m : Machine σ) (formatter : Option String) (path text : String) :
    Action σ (String × Bool) :=
  match formatter with
  | none => return (text, true)
  | some program => do
    match FormatError.ofExecution program
        (← Action.execute m { program := program, input := text }) with
    | .ok formatted => return (formatted, true)
    | .error e =>
      Action.log .warn target "Writing unformatted source" [("path", path), ("error", e.message)]
      return (text, false)

def writeFile (m : Machine σ) (formatter : Option String) (root : String) (stats : WriteStats)
    (file : SourceFile) : Action σ WriteStats := do
  let path := Emission.joinPath root file.path
  if file.isEmpty then
    Action.log .debug target "Skipping empty file" [("path", path)]
    return { stats with skipped := stats.skipped + 1 }
  else
    let (text, formatted) ← format m formatter path file.render
    let directory := parentPath path
    Action.change (m.createDirectories directory) (.createDirectory directory)
    Action.change (m.write path text) (.writeFile path)
    Action.log .debug target "Wrote file"
      [("path", path), ("bytes", toString text.utf8ByteSize)]
    return { stats with
      written := stats.written + 1
      unformatted := if formatted then stats.unformatted else stats.unformatted + 1 }

def writeAll (m : Machine σ) (formatter : Option String) (root : String) :
    (files : List SourceFile) → WriteStats → Action σ WriteStats
  | [], stats => return stats
  | file :: files, stats => do
    let stats ← writeFile m formatter root stats file
    writeAll m formatter root files stats

end Materialize

end Bindings
