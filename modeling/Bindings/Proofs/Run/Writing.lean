import Bindings.Proofs.Run.Actions
import Bindings.Proofs.Threading
import Bindings.Run.Generation
import Mathlib.Logic.Function.Basic

/-! What a run writes.

Nothing is touched before all files have been generated. Then the files are written in order, so that
a path holds the last of those that belong there, and a failure keeps what was written before it.
-/

set_option autoImplicit false

namespace Bindings

open Emission (joinPath)
open Go (SourceFile)

variable {σ π : Type} [DecidableEq π] {m : Machine σ}

def stored (content : π → Option String) (place : Option π) (text : String) : π → Option String :=
  fun p => if place = some p then some text else content p

/-- The files and directories on a machine in its valid states, as far as its operations tell. A path
leads to a place, or to none where texts are taken and lost. A file is replaced as a whole, and a
directory comes with those `above` it. -/
structure Machine.FileView (m : Machine σ) (π : Type) [DecidableEq π] where
  Valid : σ → Prop
  place : String → Option π
  content : σ → π → Option String
  isDirectory : σ → π → Prop
  above : String → List π
  valid_write : ∀ {path text : String} {state next : σ}, Valid state →
    m.write path text state = .ok next → Valid next
  content_write : ∀ {path text : String} {state next : σ}, Valid state →
    m.write path text state = .ok next →
      content next = stored (content state) (place path) text
  isDirectory_write : ∀ {path text : String} {state next : σ}, Valid state →
    m.write path text state = .ok next → isDirectory next = isDirectory state
  valid_createDirectories : ∀ {path : String} {state next : σ}, Valid state →
    m.createDirectories path state = .ok next → Valid next
  content_createDirectories : ∀ {path : String} {state next : σ}, Valid state →
    m.createDirectories path state = .ok next → content next = content state
  isDirectory_createDirectories : ∀ {path : String} {state next : σ}, Valid state →
    m.createDirectories path state = .ok next →
      ∀ p, isDirectory next p ↔ isDirectory state p ∨ p ∈ above path

/-- What a formatter answers to a text. Without a program every text stays as it is. -/
def Machine.formatted (m : Machine σ) (formatter : Option String) (text : String) (state : σ) :
    Except FormatError String :=
  match formatter with
  | none => .ok text
  | some program =>
    FormatError.ofExecution program
      ((m.execute { program := program, input := text } state).map Prod.fst)

/-- A formatter makes of every text what `outcome` says, and touches no file. -/
structure Machine.FileView.Formats (view : m.FileView π) (formatter : Option String)
    (outcome : String → Except FormatError String) : Prop where
  formatted : ∀ {text : String} {state : σ}, view.Valid state →
    m.formatted formatter text state = outcome text
  untouched : ∀ {program text : String} {state next : σ} {execution : Execution},
    formatter = some program → view.Valid state →
      m.execute { program := program, input := text } state = .ok (execution, next) →
        view.Valid next ∧ view.content next = view.content state ∧
          view.isDirectory next = view.isDirectory state

namespace Materialize

def writtenText (outcome : String → Except FormatError String) (text : String) : String :=
  match outcome text with
  | .ok formatted => formatted
  | .error _ => text

def isFormatted (outcome : String → Except FormatError String) (text : String) : Bool :=
  match outcome text with
  | .ok _ => true
  | .error _ => false

def lastWritten (view : m.FileView π) (root : String) (files : List SourceFile) (p : π) :
    Option SourceFile :=
  (files.filter fun file =>
    !file.isEmpty && view.place (joinPath root file.path) == some p).getLast?

/-- What a place holds after files have been written: the last of them that belongs there, or what it
held before. -/
def contentAfter (view : m.FileView π) (outcome : String → Except FormatError String)
    (root : String) (files : List SourceFile) (content : π → Option String) (p : π) :
    Option String :=
  match lastWritten view root files p with
  | some file => some (writtenText outcome file.render)
  | none => content p

def directoriesOf (view : m.FileView π) (root : String) (files : List SourceFile) : List π :=
  (files.filter (!·.isEmpty)).flatMap fun file => view.above (parentPath (joinPath root file.path))

/-- Files have been written: the machine holds them and nothing else that is new, and they are
counted. -/
structure Written (view : m.FileView π) (outcome : String → Except FormatError String)
    (root : String) (files : List SourceFile) (first last : σ) (before after : WriteStats) :
    Prop where
  content : view.content last = contentAfter view outcome root files (view.content first)
  directories : ∀ p, view.isDirectory last p ↔
    view.isDirectory first p ∨ p ∈ directoriesOf view root files
  written : after.written = before.written + files.countP (!·.isEmpty)
  skipped : after.skipped = before.skipped + files.countP (·.isEmpty)
  unformatted : after.unformatted = before.unformatted +
    files.countP fun file => !file.isEmpty && !isFormatted outcome file.render

/-- A file has not been written, since the machine refused it or its directory. No file has
changed. -/
structure Refused (view : m.FileView π) (outcome : String → Except FormatError String)
    (root : String) (file : SourceFile) (first last : σ) (e : RunError) : Prop where
  nonempty : file.isEmpty = false
  content : view.content last = view.content first
  directories : ∀ p, view.isDirectory last p →
    view.isDirectory first p ∨ p ∈ directoriesOf view root [file]
  cause : ∃ state cause, view.content state = view.content first ∧
    let path := joinPath root file.path
    m.createDirectories (parentPath path) state = .error cause ∧
        e = .createDirectory (parentPath path) cause ∨
      m.write path (writtenText outcome file.render) state = .error cause ∧
        e = .writeFile path cause

/-- A run has ended at one of its files: those before it have been written, and none from it on. -/
def Interrupted (view : m.FileView π) (outcome : String → Except FormatError String)
    (root : String) (files : List SourceFile) (first last : σ) (stats : WriteStats)
    (e : RunError) : Prop :=
  ∃ before file later, files = before ++ file :: later ∧ ∃ state counted,
    Written view outcome root before first state stats counted ∧
      Refused view outcome root file state last e

variable {view : m.FileView π} {formatter : Option String}
  {outcome : String → Except FormatError String} {root : String} {file : SourceFile}
  {files : List SourceFile} {e : RunError}

section Contents
variable {content : π → Option String}

theorem contentAfter_nil : contentAfter view outcome root [] content = content := rfl

theorem contentAfter_cons_empty (empty : file.isEmpty = true) :
    contentAfter view outcome root (file :: files) content =
      contentAfter view outcome root files content := by
  funext p
  simp [contentAfter, lastWritten, empty]

theorem contentAfter_cons (nonempty : file.isEmpty = false) :
    contentAfter view outcome root (file :: files) content =
      contentAfter view outcome root files (stored content (view.place (joinPath root file.path))
        (writtenText outcome file.render)) := by
  funext p
  by_cases same : view.place (joinPath root file.path) = some p
  · simp only [contentAfter, lastWritten, List.filter_cons, nonempty, Bool.not_false,
      Bool.true_and, same, beq_self_eq_true, if_true, List.getLast?_cons, stored]
    cases (files.filter fun other =>
      !other.isEmpty && view.place (joinPath root other.path) == some p).getLast? <;> rfl
  · simp [contentAfter, lastWritten, nonempty, same, stored]

/-- The last file that belongs in a place is the one that stays there. -/
theorem lastWritten_eq {earlier later : List SourceFile} {p : π} (nonempty : file.isEmpty = false)
    (here : view.place (joinPath root file.path) = some p)
    (final : ∀ other ∈ later, other.isEmpty = false → view.place (joinPath root other.path) ≠ some p) :
    lastWritten view root (earlier ++ file :: later) p = some file := by
  have gone : (later.filter fun other =>
      !other.isEmpty && view.place (joinPath root other.path) == some p) = [] := by
    simpa [List.filter_eq_nil_iff] using final
  simp [lastWritten, gone, nonempty, here]

end Contents

section Steps
variable {first next last : RunState σ} {stats middle after : WriteStats}

/-- How a program ended decides alone what is written. -/
theorem leads_of_ended {program path text : String} {ended : Except OsError Execution}
    (judged : FormatError.ofExecution program ended = outcome text)
    {result : Except RunError (String × Bool)}
    (leads : (match FormatError.ofExecution program ended with
      | .ok formatted => pure (formatted, true)
      | .error e => do
        Action.log .warn target "Writing unformatted source" [("path", path), ("error", e.message)]
        return (text, false) : Action σ (String × Bool)).Leads first result last) :
    result = .ok (writtenText outcome text, isFormatted outcome text) ∧
      last.machine = first.machine := by
  rw [judged] at leads
  cases found : outcome text with
  | ok formatted =>
    rw [found] at leads
    obtain ⟨rfl, rfl⟩ := Action.leads_pure.1 leads
    simp [writtenText, isFormatted, found]
  | error refusal =>
    rw [found] at leads
    simp only [Action.leads_log_bind] at leads
    obtain ⟨rfl, rfl⟩ := Action.leads_pure.1 leads
    simp [writtenText, isFormatted, found]

/-- A text is formatted as `outcome` says, and no file is touched. -/
theorem leads_format (formats : view.Formats formatter outcome) (valid : view.Valid first.machine)
    {path text : String} {result : Except RunError (String × Bool)}
    (leads : (format m formatter path text).Leads first result last) :
    result = .ok (writtenText outcome text, isFormatted outcome text) ∧
      view.Valid last.machine ∧ view.content last.machine = view.content first.machine ∧
      view.isDirectory last.machine = view.isDirectory first.machine := by
  have answer : m.formatted formatter text first.machine = outcome text := formats.formatted valid
  cases formatter with
  | none =>
    obtain ⟨rfl, rfl⟩ := Action.leads_pure.1 leads
    simp [writtenText, isFormatted, ← answer, Machine.formatted, valid]
  | some program =>
    simp only [Machine.formatted] at answer
    rw [format, Action.leads_bind] at leads
    simp only [Action.leads_execute, reduceCtorEq, false_and, and_false, exists_false, or_self,
      false_or] at leads
    obtain ⟨_, _, ⟨execution, machine, ran, ⟨⟩, rfl⟩ | ⟨cause, ran, ⟨⟩, rfl⟩, rest⟩ := leads
    · rw [ran] at answer
      obtain ⟨rfl, same⟩ := leads_of_ended answer rest
      rw [same]
      exact ⟨rfl, formats.untouched rfl valid ran⟩
    · rw [ran] at answer
      obtain ⟨rfl, same⟩ := leads_of_ended answer rest
      rw [same]
      exact ⟨rfl, valid, rfl, rfl⟩

/-- An empty file is counted, and the machine stays as it is. -/
theorem leads_writeFile_empty (empty : file.isEmpty = true)
    {result : Except RunError WriteStats}
    (leads : (writeFile m formatter root stats file).Leads first result last) :
    result = .ok { stats with skipped := stats.skipped + 1 } ∧ last.machine = first.machine := by
  rw [writeFile] at leads
  rw [empty, if_pos rfl, Action.leads_log_bind] at leads
  obtain ⟨rfl, rfl⟩ := Action.leads_pure.1 leads
  exact ⟨rfl, rfl⟩

/-- What happens to a file that is not empty: it is formatted, its directory is made and it is
written, as far as the machine lets it. -/
theorem leads_writeFile (formats : view.Formats formatter outcome)
    (valid : view.Valid first.machine) (nonempty : file.isEmpty = false)
    {result : Except RunError WriteStats}
    (leads : (writeFile m formatter root stats file).Leads first result last) :
    let path := joinPath root file.path
    let text := writtenText outcome file.render
    ∃ state, view.Valid state ∧ view.content state = view.content first.machine ∧
      view.isDirectory state = view.isDirectory first.machine ∧
      ((∃ cause, m.createDirectories (parentPath path) state = .error cause ∧
          result = .error (.createDirectory (parentPath path) cause) ∧ last.machine = state) ∨
        ∃ made, m.createDirectories (parentPath path) state = .ok made ∧
          ((∃ cause, m.write path text made = .error cause ∧
              result = .error (.writeFile path cause) ∧ last.machine = made) ∨
            m.write path text made = .ok last.machine ∧
              result = .ok { stats with
                written := stats.written + 1
                unformatted := if isFormatted outcome file.render then stats.unformatted
                  else stats.unformatted + 1 })) := by
  intro path text
  rw [writeFile] at leads
  simp only [nonempty, Bool.false_eq_true, if_false] at leads
  rw [Action.leads_bind] at leads
  obtain ⟨_, formatting, -⟩ | ⟨_, formatted, formatting, leads⟩ := leads
  · nomatch (leads_format formats valid formatting).1
  obtain ⟨⟨⟩, kept, sameContent, sameDirectories⟩ := leads_format formats valid formatting
  refine ⟨formatted.machine, kept, sameContent, sameDirectories, ?_⟩
  rw [Action.leads_bind] at leads
  obtain ⟨_, creating, rfl⟩ | ⟨_, created, creating, leads⟩ := leads
  · obtain ⟨_, -, ⟨⟩, -⟩ | ⟨cause, refused, ⟨⟩, rfl⟩ := Action.leads_change.1 creating
    exact .inl ⟨cause, refused, rfl, rfl⟩
  obtain ⟨made, accepted, -, rfl⟩ | ⟨_, -, ⟨⟩, -⟩ := Action.leads_change.1 creating
  refine .inr ⟨made, accepted, ?_⟩
  rw [Action.leads_bind] at leads
  obtain ⟨_, writing, rfl⟩ | ⟨_, _, writing, leads⟩ := leads
  · obtain ⟨_, -, ⟨⟩, -⟩ | ⟨cause, refused, ⟨⟩, rfl⟩ := Action.leads_change.1 writing
    exact .inl ⟨cause, refused, rfl, rfl⟩
  obtain ⟨done, accepted, -, rfl⟩ | ⟨_, -, ⟨⟩, -⟩ := Action.leads_change.1 writing
  rw [Action.leads_log_bind] at leads
  obtain ⟨rfl, rfl⟩ := Action.leads_pure.1 leads
  exact .inr ⟨accepted, rfl⟩

/-- A file that a run gets past has been written, or passed over because it is empty. -/
theorem Written.writeFile (formats : view.Formats formatter outcome)
    (valid : view.Valid first.machine)
    (leads : (writeFile m formatter root stats file).Leads first (.ok after) last) :
    Written view outcome root [file] first.machine last.machine stats after ∧
      view.Valid last.machine := by
  cases empty : file.isEmpty with
  | true =>
    obtain ⟨⟨⟩, same⟩ := leads_writeFile_empty empty leads
    rw [same]
    exact ⟨{
      content := by rw [contentAfter_cons_empty empty, contentAfter_nil]
      directories := by simp [directoriesOf, empty]
      written := by simp [empty]
      skipped := by simp [empty]
      unformatted := by simp [empty] }, valid⟩
  | false =>
    obtain ⟨state, formatted, sameContent, sameDirectories, ⟨_, -, ⟨⟩, -⟩ |
      ⟨made, created, ⟨_, -, ⟨⟩, -⟩ | ⟨written, counted⟩⟩⟩ :=
        leads_writeFile formats valid empty leads
    obtain rfl := Except.ok.inj counted
    have prepared := view.valid_createDirectories formatted created
    exact ⟨{
      content := by
        rw [contentAfter_cons empty, contentAfter_nil, view.content_write prepared written,
          view.content_createDirectories formatted created, sameContent]
      directories := by
        intro p
        rw [view.isDirectory_write prepared written,
          view.isDirectory_createDirectories formatted created, sameDirectories]
        simp [directoriesOf, empty]
      written := by simp [empty]
      skipped := by simp [empty]
      unformatted := by
        cases formatted : isFormatted outcome file.render <;> simp [empty, formatted] },
      view.valid_write prepared written⟩

/-- A file that ends the run leaves all files as they were. -/
theorem Refused.writeFile (formats : view.Formats formatter outcome)
    (valid : view.Valid first.machine)
    (leads : (writeFile m formatter root stats file).Leads first (.error e) last) :
    Refused view outcome root file first.machine last.machine e := by
  cases empty : file.isEmpty with
  | true => nomatch (leads_writeFile_empty empty leads).1
  | false =>
    obtain ⟨state, formatted, sameContent, sameDirectories, ⟨cause, refused, ⟨⟩, same⟩ |
      ⟨made, created, ⟨cause, refused, ⟨⟩, same⟩ | ⟨-, ⟨⟩⟩⟩⟩ :=
        leads_writeFile formats valid empty leads
    · exact {
        nonempty := empty
        content := by rw [same, sameContent]
        directories := by
          intro p held
          rw [same, sameDirectories] at held
          exact .inl held
        cause := ⟨state, cause, sameContent, .inl ⟨refused, rfl⟩⟩ }
    · have untouched : view.content made = view.content first.machine := by
        rw [view.content_createDirectories formatted created, sameContent]
      exact {
        nonempty := empty
        content := by rw [same, untouched]
        directories := by
          intro p held
          rw [same, view.isDirectory_createDirectories formatted created, sameDirectories] at held
          simpa [directoriesOf, empty] using held
        cause := ⟨made, cause, untouched, .inr ⟨refused, rfl⟩⟩ }

end Steps

section Runs
variable {first last : RunState σ} {stats after : WriteStats}

theorem Written.nil {machine : σ} : Written view outcome root [] machine machine stats stats where
  content := contentAfter_nil.symm
  directories := by simp [directoriesOf]
  written := rfl
  skipped := rfl
  unformatted := rfl

/-- What has been written first is there until it is written again. -/
theorem Written.cons {start middle final : σ} {between : WriteStats}
    (head : Written view outcome root [file] start middle stats between)
    (rest : Written view outcome root files middle final between after) :
    Written view outcome root (file :: files) start final stats after where
  content := by
    rw [rest.content, head.content]
    cases empty : file.isEmpty with
    | true => rw [contentAfter_cons_empty empty, contentAfter_cons_empty empty, contentAfter_nil]
    | false => rw [contentAfter_cons empty, contentAfter_cons empty, contentAfter_nil]
  directories := by
    intro p
    rw [rest.directories, head.directories, or_assoc, ← List.mem_append, directoriesOf,
      directoriesOf, ← List.flatMap_append, ← List.filter_append]
    rfl
  written := by
    rw [rest.written, head.written, Nat.add_assoc, ← List.countP_append]
    rfl
  skipped := by
    rw [rest.skipped, head.skipped, Nat.add_assoc, ← List.countP_append]
    rfl
  unformatted := by
    rw [rest.unformatted, head.unformatted, Nat.add_assoc, ← List.countP_append]
    rfl

/-- A run that gets past all files has written them. -/
theorem Written.writeAll (formats : view.Formats formatter outcome)
    (valid : view.Valid first.machine)
    (leads : (writeAll m formatter root files stats).Leads first (.ok after) last) :
    Written view outcome root files first.machine last.machine stats after := by
  induction files generalizing first stats with
  | nil =>
    obtain ⟨⟨⟩, rfl⟩ := Action.leads_pure.1 leads
    exact .nil
  | cons file files ih =>
    rw [Materialize.writeAll, Action.leads_bind_ok] at leads
    obtain ⟨between, next, writing, rest⟩ := leads
    obtain ⟨head, kept⟩ := Written.writeFile formats valid writing
    exact .cons head (ih kept rest)

theorem Interrupted.writeAll (formats : view.Formats formatter outcome)
    (valid : view.Valid first.machine)
    (leads : (writeAll m formatter root files stats).Leads first (.error e) last) :
    Interrupted view outcome root files first.machine last.machine stats e := by
  induction files generalizing first stats with
  | nil => nomatch (Action.leads_pure.1 leads).1
  | cons file files ih =>
    rw [Materialize.writeAll, Action.leads_bind_error] at leads
    obtain failing | ⟨between, next, writing, rest⟩ := leads
    · exact ⟨[], file, files, rfl, first.machine, stats, .nil, .writeFile formats valid failing⟩
    · obtain ⟨head, kept⟩ := Written.writeFile formats valid writing
      obtain ⟨before, refusing, later, rfl, state, counted, written, refused⟩ := ih kept rest
      exact ⟨file :: before, refusing, later, rfl, state, counted, .cons head written, refused⟩

end Runs

end Materialize

namespace Run

variable {protocol : Protocol} {first last : RunState σ}

theorem leads_logDomains {domains : List Domain} {result : Except RunError PUnit}
    (leads : (domains.forM logDomain : Action σ PUnit).Leads first result last) :
    result = .ok () ∧ last.machine = first.machine := by
  induction domains generalizing first with
  | nil =>
    obtain ⟨rfl, rfl⟩ := Action.leads_pure.1 leads
    exact ⟨rfl, rfl⟩
  | cons domain domains ih =>
    rw [List.forM, logDomain, Action.leads_log_bind] at leads
    obtain ⟨rfl, same⟩ := ih leads
    exact ⟨rfl, same⟩

/-- Generating touches nothing, and its answer is that of `generate`. -/
theorem leads_emit {root : String} {result : Except RunError (List SourceFile)}
    (leads : (emit protocol root).Leads first result last) :
    result = (generate protocol root).mapError .generation ∧ last.machine = first.machine := by
  rw [emit, Action.leads_lift_bind] at leads
  obtain ⟨e, failed, rfl, rfl⟩ | ⟨exemptions, prepared, leads⟩ := leads
  · simp [generate, failed, bind, Except.bind, Except.mapError]
  rw [Action.leads_log_bind, Action.leads_bind] at leads
  obtain ⟨_, logging, -⟩ | ⟨_, next, logging, leads⟩ := leads
  · nomatch (leads_logDomains logging).1
  obtain ⟨-, same⟩ := leads_logDomains logging
  rw [Action.leads_lift_bind] at leads
  obtain ⟨e, failed, rfl, rfl⟩ | ⟨emitted, done, leads⟩ := leads
  · simp [generate, prepared, failed, same, bind, Except.bind, Except.mapError]
  rw [Action.leads_log_bind, Action.leads_lift_bind] at leads
  obtain ⟨e, failed, rfl, rfl⟩ | ⟨files, assembled, leads⟩ := leads
  · simp [generate, prepared, done, failed, same, bind, Except.bind, Except.mapError]
  rw [Action.leads_log_bind] at leads
  obtain ⟨rfl, rfl⟩ := Action.leads_pure.1 leads
  simp [generate, prepared, done, assembled, same, bind, Except.bind, Except.mapError]

/-- How a run ends whose files have been written. Without a command to verify them it succeeds, else
the command decides, and nothing but the command changes the machine. -/
inductive Concludes (m : Machine σ) (settings : Settings) (domains : Nat) (stats : WriteStats)
    (machine : σ) : Except RunError Summary → σ → Prop where
  | unverified (unasked : settings.verifyCommand = none) :
    Concludes m settings domains stats machine (.ok ⟨domains, stats, false⟩) machine
  | verified {words : List String} {execution : Execution} {last : σ}
    (asked : settings.verifyCommand = some words)
    (ended : m.execute ⟨words.headD "", words.tail, some settings.dest, ""⟩ machine =
      .ok (execution, last))
    (succeeds : execution.status.isSuccess = true) :
    Concludes m settings domains stats machine (.ok ⟨domains, stats, true⟩) last
  | failed {words : List String} {execution : Execution} {last : σ}
    (asked : settings.verifyCommand = some words)
    (ended : m.execute ⟨words.headD "", words.tail, some settings.dest, ""⟩ machine =
      .ok (execution, last))
    (fails : execution.status.isSuccess = false) :
    Concludes m settings domains stats machine
      (.error (.verification (" ".intercalate words) execution.status
        (.ofList (Unicode.trimEnd (Text.Utf8.decodeLossy execution.errors))))) last
  | unstarted {words : List String} {cause : OsError}
    (asked : settings.verifyCommand = some words)
    (refused : m.execute ⟨words.headD "", words.tail, some settings.dest, ""⟩ machine =
      .error cause) :
    Concludes m settings domains stats machine
      (.error (.startVerification (" ".intercalate words) cause)) machine

theorem leads_verify {dest : String} {words : List String} {result : Except RunError Unit}
    (leads : (verify m dest words).Leads first result last) :
    (∃ execution, m.execute ⟨words.headD "", words.tail, some dest, ""⟩ first.machine =
        .ok (execution, last.machine) ∧
      (execution.status.isSuccess = true ∧ result = .ok () ∨
        execution.status.isSuccess = false ∧
          result = .error (.verification (" ".intercalate words) execution.status
            (.ofList (Unicode.trimEnd (Text.Utf8.decodeLossy execution.errors)))))) ∨
      ∃ cause, m.execute ⟨words.headD "", words.tail, some dest, ""⟩ first.machine =
          .error cause ∧
        result = .error (.startVerification (" ".intercalate words) cause) ∧
          last.machine = first.machine := by
  rw [verify, Action.leads_log_bind, Action.leads_bind] at leads
  simp only [Action.leads_execute, reduceCtorEq, false_and, and_false, exists_false, or_self,
    false_or] at leads
  obtain ⟨_, _, ⟨execution, machine, ran, ⟨⟩, rfl⟩ | ⟨cause, refused, ⟨⟩, rfl⟩, rest⟩ := leads
  · refine .inl ⟨execution, ?_⟩
    cases succeeds : execution.status.isSuccess with
    | true =>
      simp only [succeeds, if_true] at rest
      obtain ⟨rfl, rfl⟩ := Action.leads_log.1 rest
      exact ⟨ran, .inl ⟨rfl, rfl⟩⟩
    | false =>
      simp only [succeeds, Bool.false_eq_true, if_false] at rest
      obtain ⟨rfl, rfl⟩ := Action.leads_throw.1 rest
      exact ⟨ran, .inr ⟨rfl, rfl⟩⟩
  · obtain ⟨rfl, rfl⟩ := Action.leads_throw.1 rest
    exact .inr ⟨cause, refused, rfl, rfl⟩

/-- An accepted protocol is written as a whole before anything else is done. -/
theorem leads_generateInto {settings : Settings} {files : List SourceFile}
    (accepted : generate protocol settings.importRoot = .ok files)
    {result : Except RunError Summary}
    (leads : (generateInto m settings protocol).Leads first result last) :
    ∃ start, start.machine = first.machine ∧ ∃ outcome next,
      (Materialize.writeAll m settings.formatter settings.dest files {}).Leads start outcome next ∧
        (∀ e, outcome = .error e → result = .error e ∧ last = next) ∧
        ∀ stats, outcome = .ok stats →
          Concludes m settings protocol.domains.length stats next.machine result last.machine := by
  rw [generateInto, Action.leads_bind] at leads
  obtain ⟨e, failed, -⟩ | ⟨emitted, start, generating, leads⟩ := leads
  · nomatch accepted ▸ (leads_emit failed).1
  obtain ⟨same, untouched⟩ := leads_emit generating
  obtain rfl : emitted = files := by
    rw [accepted] at same
    exact Except.ok.inj same
  refine ⟨start, untouched, ?_⟩
  rw [Action.leads_bind] at leads
  obtain ⟨e, failed, rfl⟩ | ⟨stats, next, written, leads⟩ := leads
  · exact ⟨.error e, last, failed, fun _ same => ⟨congrArg _ (Except.error.inj same), rfl⟩, nofun⟩
  refine ⟨.ok stats, next, written, nofun, fun _ same => ?_⟩
  obtain rfl := Except.ok.inj same
  rw [Action.leads_log_bind] at leads
  cases command : settings.verifyCommand with
  | none =>
    rw [command] at leads
    obtain ⟨rfl, rfl⟩ := Action.leads_pure.1 leads
    exact .unverified command
  | some words =>
    rw [command] at leads
    dsimp only at leads
    rw [Action.leads_bind] at leads
    obtain ⟨e, verifying, rfl⟩ | ⟨_, done, verifying, leads⟩ := leads
    · obtain ⟨execution, ran, ⟨-, ⟨⟩⟩ | ⟨fails, ⟨⟩⟩⟩ | ⟨cause, refused, ⟨⟩, same⟩ :=
        leads_verify verifying
      · exact .failed command ran fails
      · rw [same]
        exact .unstarted command refused
    · obtain ⟨execution, ran, ⟨succeeds, -⟩ | ⟨-, ⟨⟩⟩⟩ | ⟨_, -, ⟨⟩, -⟩ := leads_verify verifying
      obtain ⟨rfl, rfl⟩ := Action.leads_pure.1 leads
      exact .verified command ran succeeds

theorem leads_generateInto_rejected {settings : Settings} {e : Error}
    (rejected : generate protocol settings.importRoot = .error e)
    {result : Except RunError Summary}
    (leads : (generateInto m settings protocol).Leads first result last) :
    result = .error (.generation e) ∧ last.machine = first.machine := by
  rw [generateInto, Action.leads_bind] at leads
  obtain ⟨_, failed, rfl⟩ | ⟨_, _, generating, -⟩ := leads
  · obtain ⟨same, untouched⟩ := leads_emit failed
    rw [rejected] at same
    exact ⟨congrArg _ (Except.error.inj same), untouched⟩
  · nomatch rejected ▸ (leads_emit generating).1

/-- Nothing is written of a protocol that cannot be generated. Otherwise the files are written in
order, each as the formatter leaves it; a refusal of the machine keeps those before it, and when all
are written the verification decides how the run ends. -/
theorem generateInto_writes (settings : Settings) (protocol : Protocol) {view : m.FileView π}
    {outcome : String → Except FormatError String}
    (formats : view.Formats settings.formatter outcome) :
    let writeAll := Materialize.writeAll m settings.formatter settings.dest
    (∀ e first result last, generate protocol settings.importRoot = .error e →
      (generateInto m settings protocol).Leads first result last →
        result = .error (.generation e) ∧ last.machine = first.machine) ∧
    (∀ files first result last, generate protocol settings.importRoot = .ok files →
      (generateInto m settings protocol).Leads first result last →
        ∃ start, start.machine = first.machine ∧ ∃ written next,
          (writeAll files {}).Leads start written next ∧
            (∀ e, written = .error e → result = .error e ∧ last = next) ∧
            ∀ stats, written = .ok stats →
              Concludes m settings protocol.domains.length stats next.machine result
                last.machine) ∧
    (∀ files first stats last, view.Valid first.machine →
      (writeAll files {}).Leads first (.ok stats) last →
        Materialize.Written view outcome settings.dest files first.machine last.machine {} stats) ∧
    ∀ files first e last, view.Valid first.machine →
      (writeAll files {}).Leads first (.error e) last →
        Materialize.Interrupted view outcome settings.dest files first.machine last.machine {} e :=
  ⟨fun _ _ _ _ rejected leads => leads_generateInto_rejected rejected leads,
    fun _ _ _ _ accepted leads => leads_generateInto accepted leads,
    fun _ _ _ _ => .writeAll formats, fun _ _ _ _ => .writeAll formats⟩

section Sample

structure Shelf where
  files : String → Option String := fun _ => none
  directories : List String := []

/-- A machine whose formatter leaves balanced text as it is and rejects all other. -/
def shelf : Machine Shelf where
  read path state :=
    match state.files path with
    | some text => .ok text
    | none => .error .noEntry
  createDirectories path state :=
    if (state.files path).isSome then .error .exists
    else .ok { state with directories := path :: state.directories }
  write path text state :=
    if path ∈ state.directories then .error .isDirectory
    else .ok { state with files := Function.update state.files path (some text) }
  execute invocation state := .ok (balance invocation.input, state)
where
  balance (text : String) : Execution :=
    if text.toList.count '(' = text.toList.count ')' then ⟨.code 0, Text.utf8 text, [], none⟩
    else ⟨.code 2, [], Text.utf8 "unbalanced", none⟩

def shelfView : shelf.FileView String where
  Valid _ := True
  place := some
  content := Shelf.files
  isDirectory state path := path ∈ state.directories
  above path := [path]
  valid_write _ _ := trivial
  content_write {path text state next} _ written := by
    simp only [shelf] at written
    split at written
    · cases written
    · obtain rfl := Except.ok.inj written
      funext other
      by_cases same : path = other
      · subst same
        simp [stored]
      · simp [stored, same, Function.update_of_ne (Ne.symm same)]
  isDirectory_write {path text state next} _ written := by
    simp only [shelf] at written
    split at written
    · cases written
    · exact Except.ok.inj written ▸ rfl
  valid_createDirectories _ _ := trivial
  content_createDirectories {path state next} _ created := by
    simp only [shelf] at created
    split at created
    · cases created
    · exact Except.ok.inj created ▸ rfl
  isDirectory_createDirectories {path state next} _ created name := by
    simp only [shelf] at created
    split at created
    · cases created
    · obtain rfl := Except.ok.inj created
      simp [or_comm]

def sampleFiles : List SourceFile :=
  [{ path := "a.go", package := "a" },
   { path := "b.go", package := "b", items := [{ decl := .verbatim [] "var b = (1)" }] },
   { path := "c.go", package := "c", items := [{ decl := .verbatim [] "var c = (1" }] }]

def sampleSettings : Settings where
  dest := "out"
  importRoot := "r"
  browserProtocol := ""
  jsProtocol := ""
  formatter := some "gofmt"
  verifyCommand := none
  logLevel := .info

def sampleOutcome (text : String) : Except FormatError String :=
  FormatError.ofExecution "gofmt" (.ok (shelf.balance text))

theorem shelf_formats : shelfView.Formats sampleSettings.formatter sampleOutcome where
  formatted _ := rfl
  untouched := by
    rintro _ _ _ _ _ - - ⟨⟩
    exact ⟨trivial, rfl, rfl⟩

/-- One file is empty, and the formatter rejects one of the others. -/
theorem generateInto_writes_shelf :
    shelfView.Formats sampleSettings.formatter sampleOutcome ∧ shelfView.Valid {} ∧
      ∃ last, (Materialize.writeAll shelf sampleSettings.formatter sampleSettings.dest sampleFiles
          {}).Leads ⟨{}, []⟩ (.ok ⟨2, 1, 1⟩) last ∧
        Materialize.Written shelfView sampleOutcome sampleSettings.dest sampleFiles {} last.machine
          {} ⟨2, 1, 1⟩ := by
  let writing : Action Shelf WriteStats :=
    Materialize.writeAll shelf sampleSettings.formatter sampleSettings.dest sampleFiles {}
  have counted : (writing.run.run ⟨{}, []⟩).run.1.toOption = some ⟨2, 1, 1⟩ := by decide +kernel
  have succeeds : (writing.run.run ⟨{}, []⟩).run.1 = .ok ⟨2, 1, 1⟩ := by
    cases ended : (writing.run.run ⟨{}, []⟩).run.1 with
    | ok stats => rw [ended] at counted; exact congrArg _ (Option.some.inj counted)
    | error e => rw [ended] at counted; cases counted
  have leads : writing.Leads ⟨{}, []⟩ (.ok ⟨2, 1, 1⟩) (writing.run.run ⟨{}, []⟩).run.2 :=
    Action.leads_iff.2 ⟨succeeds.symm, rfl⟩
  exact ⟨shelf_formats, trivial, _, leads,
    (generateInto_writes sampleSettings { domains := [] } shelf_formats).2.2.1 _ _ _ _ trivial
      leads⟩

end Sample

end Run

end Bindings
