import Bindings.Log.Directive

/-! Which events are shown.

A filter is a list of directives, separated by commas. Of those that concern an event
the most specific one decides.
-/

set_option autoImplicit false

namespace Bindings.Log

structure Filter where
  directives : List Directive
  deriving DecidableEq

namespace Filter

def ofLevel (level : Level) : Filter := ⟨[⟨none, [], level⟩]⟩

/-- Read a filter; none at all stands for errors only. -/
def ofText? (text : String) : Option Filter := do
  let parts := Text.fields (· == ',') text.toList
  if parts.isEmpty then return ofLevel .error
  let directives ← parts.mapM Directive.ofText?
  return ⟨directives.filterMap id⟩

/-- The most specific directive for an event; of two equally specific ones the later. -/
def directive? (filter : Filter) (event : Event) : Option Directive :=
  (filter.directives.filter (·.concerns event)).foldl (fun best directive =>
    match best with
    | some other => some (if directive.isLessSpecific other then other else directive)
    | none => some directive) none

def shows (filter : Filter) (event : Event) : Bool :=
  match filter.directive? event with
  | some directive => directive.level ≠ .off && directive.level.rank ≤ event.level.rank
  | none => false

end Filter

def Event.line (event : Event) : String := event.level.label ++ " " ++ event.text

end Bindings.Log
