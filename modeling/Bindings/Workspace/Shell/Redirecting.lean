import Bindings.Workspace.Shell.Expansion

/-! Redirections.

All operands are expanded before anything is opened.
-/

set_option autoImplicit false

namespace Bindings.Workspace.Shell

inductive Target where
  | file (access : System.Access) (name : String)
  | copy (descriptor : Nat)
  | closed
  | text (content : String)

def openComplaint (access : System.Access) (name : String) (refusal : OsError) : String :=
  let isMissing := refusal = .noEntry || refusal = .notDirectory
  if access = .read then
    "cannot open " ++ name ++ ": " ++ if isMissing then "No such file" else refusal.reason.2
  else
    "cannot create " ++ name ++ ": "
      ++ if isMissing then "Directory nonexistent" else refusal.reason.2

def targetOf (substitution : Substitution) : Redirection → Effect (Nat × Target)
  | .mk descriptor (.file access) operand => do
    return (descriptor, .file access (← expandWhole substitution operand))
  | .mk descriptor (.document number) _ => do
    let text := ((← get).documents.lookup number).getD []
    return (descriptor, .text (← expandWhole substitution text))
  | .mk descriptor .copy operand => do
    match (← expandWhole substitution operand).toList with
    | ['-'] => return (descriptor, .closed)
    | [c] => if c.isDigit then return (descriptor, .copy (c.toNat - '0'.toNat)) else mistake
    | _ => mistake
where
  mistake : Effect (Nat × Target) := fail "Syntax error: Bad fd number"

def setDescriptor (descriptor : Nat) (channel : Option Nat) : Effect Unit :=
  modify fun shell =>
    let others := shell.descriptors.filter (·.1 ≠ descriptor)
    { shell with descriptors := match channel with
      | some channel => (descriptor, channel) :: others
      | none => others }

def attach (descriptor : Nat) (channel : Channel) : Effect Unit := do
  let shell ← get
  let (number, system) := shell.system.attach channel
  set { shell with system := system }
  setDescriptor descriptor (some number)

def copyDescriptor (descriptor other : Nat) : Effect Unit := do
  match (← get).descriptors.lookup other with
  | some channel => setDescriptor descriptor (some channel)
  | none => fail (toString other ++ ": Bad file descriptor")

/-- A file that another one with its name keeps from being created. -/
def isKept (access : System.Access) (entry : Option Entry) : Effect Bool := do
  let isFile := match entry with
    | some (.file _ _) => true
    | some (.utility _) => true
    | _ => false
  return access = .replace && isFile && (← hasOption 'C')

def redirect (descriptor : Nat) : Target → Effect Unit
  | .closed => setDescriptor descriptor none
  | .copy other => copyDescriptor descriptor other
  | .text content => attach descriptor (.source (Octets.toBytes content))
  | .file access name => do
    let shell ← get
    let text := Octets.toText name
    let entry := match shell.system.tree.locate shell.directory text with
      | .ok path => shell.system.tree.get? path
      | .error _ => none
    match entry with
    | some (.opened other) => copyDescriptor descriptor other
    | entry =>
      if ← isKept access entry then fail (openComplaint access name .exists)
      match shell.system.openFile shell.directory text access with
      | .ok (number, system) =>
        set { shell with system := system }
        setDescriptor descriptor (some number)
      | .error refusal => fail (openComplaint access name refusal)

/-- What becomes of an effect, which may interrupt the run. -/
def observe {α : Type} (effect : Effect α) : Effect (Except Interrupt α) := fun shell =>
  let (result, after) := effect.run shell
  (.ok result, after)

def redirectAll (targets : List (Nat × Target)) : Effect Bool := do
  match ← observe (targets.forM fun target => redirect target.1 target.2) with
  | .ok _ => return true
  | .error .failure => return false
  | .error other => throw other

/-- Run an effect and put the descriptors back to what they were, however it ends. -/
def keepingDescriptors {α : Type} (effect : Effect α) : Effect α := do
  let descriptors := (← get).descriptors
  let result ← observe effect
  modify ({ · with descriptors := descriptors })
  liftExcept result
where
  liftExcept (result : Except Interrupt α) : Effect α :=
    match result with
    | .ok value => return value
    | .error interrupt => throw interrupt

end Bindings.Workspace.Shell
