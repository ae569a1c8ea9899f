import Bindings.Protocol.References
import Bindings.Resolution.Reference
import Bindings.SortedList

/-! Which domain packages import which.

The graph keeps its nodes in order and the imports of each node in order, so the
cycle that is found depends on the edges alone.
-/

set_option autoImplicit false

namespace Bindings

structure ImportGraph where
  nodes : List (String × List String) := []

namespace ImportGraph

def alter (name : String) (f : List String → List String) :
    List (String × List String) → List (String × List String)
  | [] => [(name, f [])]
  | (node, imports) :: rest =>
    if name < node then (name, f []) :: (node, imports) :: rest
    else if name = node then (node, f imports) :: rest
    else (node, imports) :: alter name f rest

def addDomain (graph : ImportGraph) (name : String) : ImportGraph :=
  ⟨alter name id graph.nodes⟩

def addEdge (graph : ImportGraph) (source target : String) : ImportGraph :=
  ⟨alter source (insertSorted target) (graph.addDomain target).nodes⟩

def imports (graph : ImportGraph) (name : String) : List String :=
  (graph.nodes.lookup name).getD []

def names (graph : ImportGraph) : List String := graph.nodes.map (·.1)

/-- Depth-first search from a node along `path`, latest first. The answer is a closed path or the
nodes from which there is none. -/
def visit (graph : ImportGraph) : (fuel : Nat) → (path done : List String) → String →
    Except (List String) (List String)
  | 0, _, done, _ => .ok done
  | fuel + 1, path, done, node =>
    if path.contains node then
      .error (node :: (path.takeWhile (· != node)).reverse ++ [node])
    else if done.contains node then .ok done
    else do
      let done ← (graph.imports node).foldlM (visit graph fuel (node :: path)) done
      return node :: done

/-- A path has no more nodes than the graph before it closes. -/
def findCycle? (graph : ImportGraph) : Option (List String) :=
  match graph.names.foldlM (graph.visit (graph.nodes.length + 1) []) [] with
  | .error cycle => some cycle
  | .ok _ => none

def check (graph : ImportGraph) : Except Error Unit :=
  match graph.findCycle? with
  | some cycle => .error (.importCycle cycle)
  | none => .ok ()

def addReference (protocol : Protocol) (domain : String) (graph : ImportGraph) (raw : String) :
    Except Error ImportGraph := do
  let reference ← Reference.resolve raw domain
  let target := (protocol.domain? reference.domain).bind (·.type? reference.name)
  if target.isNone then .error (.unresolvedReference domain raw)
  else
    match reference.scope with
    | .package _ => return graph.addEdge domain reference.domain
    | _ => return graph

def addReferences (protocol : Protocol) (graph : ImportGraph) (domain : Domain) :
    Except Error ImportGraph :=
  domain.references.foldlM (addReference protocol domain.name) (graph.addDomain domain.name)

def ofProtocol (protocol : Protocol) : Except Error ImportGraph :=
  protocol.domains.foldlM (addReferences protocol) {}

end ImportGraph

end Bindings
