import Bindings.Emission.RootPackage
import Bindings.Protocol.Merge

/-! All source files of the bindings for a protocol. -/

set_option autoImplicit false

namespace Bindings

open Emission (SharedPackage domainPackage)
open Go (SourceFile)

/-- What is known about a protocol before anything is emitted: its references resolve, its packages
do not import each other in a loop, and its exempt types are determined. -/
def prepare (protocol : Protocol) : Except Error Exemptions := do
  let graph ← ImportGraph.ofProtocol protocol
  graph.check
  Exemptions.ofProtocol protocol

def sharedFiles (shared : SharedPackage) : List SourceFile :=
  [shared.chunk.file "protocol/internal/types.go" "internal", Emission.opErrorFile]

abbrev Emitted := SharedPackage × List (List SourceFile)

def emitDomains (protocol : Protocol) (root : String) (exemptions : Exemptions) :
    Except Error Emitted :=
  thread (domainPackage root exemptions) {} (sortByName protocol.domains)

/-- The domains whose packages can be emitted before the first error. -/
def emittedDomains (protocol : Protocol) (root : String) (exemptions : Exemptions) :
    List Domain :=
  completed (domainPackage root exemptions) {} (sortByName protocol.domains)

/-- The files in order: domain packages by name, the shared package, the top-level package, the test
transport. -/
def assemble (protocol : Protocol) (root : String) (emitted : Emitted) :
    Except Error (List SourceFile) := do
  let top ← Emission.rootFiles root protocol.version (sortByName protocol.domains)
  return emitted.2.flatten ++ sharedFiles emitted.1 ++ top ++ [Emission.transportFile root]

def generate (protocol : Protocol) (root : String) : Except Error (List SourceFile) := do
  let exemptions ← prepare protocol
  let emitted ← emitDomains protocol root exemptions
  assemble protocol root emitted

end Bindings
