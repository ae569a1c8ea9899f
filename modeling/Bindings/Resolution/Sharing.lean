import Bindings.Text.Split

/-! Types that live in a shared package.

A few domains refer to each other. Packages cannot import each other in a loop,
so these references lead to a shared package that both sides import.
-/

set_option autoImplicit false

namespace Bindings

/-- One reference of `consumer` that is redirected to `ident` of the shared package. -/
structure SharedType where
  consumer : String
  domain : String
  type : String
  ident : String
  deriving DecidableEq

def SharedType.reference (shared : SharedType) : String := shared.domain ++ "." ++ shared.type

def sharedTypes : List SharedType :=
  [⟨"Network", "Page", "FrameId", "PageFrameID"⟩,
   ⟨"Page", "DOM", "BackendNodeId", "DOMBackendNodeID"⟩,
   ⟨"Security", "Network", "TimeSinceEpoch", "NetworkTimeSinceEpoch"⟩]

/-- The redirection of a reference, `Domain.Type`, as seen from a domain. -/
def sharedFor? (consumer reference : String) : Option SharedType :=
  sharedTypes.find? fun shared => shared.consumer == consumer && shared.reference == reference

def sharedIdent? (domain type : String) : Option String :=
  (sharedTypes.find? fun shared => shared.domain == domain && shared.type == type).map (·.ident)

def sharedTargets : List String :=
  (sharedTypes.map SharedType.reference).mergeSort fun a b => decide (a ≤ b)

end Bindings
