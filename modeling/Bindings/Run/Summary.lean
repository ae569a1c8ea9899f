/-! Counts of a run. -/

set_option autoImplicit false

namespace Bindings

/-- Files by what became of them. An unformatted file was written as it was emitted. -/
structure WriteStats where
  written : Nat := 0
  unformatted : Nat := 0
  skipped : Nat := 0
  deriving DecidableEq

structure Summary where
  domains : Nat
  files : WriteStats
  verified : Bool
  deriving DecidableEq

def Summary.text (s : Summary) : String :=
  toString s.domains ++ " domain(s), " ++ toString s.files.written ++ " file(s) written, "
    ++ toString s.files.unformatted ++ " unformatted, " ++ toString s.files.skipped
    ++ " empty skipped" ++ if s.verified then ", verified" else ""

end Bindings
