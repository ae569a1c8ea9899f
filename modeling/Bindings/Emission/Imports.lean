import Bindings.Go.Tree

/-! The packages that generated files import, under the import root of the bindings. -/

set_option autoImplicit false

namespace Bindings.Emission

open Go (Package)

namespace Imports

def standard (path name : String) : Package := ⟨path, name⟩

def context : Package := standard "context" "context"

def json : Package := standard "encoding/json" "json"

def errors : Package := standard "errors" "errors"

def fmt : Package := standard "fmt" "fmt"

def strings : Package := standard "strings" "strings"

def testing : Package := standard "testing" "testing"

def time : Package := standard "time" "time"

def rpcc (root : String) : Package := ⟨root ++ "/rpcc", "rpcc"⟩

def domain (root package : String) : Package := ⟨root ++ "/protocol/" ++ package, package⟩

def internal (root : String) : Package := domain root "internal"

def testutil (root : String) : Package := ⟨root ++ "/internal/testutil", "testutil"⟩

end Imports

/-- A path extended by a part: an absolute part stands alone, and one separator joins them. -/
def joinPath (base part : String) : String :=
  if part.startsWith "/" || base.isEmpty then part
  else if base.endsWith "/" then base ++ part
  else base ++ "/" ++ part

end Bindings.Emission
