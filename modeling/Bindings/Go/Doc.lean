/-! Doc comments under construction. -/

set_option autoImplicit false

namespace Bindings.Go

/-- Lines of a doc comment; `described` tells whether they say more than the leading line. -/
structure Doc where
  lines : List String
  described : Bool
  deriving DecidableEq

namespace Doc

/-- The leading text with the first line of a description beside it and the others below. -/
def ofLead (lead : String) : (description : List String) → Doc
  | [] => ⟨[lead], false⟩
  | first :: others =>
    let line :=
      if first.isEmpty then lead else if lead.isEmpty then first else lead ++ " " ++ first
    ⟨line :: others, true⟩

def paragraph (doc : Doc) (lines : List String) : Doc :=
  if lines.isEmpty then doc else ⟨doc.lines ++ "" :: lines, true⟩

def notes (doc : Doc) (subject : String) (experimental deprecated : Bool) : Doc :=
  let doc :=
    if experimental then doc.paragraph ["Note: This " ++ subject ++ " is experimental."] else doc
  if deprecated then doc.paragraph ["Deprecated: This " ++ subject ++ " is deprecated."] else doc

end Doc

end Bindings.Go
