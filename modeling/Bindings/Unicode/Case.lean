import Bindings.Unicode.CaseTable

/-! Letter case of characters and texts.

Mapping to a case may turn one character into several, and lower-casing a text
writes a capital sigma as a final sigma where it ends a word. On ASCII all of
this is the familiar shift by 32.
-/

set_option autoImplicit false

namespace Bindings.Unicode

def isAscii (c : Char) : Bool := c.toNat < 128

def isUppercase (c : Char) : Bool :=
  if isAscii c then c.isUpper else covered uppercaseSpans c

def isLowercase (c : Char) : Bool :=
  if isAscii c then c.isLower else covered lowercaseSpans c

def isCased (c : Char) : Bool :=
  isUppercase c || isLowercase c || covered titlecaseSpans c

def isCaseIgnorable (c : Char) : Bool := covered caseIgnorableSpans c

def CaseRun.image? (run : CaseRun) (c : Char) : Option Char :=
  if run.source.contains c.toNat then
    some (Char.ofNat (run.target + (c.toNat - run.source.first)))
  else none

/-- Image of a character under an expansion table and, failing that, a run table. -/
def mapCase (expansions : List (Nat × List Nat)) (runs : List CaseRun) (c : Char) : List Char :=
  match expansions.find? fun entry => entry.1 == c.toNat with
  | some entry => entry.2.map Char.ofNat
  | none => [(runs.findSome? fun run => run.image? c).getD c]

def upper (c : Char) : List Char :=
  if isAscii c then [c.toUpper] else mapCase upperExpansions upperRuns c

def lower (c : Char) : List Char :=
  if isAscii c then [c.toLower] else mapCase lowerExpansions lowerRuns c

def uppercase (text : List Char) : List Char := text.flatMap upper

/-- Whether the nearest character that is not case-ignorable is a cased one. -/
def meetsCased (text : List Char) : Bool :=
  (text.dropWhile isCaseIgnorable).head?.any isCased

/-- Lower case of `text` after `before`, which is given nearest character first. -/
def lowercaseAfter (before : List Char) : List Char → List Char
  | [] => []
  | c :: rest =>
    let image :=
      if c = 'Σ' then if meetsCased before && !meetsCased rest then ['ς'] else ['σ'] else lower c
    image ++ lowercaseAfter (c :: before) rest

def lowercase (text : List Char) : List Char := lowercaseAfter [] text

def asciiLowercase (text : List Char) : List Char := text.map Char.toLower

theorem upper_of_isAscii {c : Char} (h : isAscii c = true) : upper c = [c.toUpper] := by
  simp [upper, h]

theorem lower_of_isAscii {c : Char} (h : isAscii c = true) : lower c = [c.toLower] := by
  simp [lower, h]

theorem isUppercase_of_isAscii {c : Char} (h : isAscii c = true) : isUppercase c = c.isUpper := by
  simp [isUppercase, h]

theorem isLowercase_of_isAscii {c : Char} (h : isAscii c = true) : isLowercase c = c.isLower := by
  simp [isLowercase, h]

end Bindings.Unicode
