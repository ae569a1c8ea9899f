import Bindings.Text.Split
import Bindings.Name.Exported
import Bindings.Unicode.Blank

/-! Descriptions as documentation: clean lines, corrected spelling, a closing period. -/

set_option autoImplicit false

namespace Bindings.Text

def isLetter (c : Char) : Bool := c.isAlpha

def corrections : List (List Char × List Char) :=
  [("accomodate", "accommodate"), ("acessibility", "accessibility"), ("ammount", "amount"),
    ("seperate", "separate"), ("seperated", "separated"), ("occured", "occurred"),
    ("recieved", "received"), ("similiar", "similar"), ("succesfully", "successfully"),
    ("transfered", "transferred"), ("wich", "which")].map
    fun entry => (entry.1.toList, entry.2.toList)

/-- A word of ASCII letters with its spelling corrected and its initial capital kept. -/
def correctWord (word : List Char) : List Char :=
  match corrections.lookup (Unicode.asciiLowercase word) with
  | some fixed => if word.head?.any Char.isUpper then Name.capitalized fixed else fixed
  | none => word

/-- Correction of every maximal run of letters; `word` is the run that has begun, reversed. -/
def correctAfter (word : List Char) : List Char → List Char
  | [] => correctWord word.reverse
  | c :: rest =>
    if isLetter c then correctAfter (c :: word) rest
    else correctWord word.reverse ++ c :: correctAfter [] rest

def correctChars (text : List Char) : List Char := correctAfter [] text

def correctSpelling (text : String) : String := .ofList (correctChars text.toList)

def squeeze : List Char → List Char
  | [] => []
  | c :: rest =>
    if c = ' ' || c = '\t' then
      match squeeze rest with
      | ' ' :: squeezed => ' ' :: squeezed
      | squeezed => ' ' :: squeezed
    else c :: squeeze rest

/-- Runs of empty lines become one, and none is left at the end. -/
def joinBlankLines : List (List Char) → List (List Char)
  | [] => []
  | line :: rest =>
    if line.isEmpty then
      match joinBlankLines rest with
      | [] => []
      | next :: lines => if next.isEmpty then next :: lines else [] :: next :: lines
    else line :: joinBlankLines rest

def endsSentence (line : List Char) : Bool :=
  (line.getLast?.any fun c => c == '.' || c == '!' || c == '?' || c == ':')
    || "```".toList.isSuffixOf line

def closeSentence : List (List Char) → List (List Char)
  | [] => []
  | [line] => [if endsSentence line then line else line ++ ['.']]
  | line :: rest => line :: closeSentence rest

def descriptionLines (raw : List Char) : List (List Char) :=
  let lines := (splitWhere (· == '\n') raw).map fun line =>
    correctChars (squeeze (Unicode.trim line))
  closeSentence (joinBlankLines (lines.dropWhile List.isEmpty))

def cleanDescription (raw : String) : List String :=
  (descriptionLines raw.toList).map String.ofList

end Bindings.Text
