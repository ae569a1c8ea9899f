import Bindings.Workspace.Replacing

/-! Patterns: stars, question marks and sets of characters in brackets.

A quoted character stands for itself.
-/

set_option autoImplicit false

namespace Bindings.Workspace

structure PatternChar where
  char : Char
  isQuoted : Bool
  deriving DecidableEq

inductive Member where
  | range (first last : Char)
  | among (members : List Char)

def Member.contains : Member → Char → Bool
  | .range first last, c => first ≤ c && c ≤ last
  | .among members, c => members.contains c

inductive PatternPart where
  | char (c : Char)
  /-- Any character. -/
  | any
  /-- Any characters. -/
  | anything
  | set (isNegated : Bool) (members : List Member)

namespace Pattern

def isSpecial (c : PatternChar) : Bool :=
  !c.isQuoted && ['*', '?', '['].contains c.char

def class? (text : List PatternChar) : Option (List Char × Nat) :=
  (Replacing.classes.find? fun item => item.1.toList.isPrefixOf (text.map (·.char))).map
    fun item => (item.2, item.1.length)

/-- The members of a set up to its closing bracket, and what follows; `fuel` bounds their number.
A bracket that comes first is a member. -/
def members : (fuel : Nat) → (isFirst : Bool) → List PatternChar →
    Option (List Member × List PatternChar)
  | 0, _, _ => none
  | _, _, [] => none
  | fuel + 1, isFirst, first :: rest =>
    if first.char = ']' && !first.isQuoted && !isFirst then some ([], rest)
    else
      let add (member : Member) (rest : List PatternChar) :
          Option (List Member × List PatternChar) :=
        (members fuel false rest).map fun (found, rest) => (member :: found, rest)
      match if first.isQuoted then none else class? (first :: rest) with
      | some (characters, size) => add (.among characters) (rest.drop (size - 1))
      | none =>
        match rest with
        | ⟨'-', false⟩ :: last :: more =>
          if last.char = ']' && !last.isQuoted then add (.range first.char first.char) rest
          else add (.range first.char last.char) more
        | rest => add (.range first.char first.char) rest

/-- The parts of a pattern. A bracket that is never closed stands for itself. -/
def parts : (fuel : Nat) → List PatternChar → List PatternPart
  | 0, _ => []
  | _, [] => []
  | fuel + 1, c :: rest =>
    if c.isQuoted then .char c.char :: parts fuel rest
    else
      match c.char with
      | '*' => .anything :: parts fuel rest
      | '?' => .any :: parts fuel rest
      | '[' =>
        let (isNegated, inner) := match rest with
          | ⟨'!', false⟩ :: inner => (true, inner)
          | inner => (false, inner)
        match members (inner.length + 1) true inner with
        | some (found, rest) => .set isNegated found :: parts fuel rest
        | none => .char '[' :: parts fuel rest
      | c => .char c :: parts fuel rest

def admits (part : PatternPart) (c : Char) : Bool :=
  match part with
  | .char other => c = other
  | .set isNegated members => (members.any (·.contains c)) != isNegated
  | _ => true

def endings : List Char → List (List Char)
  | [] => [[]]
  | c :: rest => (c :: rest) :: endings rest

def fits : List PatternPart → List Char → Bool
  | [], text => text.isEmpty
  | .anything :: rest, text => (endings text).any (fits rest)
  | part :: rest, c :: text => admits part c && fits rest text
  | _ :: _, [] => false

def unescaped : List PatternChar → List PatternChar
  | ⟨'\\', false⟩ :: next :: rest => ⟨next.char, true⟩ :: unescaped rest
  | c :: rest => c :: unescaped rest
  | [] => []

def isMatch (pattern : List PatternChar) (text : List Char) : Bool :=
  fits (parts pattern.length (unescaped pattern)) text

def withoutStart (longest : Bool) (pattern : List PatternChar) (text : List Char) : List Char :=
  let sizes := List.range (text.length + 1)
  let size? := (if longest then sizes.reverse else sizes).find? fun size =>
    isMatch pattern (text.take size)
  text.drop (size?.getD 0)

def withoutEnd (longest : Bool) (pattern : List PatternChar) (text : List Char) : List Char :=
  let sizes := List.range (text.length + 1)
  let size? := (if longest then sizes else sizes.reverse).find? fun size =>
    isMatch pattern (text.drop size)
  text.take (size?.getD text.length)

end Pattern

end Bindings.Workspace
