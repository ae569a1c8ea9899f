import Bindings.Emission.Fixed
import Bindings.Proofs.Go.Containment

/-! What fixed source text declares.

Fixed text is given line by line, and read line by line. So what it declares can be found from the
lines, without the text that they are joined to.
-/

set_option autoImplicit false

namespace Bindings

namespace Text

theorem splitWhere_line {line : List Char} (rest : List Char) (plain : '\n' ∉ line) :
    splitWhere (· == '\n') (line ++ '\n' :: rest) = line :: splitWhere (· == '\n') rest := by
  induction line with
  | nil => simp [splitWhere]
  | cons c line ih =>
    obtain ⟨other, others⟩ := not_or.1 (fun h => plain (List.mem_cons.2 h))
    have kept : (c == '\n') = false := beq_false_of_ne (Ne.symm other)
    rw [List.cons_append, splitWhere, kept, ih others]
    rfl

/-- Joined lines that each end are read back line by line; nothing follows the last one. -/
theorem splitWhere_joinLines {first : String} {others : List String}
    (plain : ∀ line ∈ first :: others, '\n' ∉ line.toList) :
    splitWhere (· == '\n') (joinLines (first :: others) ++ "\n").toList =
      (first :: others).map String.toList ++ [[]] := by
  induction others generalizing first with
  | nil =>
    have ends := splitWhere_line [] (plain first List.mem_cons_self)
    simpa [joinLines, splitWhere] using ends
  | cons second others ih =>
    have later := ih fun line member => plain line (List.mem_cons_of_mem first member)
    have spelled : (joinLines (first :: second :: others) ++ "\n").toList =
        first.toList ++ '\n' :: (joinLines (second :: others) ++ "\n").toList := by
      simp [joinLines, String.intercalate_cons_cons]
    rw [spelled, splitWhere_line _ (plain first List.mem_cons_self), later]
    rfl

end Text

namespace Emission

open Go (Item TypeExpr)

/-- What an item declares: identifiers of its package, structs by the names of their fields, and
types. -/
structure Declares (item : Item) (names : List String) (structs : List (List String))
    (definitions : List (String × TypeExpr)) : Prop where
  names : item.decl.names = names
  structs : item.decl.structs = structs
  definitions : item.decl.definitions = definitions

variable {listed : List String} {first : String} {others : List String}

/-- What fixed text declares is what stands in the lines it is given by. -/
theorem Declares.of_lines {lines : List (List Char)} {names : List String}
    {structs : List (List String)} {definitions : List (String × TypeExpr)}
    (spelled : (first :: others).map String.toList = lines)
    (plain : ∀ line ∈ lines, '\n' ∉ line)
    (named : (lines ++ [[]]).filterMap Go.identOfLine? = names)
    (fielded : Go.structsOfLines (lines ++ [[]]) = structs)
    (defined : Go.definitionsOfLines (lines ++ [[]]) = definitions) :
    Declares (fixedSource listed (first :: others)) names structs definitions := by
  subst spelled
  rw [← Text.splitWhere_joinLines fun line member => plain _ (List.mem_map_of_mem member)]
    at named fielded defined
  exact ⟨named, fielded, defined⟩

/-- Each line that fixed text is given by is a line of the text. -/
theorem line_mem_fixedSource (plain : ∀ line ∈ (first :: others).map String.toList, '\n' ∉ line)
    {line : String} (member : line ∈ first :: others) :
    ∃ text, fixedSource listed (first :: others) = ⟨.verbatim listed text, false⟩ ∧
      line.toList ∈ Text.splitWhere (· == '\n') text.toList := by
  refine ⟨_, rfl, ?_⟩
  rw [Text.splitWhere_joinLines fun line member => plain _ (List.mem_map_of_mem member)]
  exact List.mem_append_left _ (List.mem_map_of_mem member)

-- The literals are turned into lists of characters first: evaluating them as texts takes long.

theorem declares_opErrorSource :
    Declares opErrorSource ["OpError"] [["Domain", "Op", "Err"]]
      [("OpError", .struct
        [.mk [] "Domain" (.named "string") none, .mk [] "Op" (.named "string") none,
         .mk [] "Err" (.named "error") none])] := by
  apply Declares.of_lines
  case spelled =>
    simp only [List.map_cons, List.map_nil]
    repeat rewrite [String.toList_ofList]
    rfl
  case defined => rfl
  all_goals decide

theorem declares_errorCauseSource : Declares errorCauseSource ["ErrorCause"] [] [] := by
  apply Declares.of_lines
  case spelled =>
    simp only [List.map_cons, List.map_nil]
    repeat rewrite [String.toList_ofList]
    rfl
  case defined => rfl
  all_goals decide

theorem unwraps_errorCauseSource :
    ∃ text, errorCauseSource = ⟨.verbatim ["ErrorCause"] text, false⟩ ∧
      "\t\tcause := errors.Unwrap(err)".toList ∈ Text.splitWhere (· == '\n') text.toList := by
  refine line_mem_fixedSource ?_ (by simp)
  simp only [List.map_cons, List.map_nil]
  repeat rw [String.toList_ofList]
  decide

theorem declares_transportSource :
    Declares transportSource ["Transport", "NewTransport", "codec", "pipe"]
      [["Conn", "mu", "err", "out", "done", "closeOnce"], ["tr"], ["tr"]]
      [("Transport", .struct
        [.mk [] "Conn" (.pointer (.named "rpcc.Conn")) none,
         .mk [] "mu" (.imported ⟨"sync", "sync"⟩ "Mutex") none,
         .mk [] "err" (.pointer (.named "rpcc.ResponseError")) none,
         .mk [] "out" (.named "chan") none, .mk [] "done" (.named "chan") none,
         .mk [] "closeOnce" (.imported ⟨"sync", "sync"⟩ "Once") none]),
       ("codec", .struct [.mk [] "tr" (.pointer (.named "Transport")) none]),
       ("pipe", .struct [.mk [] "tr" (.pointer (.named "Transport")) none])] := by
  apply Declares.of_lines
  case spelled =>
    simp only [List.map_cons, List.map_nil]
    repeat rewrite [String.toList_ofList]
    rfl
  case defined => rfl
  all_goals decide

end Emission

end Bindings
