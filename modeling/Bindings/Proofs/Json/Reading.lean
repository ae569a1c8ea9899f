import Bindings.Json.Reader

/-! Reading a text gives back the value that was written.

Numbers are left out: their text is that of what they are read as, not of how they were written.
-/

set_option autoImplicit false

namespace Bindings.Json

open Text (escape hexDigit quote quoteChars)

section Strings

theorem hexWord?_control : ∀ n < 32,
    hexWord? '0' '0' (hexDigit (n / 16)) (hexDigit (n % 16)) = some n := by
  decide

/-- What a character is escaped to is read as that character. -/
theorem readPoints_escape (c : Char) (rest : List Char) (points : List Nat) :
    readPoints (escape c ++ rest) points = readPoints rest (c.toNat :: points) := by
  unfold escape
  split
  · subst_vars; rfl
  split
  · subst_vars; rfl
  split
  · subst_vars; rfl
  split
  · subst_vars; rfl
  split
  · subst_vars; rfl
  split
  · subst_vars; rfl
  split
  · subst_vars; rfl
  split
  · next control =>
    simp only [List.cons_append, List.nil_append]
    rw [readPoints, hexWord?_control c.toNat control]
  · next noQuote noSlash _ _ _ _ _ noControl =>
    rw [List.cons_append, List.nil_append, readPoints]
    · rw [if_neg noControl]
    all_goals simp_all

/-- What is written character by character is read up to the closing quote. -/
theorem readPoints_flatMap {write : Char → List Char}
    (each : ∀ (c : Char) (rest : List Char) (points : List Nat),
      readPoints (write c ++ rest) points = readPoints rest (c.toNat :: points))
    (text rest : List Char) (points : List Nat) :
    readPoints (text.flatMap write ++ '"' :: rest) points =
      some ((text.map Char.toNat).reverse ++ points, rest) := by
  induction text generalizing points with
  | nil => rfl
  | cons c text ih =>
    rw [List.flatMap_cons, List.append_assoc, each, ih, List.map_cons, List.reverse_cons,
      List.append_assoc, List.singleton_append]

theorem isLow_toNat (c : Char) : isLow c.toNat = false := by
  have valid : c.toNat.isValidChar := c.valid
  simp only [Nat.isValidChar] at valid
  simp only [isLow, Bool.and_eq_false_iff, decide_eq_false_iff_not]
  omega

theorem isHigh_toNat (c : Char) : isHigh c.toNat = false := by
  have valid : c.toNat.isValidChar := c.valid
  simp only [Nat.isValidChar] at valid
  simp only [isHigh, Bool.and_eq_false_iff, decide_eq_false_iff_not]
  omega

/-- No character is half of a pair, so each is kept as it is. -/
theorem joinPoints_map_toNat (reversed text : List Char) :
    joinPoints (reversed.map Char.toNat) text = some (reversed.reverse ++ text) := by
  induction reversed generalizing text with
  | nil => rfl
  | cons c reversed ih =>
    have kept : joinPoints ((c :: reversed).map Char.toNat) text =
        joinPoints (reversed.map Char.toNat) (c :: text) := by
      cases reversed <;> simp [joinPoints, isLow_toNat, isHigh_toNat]
    rw [kept, ih, List.reverse_cons, List.append_assoc, List.singleton_append]

theorem readString_flatMap {write : Char → List Char}
    (each : ∀ (c : Char) (rest : List Char) (points : List Nat),
      readPoints (write c ++ rest) points = readPoints rest (c.toNat :: points))
    (text rest : List Char) :
    readString (text.flatMap write ++ '"' :: rest) = some (some (.ofList text), rest) := by
  rw [readString, readPoints_flatMap each, List.append_nil, ← List.map_reverse, Option.map_some,
    joinPoints_map_toNat, List.reverse_reverse, List.append_nil, Option.map_some]

theorem toList_quote (text : String) :
    (quote text).toList = '"' :: (text.toList.flatMap escape ++ ['"']) := by
  rw [quote, String.toList_ofList, quoteChars]

end Strings

mutual
def Value.isNumberless : Value → Bool
  | .number _ => false
  | .array items => items.isNumberless
  | .object members => members.isNumberless
  | _ => true

def Values.isNumberless : Values → Bool
  | .nil => true
  | .cons head tail => head.isNumberless && tail.isNumberless

def Pairs.isNumberless : Pairs → Bool
  | .nil => true
  | .cons _ value tail => value.isNumberless && tail.isNumberless
end

def Pieces.chars (pieces : Pieces) : List Char := pieces.flatMap String.toList

@[simp]
theorem Pieces.chars_cons (piece : String) (rest : Pieces) :
    Pieces.chars (piece :: rest) = piece.toList ++ Pieces.chars rest := rfl

section Lengths

mutual
theorem Value.length_le_pieces : ∀ (v : Value) (rest : Pieces),
    rest.chars.length ≤ (v.pieces rest).chars.length
  | .null, _ | .bool true, _ | .bool false, _ | .number _, _ | .string _, _ | .array .nil, _
  | .object .nil, _ => by
    rw [Value.pieces, Pieces.chars_cons, List.length_append]
    exact Nat.le_add_left _ _
  | .array (.cons head tail), rest => by
    have first := head.length_le_pieces (tail.pieces rest)
    have others := tail.length_lt_pieces rest
    simp only [Value.pieces, Pieces.chars_cons, List.length_append]
    omega
  | .object (.cons key value tail), rest => by
    have first := value.length_le_pieces (tail.pieces rest)
    have others := tail.length_lt_pieces rest
    simp only [Value.pieces, Pieces.chars_cons, List.length_append]
    omega

theorem Values.length_lt_pieces : ∀ (items : Values) (rest : Pieces),
    rest.chars.length < (items.pieces rest).chars.length
  | .nil, rest => Nat.lt_succ_self _
  | .cons head tail, rest => by
    have first := head.length_le_pieces (tail.pieces rest)
    have others := tail.length_lt_pieces rest
    simp only [Values.pieces, Pieces.chars_cons, List.length_append]
    omega

theorem Pairs.length_lt_pieces : ∀ (members : Pairs) (rest : Pieces),
    rest.chars.length < (members.pieces rest).chars.length
  | .nil, rest => Nat.lt_succ_self _
  | .cons key value tail, rest => by
    have first := value.length_le_pieces (tail.pieces rest)
    have others := tail.length_lt_pieces rest
    simp only [Pairs.pieces, Pieces.chars_cons, List.length_append]
    omega
end

end Lengths

section Values

/-- The text of a value starts with none of the characters that are passed over or that close an
array. -/
theorem exists_cons_of_pieces (v : Value) (rest : Pieces) (plain : v.isNumberless = true) :
    ∃ c more, (v.pieces rest).chars = c :: more ∧ isSpace c = false ∧ c ≠ ']' := by
  cases v with
  | null => exact ⟨'n', _, rfl, by decide⟩
  | bool b =>
    cases b with
    | true => exact ⟨'t', _, rfl, by decide⟩
    | false => exact ⟨'f', _, rfl, by decide⟩
  | number n => cases plain
  | string s =>
    rw [Value.pieces, Pieces.chars_cons, toList_quote, List.cons_append]
    exact ⟨'"', _, rfl, by decide⟩
  | array items => cases items <;> exact ⟨'[', _, rfl, by decide⟩
  | object members => cases members <;> exact ⟨'\x7b', _, rfl, by decide⟩

theorem readValue_array {fuel : Nat} {c : Char} {more : List Char} (solid : isSpace c = false)
    (opens : c ≠ ']') :
    readValue (fuel + 1) ('[' :: c :: more) =
      (.array (readItems fuel (c :: more)).1, (readItems fuel (c :: more)).2) := by
  have kept : skipSpace (c :: more) = c :: more := by
    rw [skipSpace, List.dropWhile_cons_of_neg (by simp [solid])]
  have start : skipSpace ('[' :: c :: more) = '[' :: c :: more := rfl
  simp [readValue, start, kept, opens]

theorem readValue_object {fuel : Nat} {more : List Char} :
    readValue (fuel + 1) ('\x7b' :: '"' :: more) =
      (.object (readMembers fuel ('"' :: more)).1, (readMembers fuel ('"' :: more)).2) := by
  rfl

theorem readString_quote (s : String) (rest : List Char) :
    readString (s.toList.flatMap escape ++ '"' :: rest) = some (some s, rest) := by
  rw [readString_flatMap readPoints_escape, String.ofList_toList]

theorem readValue_string {fuel : Nat} {s : String} {rest : List Char} :
    readValue (fuel + 1) ((quote s).toList ++ rest) = (.string s, rest) := by
  rw [toList_quote, List.cons_append, List.append_assoc, List.singleton_append]
  simp [readValue, skipSpace, isSpace, readString_quote]

theorem readMembers_last {fuel : Nat} {key : String} {draft : Draft} {rest more : List Char}
    (found : readValue fuel rest = (draft, '\x7d' :: more)) :
    readMembers (fuel + 1) ((quote key).toList ++ ':' :: rest) =
      (.member (some key) draft .done, more) := by
  rw [toList_quote, List.cons_append, List.append_assoc, List.singleton_append]
  simp [readMembers, skipSpace, isSpace, readString_quote, found]

theorem readMembers_next {fuel : Nat} {key : String} {draft : Draft} {rest more : List Char}
    (found : readValue fuel rest = (draft, ',' :: more)) :
    readMembers (fuel + 1) ((quote key).toList ++ ':' :: rest) =
      (.member (some key) draft (readMembers fuel more).1, (readMembers fuel more).2) := by
  rw [toList_quote, List.cons_append, List.append_assoc, List.singleton_append]
  simp [readMembers, skipSpace, isSpace, readString_quote, found]

/-- With this fuel, whatever is short enough is read as what was written. -/
structure Inverts (fuel : Nat) : Prop where
  value : ∀ (v : Value) (rest : Pieces), v.isNumberless = true →
    (v.pieces rest).chars.length < fuel + rest.chars.length →
      readValue fuel (v.pieces rest).chars = (v.draft, rest.chars)
  items : ∀ (head : Value) (tail : Values) (rest : Pieces), head.isNumberless = true →
    tail.isNumberless = true →
      (head.pieces (tail.pieces rest)).chars.length < fuel + rest.chars.length →
        readItems fuel (head.pieces (tail.pieces rest)).chars =
          (.item head.draft tail.drafts, rest.chars)
  members : ∀ (key : String) (value : Value) (tail : Pairs) (rest : Pieces),
    value.isNumberless = true → tail.isNumberless = true →
      (value.pieces (tail.pieces rest)).chars.length < fuel + rest.chars.length →
        readMembers fuel (Pieces.chars (quote key :: ":" :: value.pieces (tail.pieces rest))) =
          (.member (some key) value.draft tail.drafts, rest.chars)

namespace Inverts
variable {fuel : Nat}

theorem zero : Inverts 0 where
  value v rest _ short := by
    have := v.length_le_pieces rest
    omega
  items head tail rest _ _ short := by
    have := head.length_le_pieces (tail.pieces rest)
    have := tail.length_lt_pieces rest
    omega
  members key value tail rest _ _ short := by
    have := value.length_le_pieces (tail.pieces rest)
    have := tail.length_lt_pieces rest
    omega

theorem readValue_succ (inverts : Inverts fuel) (v : Value) (rest : Pieces)
    (plain : v.isNumberless = true)
    (short : (v.pieces rest).chars.length < fuel + 1 + rest.chars.length) :
    readValue (fuel + 1) (v.pieces rest).chars = (v.draft, rest.chars) := by
  cases v with
  | null => rfl
  | bool b => cases b <;> rfl
  | number n => cases plain
  | string s => exact readValue_string
  | array items =>
    cases items with
    | nil => rfl
    | cons head tail =>
      simp only [Value.isNumberless, Values.isNumberless, Bool.and_eq_true] at plain
      have shorter : (head.pieces (tail.pieces rest)).chars.length < fuel + rest.chars.length := by
        rw [Value.pieces, Pieces.chars_cons, List.length_append] at short
        change 1 + _ < _ at short
        omega
      have inner := inverts.items head tail rest plain.1 plain.2 shorter
      obtain ⟨c, more, first, solid, opens⟩ :=
        exists_cons_of_pieces head (tail.pieces rest) plain.1
      rw [first] at inner
      rw [Value.pieces, Pieces.chars_cons, first]
      change readValue (fuel + 1) ('[' :: c :: more) = _
      rw [readValue_array solid opens, inner]
      rfl
  | object members =>
    cases members with
    | nil => rfl
    | cons key value tail =>
      simp only [Value.isNumberless, Pairs.isNumberless, Bool.and_eq_true] at plain
      have shorter : (value.pieces (tail.pieces rest)).chars.length < fuel + rest.chars.length := by
        simp only [Value.pieces, Pieces.chars_cons, List.length_append] at short
        have : "\x7b".toList.length = 1 := rfl
        omega
      have inner := inverts.members key value tail rest plain.1 plain.2 shorter
      rw [Pieces.chars_cons, toList_quote, List.cons_append] at inner
      rw [Value.pieces, Pieces.chars_cons, Pieces.chars_cons, toList_quote, List.cons_append]
      change readValue (fuel + 1) ('\x7b' :: '"' :: _) = _
      rw [readValue_object, inner]
      rfl

theorem readItems_succ (inverts : Inverts fuel) (head : Value) (tail : Values) (rest : Pieces)
    (plain : head.isNumberless = true) (others : tail.isNumberless = true)
    (short : (head.pieces (tail.pieces rest)).chars.length < fuel + 1 + rest.chars.length) :
    readItems (fuel + 1) (head.pieces (tail.pieces rest)).chars =
      (.item head.draft tail.drafts, rest.chars) := by
  have later := tail.length_lt_pieces rest
  have found := inverts.value head (tail.pieces rest) plain (by omega)
  rw [readItems, found]
  cases tail with
  | nil => rfl
  | cons second tail =>
    simp only [Values.isNumberless, Bool.and_eq_true] at others
    have shorter : (second.pieces (tail.pieces rest)).chars.length < fuel + rest.chars.length := by
      have := head.length_le_pieces ((Values.cons second tail).pieces rest)
      simp only [Values.pieces, Pieces.chars_cons, List.length_append] at short this
      have : ",".toList.length = 1 := rfl
      omega
    have inner := inverts.items second tail rest others.1 others.2 shorter
    rw [Values.pieces, Pieces.chars_cons]
    change (Items.item head.draft (readItems fuel (second.pieces (tail.pieces rest)).chars).1,
      (readItems fuel (second.pieces (tail.pieces rest)).chars).2) = _
    rw [inner]
    rfl

theorem readMembers_succ (inverts : Inverts fuel) (key : String) (value : Value) (tail : Pairs)
    (rest : Pieces) (plain : value.isNumberless = true) (others : tail.isNumberless = true)
    (short : (value.pieces (tail.pieces rest)).chars.length < fuel + 1 + rest.chars.length) :
    readMembers (fuel + 1) (Pieces.chars (quote key :: ":" :: value.pieces (tail.pieces rest))) =
      (.member (some key) value.draft tail.drafts, rest.chars) := by
  have later := tail.length_lt_pieces rest
  have found := inverts.value value (tail.pieces rest) plain (by omega)
  have opened : Pieces.chars (quote key :: ":" :: value.pieces (tail.pieces rest)) =
      (quote key).toList ++ ':' :: (value.pieces (tail.pieces rest)).chars := by
    simp [Pieces.chars_cons]
  rw [opened]
  cases tail with
  | nil => exact readMembers_last found
  | cons next second tail =>
    simp only [Pairs.isNumberless, Bool.and_eq_true] at others
    have shorter : (second.pieces (tail.pieces rest)).chars.length < fuel + rest.chars.length := by
      have := value.length_le_pieces ((Pairs.cons next second tail).pieces rest)
      simp only [Pairs.pieces, Pieces.chars_cons, List.length_append] at short this
      have : ",".toList.length = 1 := rfl
      omega
    have inner := inverts.members next second tail rest others.1 others.2 shorter
    have followed : ((Pairs.cons next second tail).pieces rest).chars =
        ',' :: Pieces.chars (quote next :: ":" :: second.pieces (tail.pieces rest)) := by
      simp [Pairs.pieces, Pieces.chars_cons]
    rw [followed] at found
    rw [readMembers_next found, inner]
    rfl

theorem succ (inverts : Inverts fuel) : Inverts (fuel + 1) where
  value := inverts.readValue_succ
  items := inverts.readItems_succ
  members := inverts.readMembers_succ

end Inverts

theorem inverts (fuel : Nat) : Inverts fuel := by
  induction fuel with
  | zero => exact .zero
  | succ fuel ih => exact ih.succ

/-- The text of a value is read as the draft of that value, and to its end. -/
theorem ofText_valueText {v : Value} (plain : v.isNumberless = true) :
    Document.ofText v.text = ⟨v.draft, true⟩ := by
  have same : v.text.toList = (v.pieces []).chars := String.toList_join
  have read := (inverts (2 * (v.pieces []).chars.length + 2)).value v [] plain
    (by simp only [Pieces.chars, List.flatMap_nil, List.length_nil]; omega)
  rw [Document.ofText, same]
  dsimp only
  rw [read]
  rfl

end Values

end Bindings.Json
