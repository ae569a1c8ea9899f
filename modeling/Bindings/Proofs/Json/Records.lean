import Bindings.Protocol.Reader
import Bindings.Protocol.Writer

/-! Reading a record from the members that were written for it.

A record comes back if the entry of each field does: a value is read as what it was written for,
and where an entry is left out, the blank record already holds what the field has.
-/

set_option autoImplicit false

namespace Bindings.Json

variable {α β : Type}

section Depth

mutual
/-- How many arrays and objects are open at once in the text of a value. -/
def Value.depth : Value → Nat
  | .array items => items.depth + 1
  | .object members => members.depth + 1
  | _ => 0

def Values.depth : Values → Nat
  | .nil => 0
  | .cons head tail => max head.depth tail.depth

def Pairs.depth : Pairs → Nat
  | .nil => 0
  | .cons _ value tail => max value.depth tail.depth
end

theorem depth_lt_ofList {f : α → Value} {xs : List α} {x : α} (member : x ∈ xs) :
    (f x).depth < (Value.ofList f xs).depth := by
  rw [Value.ofList, Value.depth, Nat.lt_succ_iff]
  induction xs with
  | nil => cases member
  | cons head xs ih =>
    rw [List.map_cons, Values.ofList, Values.depth]
    rcases List.mem_cons.1 member with rfl | member
    · exact Nat.le_max_left _ _
    · exact Nat.le_trans (ih member) (Nat.le_max_right _ _)

theorem depth_lt_members {entries : List (String × Option Value)} {key : String} {v : Value}
    (member : (key, some v) ∈ entries) : v.depth < (Value.object (members entries)).depth := by
  rw [Value.depth, Nat.lt_succ_iff]
  induction entries with
  | nil => cases member
  | cons entry entries ih =>
    obtain ⟨other, held⟩ := entry
    rcases List.mem_cons.1 member with same | later
    · obtain ⟨rfl, rfl⟩ := Prod.mk.inj same
      exact Nat.le_max_left _ _
    · cases held with
      | none => exact ih later
      | some w => exact Nat.le_trans (ih later) (Nat.le_max_right _ _)

/-- What a field of a record holds is open for one container less than the record. -/
theorem depth_le_of_mem {entries : List (String × Option Value)}
    {depth : Nat}
    (fits : (Value.object (members entries)).depth ≤ depth + 1) (key : String) {v : Value}
    (member : (key, some v) ∈ entries) : v.depth ≤ depth :=
  Nat.le_of_lt_succ (Nat.lt_of_lt_of_le (depth_lt_members member) fits)

end Depth

section Lists
variable {read : Read α} {encode : α → Value} {xs : List α}

/-- A list is read where each of its elements is. -/
theorem readList_ofList (reads : ∀ x ∈ xs, read (encode x).draft = .ok x) :
    readList read (Value.ofList encode xs).draft = .ok xs := by
  rw [Value.ofList, Value.draft, readList]
  induction xs with
  | nil => rfl
  | cons x xs ih =>
    rw [List.map_cons, Values.ofList, Values.drafts, readEach, reads x List.mem_cons_self,
      ih fun other member => reads other (List.mem_cons_of_mem x member)]
    rfl

theorem readScalars_ofList {depth : Nat} (reads : ∀ x ∈ xs, read (encode x).draft = .ok x)
    (fits : (Value.ofList encode xs).depth ≤ depth) :
    readScalars read depth (Value.ofList encode xs).draft = .ok xs := by
  cases depth with
  | zero => cases fits
  | succ depth => exact readList_ofList reads

end Lists

/-- Entries, one for each field, take a record from one state to another. -/
inductive Restores : List (Field α) → List (String × Option Value) → α → α → Prop where
  | nil (value : α) : Restores [] [] value value
  | present {field : Field α} {fields : List (Field α)} {entries : List (String × Option Value)}
      {v : Value} {before middle after : α} (read : field.read v.draft before = .ok middle)
      (rest : Restores fields entries middle after) :
      Restores (field :: fields) ((field.key, some v) :: entries) before after
  | absent {field : Field α} {fields : List (Field α)} {entries : List (String × Option Value)}
      {before after : α} (optional : field.required = false)
      (rest : Restores fields entries before after) :
      Restores (field :: fields) ((field.key, none) :: entries) before after

theorem find?_key {fields : List (Field α)} (distinct : (fields.map Field.key).Nodup)
    {field : Field α} (member : field ∈ fields) :
    (fields.find? fun other => other.key == field.key) = some field := by
  induction fields with
  | nil => cases member
  | cons head fields ih =>
    rw [List.map_cons, List.nodup_cons] at distinct
    rcases List.mem_cons.1 member with rfl | member
    · simp
    · have apart : head.key ≠ field.key := fun same =>
        distinct.1 (same ▸ List.mem_map_of_mem member)
      rw [List.find?_cons_of_neg (by simpa using apart), ih distinct.2 member]

namespace Restores

/-- Members are read in the order in which they were written, and every key is seen that a field
requires. -/
theorem readMembers {all fields : List (Field α)} {entries : List (String × Option Value)}
    {before after : α} (restores : Restores fields entries before after)
    (distinct : (all.map Field.key).Nodup) (inside : fields ⊆ all)
    (apart : (fields.map Field.key).Nodup) {seen : List String}
    (fresh : ∀ field ∈ fields, field.key ∉ seen) :
    ∃ found, Record.readMembers all (members entries).drafts seen before = .ok (found, after) ∧
      seen ⊆ found ∧ ∀ field ∈ fields, field.required = true → field.key ∈ found := by
  induction restores generalizing seen with
  | nil value => exact ⟨seen, rfl, List.Subset.refl _, nofun⟩
  | @present field fields entries v before middle after read rest ih =>
    rw [List.map_cons, List.nodup_cons] at apart
    have later : ∀ other ∈ fields, other.key ∉ field.key :: seen := by
      intro other member
      rw [List.mem_cons, not_or]
      exact ⟨fun same => apart.1 (same ▸ List.mem_map_of_mem member),
        fresh other (List.mem_cons_of_mem _ member)⟩
    obtain ⟨found, reads, kept, required⟩ :=
      ih (fun _ member => inside (List.mem_cons_of_mem _ member)) apart.2 later
    refine ⟨found, ?_, fun key member => kept (List.mem_cons_of_mem _ member), ?_⟩
    · rw [members, Pairs.drafts, Record.readMembers, find?_key distinct (inside List.mem_cons_self)]
      simp [fresh field List.mem_cons_self, read, bind, Except.bind, reads]
    · intro other member needed
      rcases List.mem_cons.1 member with rfl | member
      · exact kept List.mem_cons_self
      · exact required other member needed
  | @absent field fields entries before after optional rest ih =>
    rw [List.map_cons, List.nodup_cons] at apart
    obtain ⟨found, reads, kept, required⟩ :=
      ih (fun _ member => inside (List.mem_cons_of_mem _ member)) apart.2
        fun other member => fresh other (List.mem_cons_of_mem _ member)
    refine ⟨found, reads, kept, ?_⟩
    intro other member needed
    rcases List.mem_cons.1 member with rfl | member
    · rw [optional] at needed
      cases needed
    · exact required other member needed

/-- A record is read from its entries. -/
theorem read {record : Record α} {entries : List (String × Option Value)} {after : α}
    (restores : Restores record.fields entries record.blank after)
    (distinct : (record.fields.map Field.key).Nodup) :
    record.read (Value.object (members entries)).draft = .ok after := by
  obtain ⟨found, reads, -, required⟩ :=
    restores.readMembers distinct (List.Subset.refl _) distinct fun _ _ => List.not_mem_nil
  have complete : (record.fields.find? fun field =>
      field.required && !found.contains field.key) = none := by
    rw [List.find?_eq_none]
    intro field member
    cases needed : field.required with
    | false => simp
    | true => simp [required field member needed]
  rw [Value.draft, Record.read, reads]
  simp only [bind, Except.bind, complete]

section Fields
variable {key : String} {put : α → β → α} {fields : List (Field α)}
  {entries : List (String × Option Value)} {before after : α} {required : Bool}

theorem value {read : Read β} {v : Value} {x : β} (reads : read v.draft = .ok x)
    (rest : Restores fields entries (put before x) after) :
    Restores (field key read put required :: fields) ((key, some v) :: entries) before after :=
  .present (by simp [field, reads, Except.map]) rest

/-- A value that is left out is the one that the record has already. -/
theorem option {read : Read β} {encode : β → Value} {o : Option β}
    (reads : ∀ x, o = some x → readOptional read (encode x).draft = .ok (some x))
    {put : α → Option β → α} (blank : put before none = before)
    (rest : Restores fields entries (put before o) after) :
    Restores (field key (readOptional read) put :: fields) ((key, o.map encode) :: entries) before
      after := by
  cases o with
  | none => exact .absent rfl (blank ▸ rest)
  | some x => exact .value (reads x rfl) rest

theorem list {read : Read (List β)} {v : Value} {xs : List β} {put : α → List β → α}
    (reads : xs.isEmpty = false → read v.draft = .ok xs) (blank : put before [] = before)
    (rest : Restores fields entries (put before xs) after) :
    Restores (field key read put :: fields)
      ((key, if xs.isEmpty then none else some v) :: entries) before after := by
  cases xs with
  | nil => exact .absent rfl (blank ▸ rest)
  | cons x xs => exact .value (reads rfl) rest

theorem text {put : α → String → α} {s : String}
    (rest : Restores fields entries (put before s) after) :
    Restores (field key readText put required :: fields) ((key, some (.string s)) :: entries) before
      after :=
  .value rfl rest

theorem flag {put : α → Bool → α} {b : Bool}
    (rest : Restores fields entries (put before b) after) :
    Restores (field key readBool put :: fields) ((key, some (.bool b)) :: entries) before after :=
  .value rfl rest

theorem optionalText {put : α → Option String → α} {o : Option String}
    (blank : put before none = before)
    (rest : Restores fields entries (put before o) after) :
    Restores (field key (readOptional readText) put :: fields) ((key, o.map .string) :: entries)
      before after :=
  .option (fun _ _ => rfl) blank rest

end Fields

end Restores

end Bindings.Json
