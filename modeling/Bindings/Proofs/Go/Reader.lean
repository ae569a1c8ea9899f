import Bindings.Proofs.Go.Documentation
import Bindings.Proofs.Unicode.Letters

/-! A reader of Go source that finds the qualified identifiers in it.

It tells comments, literals, numbers and identifiers apart as the language does. An identifier that
stands before a point and an identifier is found with that one, unless a point stands before itself:
so do the names of packages before what they declare, and variables before what is selected from
them.
-/

set_option autoImplicit false

namespace Bindings.Go

/-- Characters of identifiers and numbers. Beyond ASCII there are no others outside of literals and
comments. -/
def isWordChar (c : Char) : Bool := c.isAlphanum || c == '_' || 128 ≤ c.toNat

def isBlankChar (c : Char) : Bool := [' ', '\t', '\r', '\n'].contains c

namespace Reader

inductive Mode where
  | between
  /-- In a word, the last letter of which comes first. -/
  | word (letters : List Char)
  | points (count : Nat)
  | slash
  | lineComment
  | comment (closing : Bool)
  | literal (mark : Char) (escaped : Bool)
  | rawLiteral
  deriving DecidableEq

/-- What has been read last, as far as it matters for what follows. -/
inductive Last where
  | other
  | name (ident : String)
  /-- A point behind a name. -/
  | qualifier (ident : String)
  /-- A point behind anything else. -/
  | point
  deriving DecidableEq

structure State where
  mode : Mode := .between
  last : Last := .other
  found : List (String × String) := []

inductive Token where
  | name (ident : String)
  | point
  | other

def Last.after (last : Last) : Token → Last
  | .name ident =>
    match last with
    | .qualifier _ | .point => .other
    | .other | .name _ => .name ident
  | .point =>
    match last with
    | .name ident => .qualifier ident
    | .other | .qualifier _ | .point => .point
  | .other => .other

def Last.pairs (last : Last) : Token → List (String × String)
  | .name ident =>
    match last with
    | .qualifier before => [(before, ident)]
    | .other | .name _ | .point => []
  | .point | .other => []

def State.take (s : State) (token : Token) : State :=
  ⟨.between, s.last.after token, s.found ++ s.last.pairs token⟩

/-- A word that begins with a digit is a number. -/
def Token.ofWord (letters : List Char) : Token :=
  if letters.head?.any Char.isDigit then .other else .name (.ofList letters)

/-- The text does not go on with what has been begun. -/
def State.flush (s : State) : State :=
  match s.mode with
  | .word letters => s.take (.ofWord letters.reverse)
  | .points count => s.take (if count = 1 then .point else .other)
  | .slash => s.take .other
  | _ => s

def State.begin (s : State) (c : Char) : State :=
  if isWordChar c then { s with mode := .word [c] }
  else if isBlankChar c then { s with mode := .between }
  else if c = '.' then { s with mode := .points 1 }
  else if c = '/' then { s with mode := .slash }
  else if c = '"' || c = '\'' then { s with mode := .literal c false }
  else if c = '\x60' then { s with mode := .rawLiteral }
  else s.take .other

def step (s : State) (c : Char) : State :=
  match s.mode with
  | .between => s.begin c
  | .word letters =>
    if isWordChar c then { s with mode := .word (c :: letters) } else s.flush.begin c
  | .points count =>
    if c = '.' then if count = 2 then s.take .other else { s with mode := .points (count + 1) }
    else s.flush.begin c
  | .slash =>
    if c = '/' then { s with mode := .lineComment }
    else if c = '*' then { s with mode := .comment false }
    else s.flush.begin c
  | .lineComment => if c = '\n' then { s with mode := .between } else s
  | .comment closing =>
    if c = '/' && closing then { s with mode := .between }
    else { s with mode := .comment (c = '*') }
  | .literal mark true => { s with mode := .literal mark false }
  | .literal mark false =>
    if c = '\\' then { s with mode := .literal mark true }
    else if c = mark then s.take .other
    else s
  | .rawLiteral => if c = '\x60' then s.take .other else s

def run (s : State) (text : List Char) : State := text.foldl step s

end Reader

/-- The qualified identifiers in a source. -/
def qualified (source : String) : List (String × String) :=
  (Reader.run {} source.toList).flush.found

example : qualified "x := a.b(c, \"d.e\") // f.g\n" = [("a", "b")] := by decide +kernel

namespace Reader

variable {P : String × String → Prop} {s : State} {c : Char} {text first second : List Char}

theorem run_append (s : State) (first second : List Char) :
    run s (first ++ second) = run (run s first) second := List.foldl_append

theorem run_cons (s : State) (c : Char) (text : List Char) :
    run s (c :: text) = run (step s c) text := rfl

/-! What is known of a reader that finds nothing but what `P` allows. -/

/-- Nothing has been begun, and no identifier that comes next belongs to the name before it. -/
structure Ready (P : String × String → Prop) (s : State) : Prop where
  mode : s.mode = .between
  last : ∀ ident, s.last ≠ .qualifier ident
  found : ∀ pair ∈ s.found, P pair

/-- At most a word has been begun. -/
structure Settled (P : String × String → Prop) (s : State) : Prop where
  mode : s.mode = .between ∨ ∃ letters, s.mode = .word letters
  flush : Ready P s.flush

/-- A point that comes next stands behind no name. -/
structure Sealed (P : String × String → Prop) (s : State) : Prop extends Settled P s where
  last : s.flush.last = .other

/-- The same, where a word that has been begun may go on. -/
structure Open (P : String × String → Prop) (s : State) : Prop where
  mode : s.mode = .between ∨ ∃ letters, s.mode = .word letters
  last : ∀ ident, s.last ≠ .qualifier ident
  found : ∀ pair ∈ s.found, P pair

theorem flush_eq_self (between : s.mode = .between) : s.flush = s := by
  rw [State.flush, between]

theorem Ready.settled (h : Ready P s) : Settled P s where
  mode := .inl h.mode
  flush := by rwa [flush_eq_self h.mode]

theorem Ready.opens (h : Ready P s) : Open P s := ⟨.inl h.mode, h.last, h.found⟩

theorem Ready.take_other (h : Ready P s) : Ready P (s.take .other) where
  mode := rfl
  last := nofun
  found := by simpa [State.take, Last.pairs] using h.found

theorem Ready.sealed (h : Ready P s) : Sealed P (s.take .other) :=
  ⟨h.take_other.settled, rfl⟩

theorem Open.flush (h : Open P s) : Ready P s.flush := by
  obtain between | ⟨letters, word⟩ := h.mode
  · rw [flush_eq_self between]
    exact ⟨between, h.last, h.found⟩
  · rw [State.flush, word]
    dsimp only
    rw [Token.ofWord]
    split
    · exact ⟨rfl, nofun, by simpa [State.take, Last.pairs] using h.found⟩
    · cases same : s.last with
      | qualifier ident => exact absurd same (h.last ident)
      | other | name =>
        exact ⟨rfl, by simp [State.take, Last.after, same],
          by simpa [State.take, Last.pairs, same] using h.found⟩
      | point =>
        exact ⟨rfl, by simp [State.take, Last.after, same],
          by simpa [State.take, Last.pairs, same] using h.found⟩

theorem Open.settled (h : Open P s) : Settled P s := ⟨h.mode, h.flush⟩

/-- Reading a text leads from states with one property to states with another. -/
def Leads (before after : State → Prop) (text : List Char) : Prop :=
  ∀ s, before s → after (run s text)

namespace Leads

variable {A B C : State → Prop}

theorem append (h : Leads A B first) (h' : Leads B C second) : Leads A C (first ++ second) :=
  fun s holds => run_append s first second ▸ h' _ (h s holds)

theorem cons (h : Leads A B [c]) (h' : Leads B C text) : Leads A C (c :: text) :=
  fun s holds => h' _ (h s holds)

theorem nil : Leads A A [] := fun _ holds => holds

theorem imp (h : Leads A B text) (weaker : ∀ s, B s → C s) : Leads A C text :=
  fun s holds => weaker _ (h s holds)

theorem of_imp (stronger : ∀ s, A s → B s) (h : Leads B C text) : Leads A C text :=
  fun s holds => h s (stronger s holds)

end Leads

/-! Words and the signs between them -/

/-- A sign or a space that ends a word and begins nothing but itself. -/
def isBreak (c : Char) : Bool :=
  !isWordChar c && !(['.', '/', '"', '\'', '\x60'].contains c)

def isPlain (c : Char) : Bool := isWordChar c || isBreak c

theorem begin_of_isBreak (breaks : isBreak c = true) :
    s.begin c = { s with mode := .between } ∨ s.begin c = s.take .other := by
  obtain ⟨noWord, noPoint, noSlash, noQuote, noApostrophe, noBackquote⟩ :
      isWordChar c = false ∧ c ≠ '.' ∧ c ≠ '/' ∧ c ≠ '"' ∧ c ≠ '\'' ∧ c ≠ '\x60' := by
    simpa [isBreak, and_assoc] using breaks
  simp only [State.begin, noWord, noPoint, noSlash, noQuote, noApostrophe, noBackquote,
    Bool.false_eq_true, decide_false, Bool.or_false, if_false]
  split
  · exact .inl rfl
  · exact .inr rfl

theorem Ready.begin (h : Ready P s) (breaks : isBreak c = true) : Ready P (s.begin c) := by
  obtain same | same := begin_of_isBreak (s := s) breaks
  · rw [same]
    exact ⟨rfl, h.last, h.found⟩
  · rw [same]
    exact h.take_other

theorem step_of_settled (h : Settled P s) (noWord : isWordChar c = false) :
    step s c = s.flush.begin c := by
  obtain between | ⟨letters, word⟩ := h.mode
  · simp only [flush_eq_self between, step, between]
  · simp only [step, word, noWord, Bool.false_eq_true, if_false]

theorem isWordChar_of_isBreak (breaks : isBreak c = true) : isWordChar c = false := by
  simp only [isBreak, Bool.and_eq_true, Bool.not_eq_true'] at breaks
  exact breaks.1

theorem leads_break (breaks : isBreak c = true) : Leads (Settled P) (Ready P) [c] := by
  intro s settled
  rw [run_cons, step_of_settled settled (isWordChar_of_isBreak breaks)]
  exact settled.flush.begin breaks

theorem Open.word (h : Open P s) (word : isWordChar c = true) : Open P (step s c) := by
  obtain between | ⟨letters, begun⟩ := h.mode
  · rw [step, between]
    dsimp only
    rw [State.begin, if_pos word]
    exact ⟨.inr ⟨_, rfl⟩, h.last, h.found⟩
  · simp only [step, begun, word, if_true]
    exact ⟨.inr ⟨_, rfl⟩, h.last, h.found⟩

theorem leads_plain (plain : ∀ c ∈ text, isPlain c = true) : Leads (Open P) (Open P) text := by
  induction text with
  | nil => exact .nil
  | cons c text ih =>
    obtain ⟨first, others⟩ := List.forall_mem_cons.1 plain
    refine .cons (fun s h => ?_) (ih others)
    cases word : isWordChar c with
    | false =>
      have breaks : isBreak c = true := by simpa [isPlain, word] using first
      exact (leads_break breaks s h.settled).opens
    | true => exact h.word word

/-- Text that ends whatever word stands before it, and no word is left begun. -/
def separates (text : List Char) : Bool :=
  text.all isPlain && text.head?.any isBreak && text.getLast?.any isBreak

theorem leads_opening (plain : ∀ c ∈ text, isPlain c = true) (ends : isBreak c = true) :
    Leads (Ready P) (Ready P) (text ++ [c]) :=
  .append (.of_imp (fun _ => Ready.opens) (leads_plain plain))
    (.of_imp (fun _ => Open.settled) (leads_break ends))

theorem leads_separator (h : separates text = true) : Leads (Settled P) (Ready P) text := by
  simp only [separates, Bool.and_eq_true, List.all_eq_true, Option.any_eq_true] at h
  obtain ⟨⟨plain, first, begins, breaks⟩, last, ends, closes⟩ := h
  -- The first sign ends the word before it, the last one any word in between.
  obtain ⟨rest, rfl⟩ := List.head?_eq_some_iff.1 begins
  refine .cons (leads_break breaks) ?_
  rcases List.eq_nil_or_concat' rest with rfl | ⟨middle, other, rfl⟩
  · exact .nil
  · obtain rfl : other = last := by simpa [List.getLast?_cons] using ends
    exact leads_opening (fun c member => plain c (by simp [member])) closes

/-- Text after which no word is left begun. -/
def opens (text : List Char) : Bool := text.all isPlain && text.getLast?.all isBreak

theorem leads_opens (h : opens text = true) : Leads (Ready P) (Ready P) text := by
  simp only [opens, Bool.and_eq_true, List.all_eq_true] at h
  obtain ⟨plain, ends⟩ := h
  rcases List.eq_nil_or_concat' text with rfl | ⟨rest, last, rfl⟩
  · exact .nil
  · exact leads_opening (fun c member => plain c (by simp [member])) (by simpa using ends)

theorem leads_words (plain : ∀ c ∈ text, isPlain c = true) :
    Leads (Ready P) (Settled P) text :=
  (Leads.of_imp (fun _ => Ready.opens) (leads_plain plain)).imp fun _ => Open.settled

theorem leads_close (closes : c ∈ [')', ']', '\x7d']) : Leads (Settled P) (Sealed P) [c] := by
  intro s settled
  have word : isWordChar c = false := by
    revert closes
    revert c
    decide
  have other : s.flush.begin c = s.flush.take .other := by
    simp only [List.mem_cons, List.not_mem_nil, or_false] at closes
    rcases closes with rfl | rfl | rfl <;> rfl
  rw [run_cons, step_of_settled settled word, other]
  exact settled.flush.sealed

theorem leads_spread : Leads (Settled P) (Ready P) ['.', '.', '.'] := by
  intro s settled
  rw [run_cons, step_of_settled settled (by decide)]
  exact settled.flush.take_other

/-- A slash begins a comment if another one follows, and here a space does. -/
theorem leads_slash : Leads (Ready P) (Ready P) ['/', ' '] := by
  intro s ready
  have passed : run s ['/', ' '] = s.take .other := by
    simp only [run_cons, step, ready.mode]
    rfl
  rw [passed]
  exact ready.take_other

/-! Selections -/

def IsWord (text : String) : Prop := text ≠ "" ∧ ∀ c ∈ text.toList, isWordChar c = true

theorem run_word {letters : List Char} (begun : s.mode = .word letters)
    (word : ∀ c ∈ text, isWordChar c = true) :
    run s text = { s with mode := .word (text.reverse ++ letters) } := by
  induction text generalizing s letters with
  | nil =>
    obtain ⟨mode, last, found⟩ := s
    cases begun
    rfl
  | cons c text ih =>
    obtain ⟨first, others⟩ := List.forall_mem_cons.1 word
    have next : step s c = { s with mode := .word (c :: letters) } := by
      simp only [step, begun, first, if_true]
    rw [run_cons, next, ih rfl others]
    simp

theorem begin_of_isWordChar (word : isWordChar c = true) :
    s.begin c = { s with mode := .word [c] } := if_pos word

/-- A name behind a point belongs to what stands before the point. -/
theorem run_selection {name : String} (settled : Settled P s) (word : IsWord name) :
    run s ('.' :: name.toList) =
      ⟨.word name.toList.reverse, s.flush.last.after .point, s.flush.found⟩ := by
  obtain ⟨nonempty, letters⟩ := word
  cases spelled : name.toList with
  | nil => exact absurd (String.toList_eq_nil_iff.1 spelled) nonempty
  | cons c rest =>
    rw [spelled] at letters
    obtain ⟨first, others⟩ := List.forall_mem_cons.1 letters
    have point : c ≠ '.' := by
      rintro rfl
      exact absurd first (by decide)
    -- One point may begin three of them, so it counts only with the letter behind it.
    have pointed : step s '.' = { s.flush with mode := .points 1 } :=
      step_of_settled settled (by decide)
    have named : step { s.flush with mode := .points 1 } c =
        ⟨.word [c], s.flush.last.after .point, s.flush.found⟩ := by
      simp only [step, if_neg point, begin_of_isWordChar first]
      simp [State.flush, State.take, Last.pairs]
    rw [run_cons, pointed, run_cons, named, run_word rfl others, List.reverse_cons]

theorem sealed_selection {name : String} (settled : Settled P s) (word : IsWord name)
    (allowed : ∀ qualifier, s.flush.last = .name qualifier → P (qualifier, name)) :
    Sealed P (run s ('.' :: name.toList)) := by
  rw [run_selection settled word]
  have inner := settled.flush.found
  have ended : ∀ pair ∈ (s.flush.last.after .point).pairs (.ofWord name.toList), P pair := by
    rw [Token.ofWord, String.ofList_toList]
    split
    · exact fun _ member => nomatch member
    · cases before : s.flush.last with
      | name qualifier => exact List.forall_mem_singleton.2 (allowed qualifier before)
      | other | qualifier | point => exact fun _ member => nomatch member
  have sealed : (s.flush.last.after .point).after (.ofWord name.toList) = .other := by
    rw [Token.ofWord]
    split
    · rfl
    · cases s.flush.last <;> rfl
  have flushed : State.flush ⟨.word name.toList.reverse, s.flush.last.after .point, s.flush.found⟩ =
      ⟨.between, .other, s.flush.found ++
        (s.flush.last.after .point).pairs (.ofWord name.toList)⟩ := by
    rw [← sealed]
    simp [State.flush, State.take]
  refine ⟨⟨.inr ⟨_, rfl⟩, ?_⟩, ?_⟩
  · rw [flushed]
    exact ⟨rfl, nofun, List.forall_mem_append.2 ⟨inner, ended⟩⟩
  · rw [flushed]

/-- What is selected from anything but a name is not found. -/
theorem leads_selection {name : String} (word : IsWord name) :
    Leads (Sealed P) (Sealed P) ('.' :: name.toList) := by
  intro s sealed
  refine sealed_selection sealed.toSettled word fun qualifier same => ?_
  rw [sealed.last] at same
  cases same

theorem run_begin {name : String} (between : s.mode = .between) (word : IsWord name) :
    run s name.toList = { s with mode := .word name.toList.reverse } := by
  obtain ⟨nonempty, letters⟩ := word
  cases spelled : name.toList with
  | nil => exact absurd (String.toList_eq_nil_iff.1 spelled) nonempty
  | cons c rest =>
    rw [spelled] at letters
    obtain ⟨first, others⟩ := List.forall_mem_cons.1 letters
    have named : step s c = { s with mode := .word [c] } := by
      simp only [step, between, begin_of_isWordChar first]
    rw [run_cons, named, run_word rfl others, List.reverse_cons]

/-- A name that is selected from a name is found with that one. -/
theorem leads_qualified {qualifier name : String} (before : IsWord qualifier)
    (word : IsWord name) (allowed : P (qualifier, name)) :
    Leads (Ready P) (Sealed P) (qualifier.toList ++ '.' :: name.toList) := by
  intro s ready
  have plain : ∀ c ∈ qualifier.toList, isPlain c = true := fun c member => by
    rw [isPlain, before.2 c member, Bool.true_or]
  rw [run_append]
  refine sealed_selection (leads_words plain s ready) word fun other same => ?_
  have read : other = qualifier := by
    simp only [run_begin ready.mode before, State.flush, State.take, List.reverse_reverse,
      Token.ofWord, String.ofList_toList] at same
    revert same
    split
    · exact nofun
    · cases s.last <;> simp [Last.after, eq_comm]
  exact read ▸ allowed

/-! Literals and comments -/

theorem run_literal {mark : Char} (inside : s.mode = .literal mark false)
    (harmless : ∀ c ∈ text, c ≠ mark ∧ c ≠ '\\') : run s text = s := by
  induction text with
  | nil => rfl
  | cons c text ih =>
    obtain ⟨⟨open_, plain⟩, others⟩ := List.forall_mem_cons.1 harmless
    have stays : step s c = s := by
      simp only [step, inside, plain, open_, if_false]
    rw [run_cons, stays, ih others]

theorem hexDigit_harmless {n : Nat} (small : n < 16) :
    Text.hexDigit n ≠ '"' ∧ Text.hexDigit n ≠ '\\' := by
  have all : ∀ n < 16, Text.hexDigit n ≠ '"' ∧ Text.hexDigit n ≠ '\\' := by decide
  exact all n small

/-- An escape is passed over as a whole. -/
theorem run_escape (inside : s.mode = .literal '"' false) (c : Char) :
    run s (Text.escape c) = s := by
  obtain ⟨mode, last, found⟩ := s
  cases inside
  fun_cases Text.escape c with
  | case8 _ _ _ _ _ _ _ control =>
    have high : c.toNat / 16 < 16 := by omega
    have low : c.toNat % 16 < 16 := by omega
    change run _ ['0', '0', Text.hexDigit (c.toNat / 16), Text.hexDigit (c.toNat % 16)] = _
    refine run_literal rfl ?_
    simp [hexDigit_harmless high, hexDigit_harmless low]
  | case9 quote backslash => exact run_literal rfl (List.forall_mem_singleton.2 ⟨quote, backslash⟩)
  | _ => rfl

theorem run_escapes (inside : s.mode = .literal '"' false) (text : List Char) :
    run s (text.flatMap Text.escape) = s := by
  induction text with
  | nil => rfl
  | cons c text ih => rw [List.flatMap_cons, run_append, run_escape inside, ih]

theorem run_raw (inside : s.mode = .rawLiteral) (harmless : ∀ c ∈ text, c ≠ '\x60') :
    run s text = s := by
  induction text with
  | nil => rfl
  | cons c text ih =>
    obtain ⟨other, others⟩ := List.forall_mem_cons.1 harmless
    have stays : step s c = s := by
      simp only [step, inside, if_neg other]
    rw [run_cons, stays, ih others]

/-- What stands between two marks is passed over, if it is passed over behind the first one. -/
theorem leads_between {mark : Char} (mode : Mode)
    (opens : ∀ s : State, s.mode = .between → step s mark = { s with mode := mode })
    (closes : ∀ s : State, s.mode = mode → step s mark = s.take .other)
    (inside : ∀ s : State, s.mode = mode → run s text = s) :
    Leads (Ready P) (Sealed P) (mark :: (text ++ [mark])) := by
  intro s ready
  rw [run_cons, opens s ready.mode, run_append, inside _ rfl, run_cons, closes _ rfl]
  exact ready.sealed

theorem leads_literal (harmless : ∀ c ∈ text, c ≠ '"' ∧ c ≠ '\\') :
    Leads (Ready P) (Sealed P) ('"' :: (text ++ ['"'])) := by
  refine leads_between (.literal '"' false) (fun s between => ?_) (fun s inside => ?_)
    fun s inside => run_literal inside harmless
  · simp only [step, between]
    rfl
  · simp only [step, inside]
    rfl

theorem leads_quote (value : String) : Leads (Ready P) (Sealed P) (Text.quote value).toList := by
  rw [Text.quote, String.toList_ofList, Text.quoteChars]
  refine leads_between (.literal '"' false) (fun s between => ?_) (fun s inside => ?_)
    fun s inside => run_escapes inside _
  · simp only [step, between]
    rfl
  · simp only [step, inside]
    rfl

theorem leads_raw (harmless : ∀ c ∈ text, c ≠ '\x60') :
    Leads (Ready P) (Sealed P) ('\x60' :: (text ++ ['\x60'])) := by
  refine leads_between .rawLiteral (fun s between => ?_) (fun s inside => ?_)
    fun s inside => run_raw inside harmless
  · simp only [step, between]
    rfl
  · simp only [step, inside]
    rfl

theorem run_lineComment (inside : s.mode = .lineComment) (unbroken : '\n' ∉ text) :
    run s text = s := by
  induction text with
  | nil => rfl
  | cons c text ih =>
    have other : c ≠ '\n' := fun same => unbroken (same ▸ List.mem_cons_self)
    have stays : step s c = s := by
      simp only [step, inside, if_neg other]
    rw [run_cons, stays, ih fun member => unbroken (List.mem_cons_of_mem c member)]

theorem isBreak_tabs {n : Nat} : ∀ c ∈ (tabs n).toList, isBreak c = true := by
  rw [toList_tabs]
  intro c member
  rw [List.eq_of_mem_replicate member]
  decide

theorem leads_breaks (breaks : ∀ c ∈ text, isBreak c = true) : Leads (Ready P) (Ready P) text := by
  induction text with
  | nil => exact .nil
  | cons c text ih =>
    obtain ⟨first, others⟩ := List.forall_mem_cons.1 breaks
    exact .cons (.of_imp (fun _ => Ready.settled) (leads_break first)) (ih others)

theorem leads_commentLine {indent : Nat} {line : String} (unbroken : Unbroken line) :
    Leads (Ready P) (Ready P) (commentLine indent line ++ ['\n']) := by
  have split : ∃ rest, commentLine indent line = (tabs indent).toList ++ '/' :: '/' :: rest ∧
      '\n' ∉ rest := by
    rw [commentLine, String.toList_append]
    split
    · exact ⟨[], rfl, List.not_mem_nil⟩
    · refine ⟨' ' :: line.toList, by simp, ?_⟩
      simpa using show '\n' ∉ line.toList from unbroken
  obtain ⟨rest, same, plain⟩ := split
  rw [same, List.append_assoc]
  refine .append (leads_breaks isBreak_tabs) fun s ready => ?_
  have opened : step (step s '/') '/' = { s with mode := .lineComment } := by
    simp only [step, ready.mode]
    rfl
  rw [List.cons_append, List.cons_append, run_cons, run_cons, opened, run_append,
    run_lineComment rfl plain]
  exact ⟨rfl, ready.last, ready.found⟩

theorem leads_doc {indent : Nat} {doc : List String} (unbroken : AllUnbroken doc) :
    Leads (Ready P) (Ready P) (chars (printDoc indent doc)) := by
  induction doc with
  | nil => exact .nil
  | cons line rest ih =>
    obtain ⟨first, others⟩ := List.forall_mem_cons.1 unbroken
    rw [printDoc, List.map_cons, chars_comment]
    exact (leads_commentLine first).append (ih others)

end Reader

end Bindings.Go
