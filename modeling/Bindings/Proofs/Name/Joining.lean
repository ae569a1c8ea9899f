import Bindings.Proofs.Name.Idempotence

/-! Spelling styles.

The words of a name are set apart by separators or by capitals. Where one-letter words follow each
other, capitals run together and the name is cut into other words than it was joined from. Such a run
ends at a small letter, or goes on to the end of a word with a digit, and is spelled as it stands.
-/

set_option autoImplicit false

namespace Bindings.Name

open Unicode

/-- A small ASCII letter with small letters and digits after it. -/
def Simple : List Char → Prop
  | [] => False
  | c :: rest => c.isLower = true ∧ ∀ d ∈ rest, d.isLower = true ∨ d.isDigit = true

instance : DecidablePred Simple
  | [] => isFalse id
  | c :: rest =>
    inferInstanceAs (Decidable (c.isLower = true ∧ ∀ d ∈ rest, d.isLower = true ∨ d.isDigit = true))

def camelChars : List (List Char) → List Char
  | [] => []
  | first :: others => first ++ others.flatMap capitalized

def camelCase (words : List String) : String := .ofList (camelChars (words.map String.toList))

section
variable {b c : Char} {run rest word : List Char} {words : List (List Char)}

theorem Simple.exists_cons (simple : Simple word) : ∃ c rest, word = c :: rest := by
  cases word with
  | nil => exact simple.elim
  | cons c rest => exact ⟨c, rest, rfl⟩

theorem isAlphanum_of_small (small : c.isLower = true ∨ c.isDigit = true) : c.isAlphanum = true :=
  small.elim isAlphanum_of_isLower isAlphanum_of_isDigit

theorem isUpper_eq_false_of_small (small : c.isLower = true ∨ c.isDigit = true) :
    c.isUpper = false :=
  of_isAscii (P := fun c => c.isLower = true ∨ c.isDigit = true → c.isUpper = false) (by decide)
    (isAscii_of_isAlphanum (isAlphanum_of_small small)) small

theorem capitalized_cons (small : c.isLower = true) :
    capitalized (c :: rest) = c.toUpper :: rest := by
  rw [capitalized, upper_of_isAscii (isAscii_of_isAlphanum (isAlphanum_of_isLower small)),
    List.singleton_append]

theorem Simple.small (simple : Simple word) : ∀ c ∈ word, c.isLower = true ∨ c.isDigit = true := by
  obtain ⟨c, rest, rfl⟩ := simple.exists_cons
  exact List.forall_mem_cons.2 ⟨.inl simple.1, simple.2⟩

theorem Simple.alnum (simple : Simple word) : AlnumText word :=
  fun c member => isAlphanum_of_small (simple.small c member)

/-- No word starts where there are no capitals. -/
theorem unbroken_of_small (alnum : AlnumText rest) (small : ∀ d ∈ rest, d.isUpper = false) :
    Unbroken (c :: rest) := by
  induction rest generalizing c with
  | nil => trivial
  | cons d rest ih =>
    obtain ⟨now, later⟩ := alnumText_cons.1 alnum
    obtain ⟨other, others⟩ := List.forall_mem_cons.1 small
    refine ⟨?_, ih later others⟩
    rw [startsWord, isUppercase_of_isAlphanum now, other, Bool.false_and]

theorem startsWord_of_capital {before : Char} {after : Option Char} (capital : before.isUpper = true)
    (other : ∀ d ∈ after, isLowercase d = false) : startsWord before c after = false := by
  have alnum := isAlphanum_of_isUpper capital
  have digit : before.isDigit = false :=
    of_isAscii (P := fun c => c.isUpper = true → c.isDigit = false) (by decide)
      (isAscii_of_isAlphanum alnum) capital
  have next : after.any isLowercase = false := by
    cases after with
    | none => rfl
    | some d => exact other d rfl
  rw [startsWord, isLowercase_of_isAlphanum alnum, isLower_eq_false_of_isUpper capital, digit, next,
    Bool.and_false, Bool.or_self, Bool.or_self, Bool.and_false]

/-- A run of capitals is one word, with what follows it if that has no capitals and does not begin with
a small letter. -/
theorem unbroken_capitals_append (capitals : ∀ c ∈ run, c.isUpper = true) (alnum : AlnumText rest)
    (small : ∀ d ∈ rest, d.isUpper = false) (first : ∀ d ∈ rest.head?, d.isLower = false) :
    Unbroken (run ++ rest) := by
  induction run with
  | nil =>
    cases rest with
    | nil => trivial
    | cons d rest =>
      exact unbroken_of_small (alnumText_cons.1 alnum).2 (List.forall_mem_cons.1 small).2
  | cons x run ih =>
    obtain ⟨upper, others⟩ := List.forall_mem_cons.1 capitals
    cases run with
    | nil => exact unbroken_of_small alnum small
    | cons y run =>
      refine ⟨startsWord_of_capital upper fun z member => ?_, ih others⟩
      -- What comes next is a capital, or the first character after the run.
      cases run with
      | nil =>
        rw [isLowercase_of_isAlphanum (alnum z (List.mem_of_mem_head? member))]
        exact first z member
      | cons w run =>
        obtain rfl := Option.some.inj member
        have capital : w.isUpper = true := others w (List.mem_cons_of_mem y List.mem_cons_self)
        rw [isLowercase_of_isAlphanum (isAlphanum_of_isUpper capital)]
        exact isLower_eq_false_of_isUpper capital

/-- Such a run is spelled as it stands. -/
theorem spell_segment_run (capitals : ∀ c ∈ run, c.isUpper = true) (alnum : AlnumText rest)
    (small : ∀ d ∈ rest, d.isUpper = false) (first : ∀ d ∈ rest.head?, d.isLower = false)
    (given : run = [] → rest = []) : (segment (run ++ rest)).flatMap spellWord = run ++ rest := by
  cases run with
  | nil =>
    rw [given rfl]
    rfl
  | cons x run =>
    have unbroken := unbroken_capitals_append capitals alnum small first
    have whole : AlnumText (x :: run ++ rest) :=
      alnumText_append.2 ⟨fun c member => isAlphanum_of_isUpper (capitals c member), alnum⟩
    have proper : Proper (x :: run ++ rest) := ⟨List.cons_ne_nil _ _, whole, unbroken⟩
    have head : ∀ c ∈ (x :: run ++ rest).head?, c.isLower = false := by
      rintro c ⟨⟩
      exact isLower_eq_false_of_isUpper (capitals x List.mem_cons_self)
    rw [segment_of_unbroken proper.given unbroken, List.flatMap_singleton,
      (spellWord_eq_self_iff proper head).2]
    -- A word in title case would go on with a small letter.
    have second : ∀ y ∈ (run ++ rest).head?, y.isLower = false := by
      cases run with
      | nil => exact first
      | cons z run =>
        rintro y ⟨⟩
        exact isLower_eq_false_of_isUpper (capitals z (by simp))
    intro member
    obtain ⟨_, y, others, same, -, -, lower, -⟩ := (titleCase_of_mem_titles _ member).cases
    rw [List.cons_append, List.cons.injEq] at same
    rw [second y (by rw [same.2]; rfl)] at lower
    cases lower

theorem spell_segment_capitals (capitals : ∀ c ∈ run, c.isUpper = true) :
    (segment run).flatMap spellWord = run := by
  have empty : AlnumText [] := fun _ member => nomatch member
  have spelled := spell_segment_run capitals empty (fun _ member => nomatch member)
    (fun _ member => nomatch member) fun _ => rfl
  rwa [List.append_nil] at spelled

/-- A word is spelled with its first letter in capitals either way. -/
theorem spellWord_capitalized (small : c.isLower = true) :
    spellWord (c.toUpper :: rest) = spellWord (c :: rest) := by
  have alnum := isAlphanum_of_isLower small
  have ascii := isAscii_of_isAlphanum alnum
  have again := upper_of_isAscii (isAscii_of_isAlphanum (isAlphanum_toUpper alnum))
  have known : uppercase (c.toUpper :: rest) = uppercase (c :: rest) := by
    rw [uppercase, uppercase, List.flatMap_cons, List.flatMap_cons, again, upper_of_isAscii ascii,
      Char.toUpper_toUpper_eq_toUpper]
  rw [spellWord, spellWord, known, capitalized, capitalized, again, upper_of_isAscii ascii,
    Char.toUpper_toUpper_eq_toUpper]

theorem spellWord_letter (small : c.isLower = true) : spellWord [c] = [c.toUpper] := by
  have single := spell_segment_capitals
    (List.forall_mem_singleton.2 (isUpper_toUpper_of_isLower small))
  rwa [segment, List.flatMap_singleton, spellWord_capitalized small] at single

/-- After a small letter or a digit, capitalized words are cut off. -/
theorem segment_append_flatMap (text : List Char) (small : b.isLower = true ∨ b.isDigit = true)
    (simple : ∀ word ∈ words, Simple word) :
    segment (text ++ b :: words.flatMap capitalized) =
      segment (text ++ [b]) ++ segment (words.flatMap capitalized) := by
  cases words with
  | nil => exact (List.append_nil _).symm
  | cons word words =>
    have now := simple word List.mem_cons_self
    cases word with
    | nil => exact now.elim
    | cons c rest =>
      have alnum := isAlphanum_toUpper (isAlphanum_of_isLower now.1)
      have capital := isUpper_toUpper_of_isLower now.1
      rw [List.flatMap_cons, capitalized_cons now.1, List.cons_append]
      refine segment_append ?_ ?_
      · rw [isLowercase_of_isAlphanum alnum]
        exact isLower_eq_false_of_isUpper capital
      · have before := isAlphanum_of_small small
        rw [startsWord, isUppercase_of_isAlphanum alnum, capital, isLowercase_of_isAlphanum before]
        simp [small]

/-- A capital before a small letter is cut off from a run. -/
theorem segment_append_title {x y : Char} (capitals : ∀ c ∈ run, c.isUpper = true)
    (capital : x.isUpper = true) (small : y.isLower = true) :
    segment (run ++ x :: y :: rest) = segment run ++ segment (x :: y :: rest) := by
  rcases List.eq_nil_or_concat' run with rfl | ⟨start, w, rfl⟩
  · rfl
  · have before := isAlphanum_of_isUpper (capitals w (by simp))
    have first := isAlphanum_of_isUpper capital
    have second := isAlphanum_of_isLower small
    rw [List.append_assoc, List.singleton_append, segment_append]
    · rw [isLowercase_of_isAlphanum first, isLower_eq_false_of_isUpper capital]
    · exact startsWord_of_isLowercase before (by rwa [isUppercase_of_isAlphanum first])
        (by rwa [isLowercase_of_isAlphanum second])

/-- A capital before a digit goes on with a run. -/
theorem spell_segment_digit {x y : Char} (capitals : ∀ c ∈ run, c.isUpper = true)
    (capital : x.isUpper = true) (digit : y.isDigit = true)
    (small : ∀ d ∈ rest, d.isLower = true ∨ d.isDigit = true) :
    (segment (run ++ x :: y :: rest)).flatMap spellWord = run ++ x :: y :: rest := by
  have longer : ∀ c ∈ run ++ [x], c.isUpper = true :=
    List.forall_mem_append.2 ⟨capitals, List.forall_mem_singleton.2 capital⟩
  have others : ∀ d ∈ y :: rest, d.isLower = true ∨ d.isDigit = true :=
    List.forall_mem_cons.2 ⟨.inr digit, small⟩
  have first : ∀ d ∈ (y :: rest).head?, d.isLower = false := by
    rintro d ⟨⟩
    exact of_isAscii (P := fun d => d.isDigit = true → d.isLower = false) (by decide)
      (isAscii_of_isAlphanum (isAlphanum_of_isDigit digit)) digit
  have whole := spell_segment_run longer (fun d member => isAlphanum_of_small (others d member))
    (fun d member => isUpper_eq_false_of_small (others d member)) first fun nothing => by simp at nothing
  rwa [List.append_assoc, List.singleton_append] at whole

/-- A capitalized word is spelled like the word, also after a run of capitals. -/
theorem spell_segment_word (capitals : ∀ c ∈ run, c.isUpper = true) (simple : Simple (c :: rest))
    (given : rest ≠ []) :
    (segment (run ++ c.toUpper :: rest)).flatMap spellWord = run ++ spellWord (c :: rest) := by
  obtain ⟨letter, others⟩ := simple
  have capital := isUpper_toUpper_of_isLower letter
  have alone : segment (c.toUpper :: rest) = [c.toUpper :: rest] :=
    segment_of_unbroken (List.cons_ne_nil _ _) (unbroken_of_small
      (fun d member => isAlphanum_of_small (others d member))
      fun d member => isUpper_eq_false_of_small (others d member))
  obtain ⟨d, tail, rfl⟩ := List.exists_cons_of_ne_nil given
  obtain ⟨second, later⟩ := List.forall_mem_cons.1 others
  rcases second with lower | digit
  · rw [segment_append_title capitals capital lower, List.flatMap_append,
      spell_segment_capitals capitals, alone, List.flatMap_singleton, spellWord_capitalized letter]
  · -- The digit keeps the word from being an initialism, with the run and without it.
    have word := spell_segment_digit (List.forall_mem_nil _) capital digit later
    rw [List.nil_append, alone, List.flatMap_singleton, spellWord_capitalized letter] at word
    rw [spell_segment_digit capitals capital digit later, word]

/-- What capitalized words are spelled together does not depend on how they are cut, also after a run
of capitals. -/
theorem spell_segment_append (capitals : ∀ c ∈ run, c.isUpper = true)
    (simple : ∀ word ∈ words, Simple word) :
    (segment (run ++ words.flatMap capitalized)).flatMap spellWord =
      run ++ words.flatMap spellWord := by
  induction words generalizing run with
  | nil =>
    rw [List.flatMap_nil, List.flatMap_nil, List.append_nil, spell_segment_capitals capitals]
  | cons word words ih =>
    obtain ⟨now, later⟩ := List.forall_mem_cons.1 simple
    obtain ⟨c, rest, rfl⟩ := now.exists_cons
    rw [List.flatMap_cons, List.flatMap_cons, capitalized_cons now.1]
    rcases List.eq_nil_or_concat' rest with rfl | ⟨start, b, rfl⟩
    · -- One letter makes the run longer.
      have longer : ∀ d ∈ run ++ [c.toUpper], d.isUpper = true :=
        List.forall_mem_append.2 ⟨capitals,
          List.forall_mem_singleton.2 (isUpper_toUpper_of_isLower now.1)⟩
      have spelled := ih longer later
      rw [List.append_assoc, List.append_assoc] at spelled
      rw [spellWord_letter now.1]
      exact spelled
    · -- What follows the word is cut off, and the run ends with it.
      have last : b.isLower = true ∨ b.isDigit = true := now.2 b (by simp)
      have cut := segment_append_flatMap (run ++ c.toUpper :: start) last later
      have word := spell_segment_word capitals now (by simp)
      have others := ih (List.forall_mem_nil _) later
      simp only [List.append_assoc, List.cons_append, List.nil_append] at cut word others ⊢
      rw [cut, List.flatMap_append, word, others, List.append_assoc]

theorem Simple.unbroken (simple : Simple word) : Unbroken word := by
  obtain ⟨c, rest, rfl⟩ := simple.exists_cons
  exact unbroken_of_small (alnumText_cons.1 simple.alnum).2 fun d member =>
    isUpper_eq_false_of_small (simple.2 d member)

theorem Simple.segment_eq (simple : Simple word) : segment word = [word] := by
  refine segment_of_unbroken ?_ simple.unbroken
  rintro rfl
  exact simple

/-- Words set apart by a separator are the words of the name. -/
theorem words_intercalate (separates : isSeparator c = true) (simple : ∀ word ∈ words, Simple word) :
    Name.words ([c].intercalate words) = words := by
  have given : ∀ word ∈ words, word ≠ [] := by
    rintro word member rfl
    exact simple [] member
  have solid : ∀ word ∈ words, Solid word := fun word member =>
    solid_of_alnum (simple word member).alnum
  have each : ∀ word ∈ words, segment word = [word] := fun word member =>
    (simple word member).segment_eq
  rw [Name.words, Text.fields_intercalate separates given solid, List.flatMap_def,
    List.map_congr_left each, ← List.flatMap_def, List.flatMap_singleton']

theorem alnum_camelChars (simple : ∀ word ∈ words, Simple word) : AlnumText (camelChars words) := by
  cases words with
  | nil => exact fun _ member => nomatch member
  | cons first others =>
    obtain ⟨now, later⟩ := List.forall_mem_cons.1 simple
    refine alnumText_append.2 ⟨now.alnum, fun c member => ?_⟩
    obtain ⟨word, found, inside⟩ := List.mem_flatMap.1 member
    have ofWord := later word found
    obtain ⟨d, rest, rfl⟩ := ofWord.exists_cons
    obtain ⟨letter, tail⟩ := alnumText_cons.1 ofWord.alnum
    rw [capitalized_cons ofWord.1] at inside
    exact alnumText_cons.2 ⟨isAlphanum_toUpper letter, tail⟩ c inside

/-- The words joined by capitals are spelled together like the words. -/
theorem spell_words_camelChars (simple : ∀ word ∈ words, Simple word) :
    (Name.words (camelChars words)).flatMap spellWord = words.flatMap spellWord := by
  rw [words_of_solid (solid_of_alnum (alnum_camelChars simple))]
  cases words with
  | nil => rfl
  | cons first others =>
    obtain ⟨now, later⟩ := List.forall_mem_cons.1 simple
    -- The first word ends in a small letter or a digit, after which a capital starts the next.
    rcases List.eq_nil_or_concat' first with rfl | ⟨start, b, rfl⟩
    · exact now.elim
    · have cut := segment_append_flatMap start (now.small b (by simp)) later
      have spelled := spell_segment_append (List.forall_mem_nil _) later
      rw [List.nil_append, List.nil_append] at spelled
      rw [camelChars, List.append_assoc, List.singleton_append, cut, now.segment_eq,
        List.flatMap_append, List.flatMap_singleton, spelled, List.flatMap_cons]

/-- In every style the identifier is that of the words, each spelled on its own. -/
theorem exportedChars_camelChars (simple : ∀ word ∈ words, Simple word) :
    exportedChars (camelChars words) = fixAbbreviation (fixPlural (words.flatMap spellWord)) := by
  rw [exportedChars, spell_words_camelChars simple]

theorem exportedChars_intercalate (separates : isSeparator c = true)
    (simple : ∀ word ∈ words, Simple word) :
    exportedChars ([c].intercalate words) =
      fixAbbreviation (fixPlural (words.flatMap spellWord)) := by
  rw [exportedChars, words_intercalate separates simple]

end

/-- Words of small letters and digits that begin with a letter are exported to one identifier in
whatever style they are joined: that of the words as each is spelled on its own. -/
theorem exported_joined {words : List String} (simple : ∀ word ∈ words, Simple word.toList) :
    exported (camelCase words) = .ofList (fixAbbreviation (fixPlural
        (words.flatMap fun word => spellWord word.toList))) ∧
      ∀ separator ∈ ["-", "_", ".", " "],
        exported (separator.intercalate words) = exported (camelCase words) := by
  have chars : ∀ word ∈ words.map String.toList, Simple word := List.forall_mem_map.2 simple
  have camel := exportedChars_camelChars chars
  refine ⟨?_, fun separator member => ?_⟩
  · rw [exported, camelCase, String.toList_ofList, camel, List.flatMap_map]
  · obtain ⟨c, separates, spelled⟩ : ∃ c, isSeparator c = true ∧ separator.toList = [c] := by
      simp only [List.mem_cons, List.not_mem_nil, or_false] at member
      rcases member with rfl | rfl | rfl | rfl <;> exact ⟨_, by decide, rfl⟩
    rw [exported, exported, String.toList_intercalate, spelled,
      exportedChars_intercalate separates chars, camelCase, String.toList_ofList, camel]

/-- The capitals of three words run together before a digit, and make an initialism. -/
theorem exported_joined_xutf8 :
    (∀ word ∈ ["x", "u", "t", "f8", "node", "ids"], Simple word.toList) ∧
      camelCase ["x", "u", "t", "f8", "node", "ids"] = "xUTF8NodeIds" ∧
      exported "x-u-t-f8-node-ids" = exported "xUTF8NodeIds" ∧
      exported "xUTF8NodeIds" = "XUTF8NodeIDs" := by
  have simple : ∀ word ∈ ["x", "u", "t", "f8", "node", "ids"], Simple word.toList := by decide
  obtain ⟨-, joined⟩ := exported_joined simple
  exact ⟨simple, by decide, joined "-" (by decide), by decide +kernel⟩

end Bindings.Name
