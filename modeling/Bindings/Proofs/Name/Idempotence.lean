import Bindings.Proofs.Name.Parameters
import Bindings.Proofs.Name.Spelling

/-! Exporting an identifier a second time.

An exported identifier is a fixed point unless one of its words is an initialism in title case. Where
the words of a raw name are joined, the only such word that can come about is the one with a digit.
-/

set_option autoImplicit false

namespace Bindings.Name

open Unicode

/-- A word "utf" is followed by a word "8", and that by nothing or by a word that begins with a
letter. -/
def SplitsUtf8 (words : List (List Char)) : Prop :=
  ∃ before word after, words = before ++ word :: ['8'] :: after ∧
    (word = "utf".toList ∨ word = "Utf".toList) ∧
    ∀ next ∈ after.head?, ∀ c ∈ next.head?, c.isDigit = false

section Joined
variable {word t : List Char} {words : List (List Char)}

theorem proper_of_mem_segment {text : List Char} (alnum : AlnumText text)
    (member : word ∈ segment text) : Proper word :=
  ⟨ne_nil_of_mem_segment member, alnum.subset (subset_of_mem_segment member),
    unbroken_of_mem_segment member⟩

theorem proper_of_mem_words {raw : List Char}
    (plain : ∀ c ∈ raw, c.isAlphanum = true ∨ isSeparator c = true)
    (member : word ∈ Name.words raw) : Proper word := by
  have solid := solid_of_mem_words member
  obtain ⟨piece, found, inside⟩ := List.mem_flatMap.1 member
  have sub : word ⊆ raw := List.Subset.trans (subset_of_mem_segment inside)
    (Text.subset_of_mem_splitWhere (List.mem_filter.1 found).1)
  refine ⟨ne_nil_of_mem_segment inside, fun c letter => ?_, unbroken_of_mem_segment inside⟩
  refine (plain c (sub letter)).resolve_right ?_
  rw [solid c letter]
  exact Bool.false_ne_true

/-- The word that is spelled as given is that word with its first letter in either case. -/
theorem exists_of_spellWord_eq {c : Char} {rest : List Char} (proper : Proper word)
    (unknown : c :: rest ∉ initialisms) (same : spellWord word = c :: rest) :
    ∃ d, word = d :: rest ∧ isAscii d = true ∧ d.toUpper = c := by
  rcases spellWord_cases word with ⟨known, -⟩ | plain
  · exact absurd (same ▸ known) unknown
  · obtain ⟨d, others, rfl⟩ := List.exists_cons_of_ne_nil proper.given
    have ascii := isAscii_of_isAlphanum (alnumText_cons.1 proper.alnum).1
    rw [plain, capitalized, upper_of_isAscii ascii, List.singleton_append] at same
    obtain ⟨first, rfl⟩ := List.cons.inj same
    exact ⟨d, rfl, ascii, first⟩

/-- Only one word in title case can be cut before what is no small letter. -/
theorem titles_cut : ∀ t ∈ titles, ∀ n < t.length, n ≠ 0 →
    (∀ c ∈ (t.drop n).head?, c.isLower = false) → t = utf8 ∧ n = 3 := by
  decide

theorem eq_utf8_of_cut {c : Char} {part : List Char} (given : word ≠ [])
    (member : word ++ c :: part ∈ titles) (other : c.isLower = false) :
    word ++ c :: part = utf8 ∧ word = "Utf".toList ∧ c = '8' ∧ part = [] := by
  have short : word.length < (word ++ c :: part).length := by simp
  have rest : (word ++ c :: part).drop word.length = c :: part := List.drop_left
  have first : ∀ d ∈ ((word ++ c :: part).drop word.length).head?, d.isLower = false := by
    rw [rest]
    rintro d begins
    rwa [← Option.some.inj begins]
  obtain ⟨known, size⟩ := titles_cut _ member _ short (by simpa using given) first
  have begins : "Utf".toList ++ ['8'] = word ++ c :: part := known.symm
  obtain ⟨same, later⟩ := List.append_inj begins size.symm
  obtain ⟨digit, nothing⟩ := List.cons.inj later
  exact ⟨known, same.symm, digit.symm, nothing.symm⟩

theorem exists_of_spellWord_utf (proper : Proper word) (same : spellWord word = "Utf".toList) :
    word = "utf".toList ∨ word = "Utf".toList := by
  obtain ⟨d, rfl, ascii, first⟩ := exists_of_spellWord_eq proper (by decide) same
  have letter := of_isAscii (P := fun d => d.toUpper = 'U' → d = 'u' ∨ d = 'U') (by decide) ascii
  exact (letter first).imp (congrArg (· :: "tf".toList)) (congrArg (· :: "tf".toList))

theorem eq_of_spellWord_eight (proper : Proper word) (same : spellWord word = ['8']) :
    word = ['8'] := by
  obtain ⟨d, rfl, ascii, first⟩ := exists_of_spellWord_eq proper (by decide) same
  rw [of_isAscii (P := fun d => d.toUpper = '8' → d = '8') (by decide) ascii first]

/-- Of the words that may come first, those that begin with a digit are not spelled with a capital. -/
theorem isUpper_head_iff (proper : ∀ word ∈ words, Proper word) :
    (∀ c ∈ (words.flatMap spellWord).head?, c.isUpper = true) ↔
      ∀ next ∈ words.head?, ∀ c ∈ next.head?, c.isDigit = false := by
  cases words with
  | nil => simp
  | cons next words =>
    have ofNext := proper next List.mem_cons_self
    obtain ⟨c, rest, rfl⟩ := List.exists_cons_of_ne_nil ofNext.given
    have alnum := (alnumText_cons.1 ofNext.alnum).1
    rw [List.flatMap_cons, List.head?_append_of_ne_nil _ ofNext.spelled.given,
      head?_spellWord (isAscii_of_isAlphanum alnum)]
    simpa using isUpper_toUpper_iff alnum

/-- What begins with the digit after joining has it as a word of its own, unless a digit or a small
letter comes next. -/
theorem exists_eight {after : List Char} (proper : ∀ word ∈ words, Proper word)
    (split : words.flatMap spellWord = '8' :: after) (ends : ∀ c ∈ after.head?, c.isUpper = true) :
    ∃ last, words = ['8'] :: last ∧ last.flatMap spellWord = after := by
  cases words with
  | nil => cases split
  | cons eight last =>
    have ofEight := proper eight List.mem_cons_self
    obtain ⟨d, rest, begins⟩ := List.exists_cons_of_ne_nil ofEight.spelled.given
    rw [List.flatMap_cons, begins, List.cons_append, List.cons.injEq] at split
    obtain ⟨rfl, rfl⟩ := split
    cases rest with
    | nil => exact ⟨last, by rw [eq_of_spellWord_eight ofEight begins], rfl⟩
    | cons e rest =>
      have upper := ofEight.spelled.capital (begins.trans (List.nil_append _).symm) (ends e rfl)
      exact absurd upper (by decide)

/-- A word in title case begins with a word. -/
theorem TitleCase.exists_of_occurs (title : TitleCase t) (proper : ∀ word ∈ words, Proper word)
    (occurs : Occurs t (words.flatMap spellWord)) :
    ∃ former word latter after, words = former ++ word :: latter ∧
      spellWord word ++ latter.flatMap spellWord = t ++ after ∧
      ∀ c ∈ after.head?, c.isUpper = true := by
  obtain ⟨before, after, split, ends⟩ := occurs
  obtain ⟨x, y, rest, rfl, capital, -, small, -⟩ := title.cases
  have spelled : ∀ word ∈ words.map spellWord, Spelled word :=
    List.forall_mem_map.2 fun word inside => (proper word inside).spelled
  rw [List.flatMap_def] at split
  obtain ⟨first, second, parts, start⟩ := exists_of_flatten_eq spelled split capital small
  rw [parts, List.flatten_append, start] at split
  replace split := List.append_cancel_left split
  obtain ⟨former, latter, rfl, -, rfl⟩ := List.map_eq_append_iff.1 parts
  cases latter with
  | nil => cases split
  | cons word latter =>
    refine ⟨former, word, latter, after, rfl, ?_, ends⟩
    rwa [List.map_cons, List.flatten_cons, ← List.flatMap_def] at split

theorem splitsUtf8_of_occurs (proper : ∀ word ∈ words, Proper word) (member : t ∈ titles)
    (occurs : Occurs t (words.flatMap spellWord)) : t = utf8 ∧ SplitsUtf8 words := by
  have title := titleCase_of_mem_titles t member
  obtain ⟨former, word, latter, after, rfl, split, ends⟩ := title.exists_of_occurs proper occurs
  obtain ⟨-, ofWord, others⟩ : (∀ word ∈ former, Proper word) ∧ Proper word ∧
      ∀ word ∈ latter, Proper word := by
    simpa only [List.forall_mem_append, List.forall_mem_cons] using proper
  have spelled : ∀ word ∈ latter.map spellWord, Spelled word :=
    List.forall_mem_map.2 fun word inside => (others word inside).spelled
  rw [List.flatMap_def] at split
  -- It is not that word alone, and the next one does not begin with a small letter.
  rcases title.eq_or_of_flatten ofWord.spelled split ends with ⟨same, -⟩ | ⟨c, part, rfl, later⟩
  · exact absurd (same ▸ member) (spellWord_notMem_titles ofWord.alnum)
  · have notSmall : c.isLower = false := head_flatten spelled c (by rw [later]; rfl)
    obtain ⟨known, utf, rfl, rfl⟩ := eq_utf8_of_cut ofWord.spelled.given member notSmall
    rw [← List.flatMap_def] at later
    obtain ⟨last, rfl, rest⟩ := exists_eight others later ends
    have ofLast : ∀ word ∈ last, Proper word := (List.forall_mem_cons.1 others).2
    exact ⟨known, former, word, last, rfl, exists_of_spellWord_utf ofWord utf,
      (isUpper_head_iff ofLast).1 (rest ▸ ends)⟩

theorem spellWord_utf8 : spellWord "utf".toList = "Utf".toList ∧
    spellWord "Utf".toList = "Utf".toList ∧ spellWord ['8'] = ['8'] := by
  decide

theorem occurs_of_splitsUtf8 (proper : ∀ word ∈ words, Proper word) (splits : SplitsUtf8 words) :
    Occurs utf8 (words.flatMap spellWord) := by
  obtain ⟨before, word, after, rfl, utf, ends⟩ := splits
  obtain ⟨small, large, digit⟩ := spellWord_utf8
  have spells : spellWord word = "Utf".toList := by
    rcases utf with rfl | rfl
    · exact small
    · exact large
  obtain ⟨-, -, -, ofAfter⟩ : (∀ word ∈ before, Proper word) ∧ Proper word ∧ Proper ['8'] ∧
      ∀ word ∈ after, Proper word := by
    simpa only [List.forall_mem_append, List.forall_mem_cons] using proper
  refine ⟨before.flatMap spellWord, after.flatMap spellWord, ?_, (isUpper_head_iff ofAfter).2 ends⟩
  rw [List.flatMap_append, List.flatMap_cons, List.flatMap_cons, spells, digit]
  rfl

end Joined

section Segments
variable {text word t : List Char}

theorem occurs_of_mem_segment (alnum : AlnumText text) (member : t ∈ segment text) :
    Occurs t text := by
  obtain ⟨before, after, split⟩ := List.append_of_mem member
  have whole := flatten_segment text
  rw [split, List.flatten_append, List.flatten_cons] at whole
  refine ⟨before.flatten, after.flatten, whole.symm, fun c first => ?_⟩
  cases after with
  | nil => cases first
  | cons next after =>
    have later : next ∈ (segment text).tail := by
      rw [split]
      cases before with
      | nil => exact List.mem_cons_self
      | cons _ before =>
        exact List.mem_append_right before (List.mem_cons_of_mem t List.mem_cons_self)
    obtain ⟨d, rest, rfl, upper⟩ := isUppercase_of_mem_tail_segment later
    obtain rfl := Option.some.inj first
    have inside : d ∈ text := by
      rw [← whole]
      simp
    rwa [isUppercase_of_isAlphanum (alnum d inside)] at upper

/-- A capital starts a word after the digit. -/
theorem utf8_mem_segment_append {after : List Char} (alnum : AlnumText after)
    (ends : ∀ c ∈ after.head?, c.isUpper = true) : utf8 ∈ segment (utf8 ++ after) := by
  cases after with
  | nil => decide
  | cons c after =>
    have upper : c.isUpper = true := ends c rfl
    have ofC := (alnumText_cons.1 alnum).1
    have small : isLowercase c = false := by
      rw [isLowercase_of_isAlphanum ofC]
      exact isLower_eq_false_of_isUpper upper
    have starts : startsWord '8' c after.head? = true := by
      simp [startsWord, isUppercase_of_isAlphanum ofC, upper]
    have cut : segment ("Utf".toList ++ '8' :: c :: after) =
        segment ("Utf".toList ++ ['8']) ++ segment (c :: after) := segment_append small starts
    have first : utf8 ∈ segment ("Utf".toList ++ ['8']) := by decide
    exact cut ▸ List.mem_append_left _ first

theorem utf8_mem_segment (alnum : AlnumText text) (occurs : Occurs utf8 text) :
    utf8 ∈ segment text := by
  obtain ⟨before, after, rfl, ends⟩ := occurs
  obtain ⟨ofBefore, alnum⟩ := alnumText_append.1 alnum
  have latter := utf8_mem_segment_append (alnumText_append.1 alnum).2 ends
  rcases List.eq_nil_or_concat before with rfl | ⟨start, d, rfl⟩
  · exact latter
  · have starts : startsWord d 'U' (some 't') = true :=
      startsWord_of_isLowercase (ofBefore d (by simp)) (by decide) (by decide)
    have cut : segment (start ++ d :: 'U' :: ("tf8".toList ++ after)) =
        segment (start ++ [d]) ++ segment ('U' :: ("tf8".toList ++ after)) :=
      segment_append (by decide) starts
    rw [List.concat_eq_append, List.append_assoc, List.singleton_append]
    exact cut ▸ List.mem_append_right _ latter

/-- A word that is an initialism but for its case, and does not begin with a small letter, is the
initialism itself or stands in title case. -/
theorem eq_or_eq_titled (proper : Proper word) (head : ∀ c ∈ word.head?, c.isLower = false)
    (known : uppercase word ∈ initialisms) :
    word = uppercase word ∨ word = titled (uppercase word) := by
  have shape := initialisms_shape _ known
  rw [uppercase_of_ascii proper.alnum.ascii] at shape ⊢
  obtain ⟨given, alnum, unbroken⟩ := proper
  rcases word with _ | ⟨x, _ | ⟨y, word⟩⟩
  · exact absurd rfl given
  · have now := (alnumText_cons.1 alnum).1
    exact .inl (by rw [List.map_singleton, toUpper_of_not_isLower (head x rfl)])
  · obtain ⟨ofX, later⟩ := alnumText_cons.1 alnum
    have first : x.toUpper = x := toUpper_of_not_isLower (head x rfl)
    have capitals : ∀ c ∈ (x :: y :: word).dropLast, c.toUpper.isUpper = true := by
      intro c inside
      refine shape.2.2 c.toUpper ?_
      rw [← List.map_dropLast]
      exact List.mem_map_of_mem inside
    rw [List.dropLast_cons_of_ne_nil (List.cons_ne_nil y word), List.forall_mem_cons, first]
      at capitals
    cases small : y.isLower with
    | true =>
      have notUpper : y.isUpper = false := by
        rw [← Bool.not_eq_true]
        intro upper
        rw [isLower_eq_false_of_isUpper upper] at small
        cases small
      have others := unbroken.2.isUpper_eq_false later notUpper
      exact .inr (by rw [List.map_cons, titled, first, map_toLower_map_toUpper others])
    | false =>
      have digits : ∀ c ∈ (y :: word).dropLast, c.isDigit = false := by
        intro c inside
        exact (isUpper_toUpper_iff (later c (List.dropLast_subset _ inside))).1 (capitals.2 c inside)
      have others := unbroken.isLower_eq_false alnum capitals.1 small digits
      exact .inl (by rw [List.map_cons, first, map_toUpper_eq_self others])

/-- A word is spelled differently exactly if it is an initialism in title case. -/
theorem spellWord_eq_self_iff (proper : Proper word) (head : ∀ c ∈ word.head?, c.isLower = false) :
    spellWord word = word ↔ word ∉ titles := by
  constructor
  · intro same member
    exact spellWord_notMem_titles proper.alnum (same.symm ▸ member)
  · intro other
    rw [spellWord]
    split
    · -- An initialism in any other case than its own would not have been a word.
      next known =>
      have known := List.contains_iff_mem.1 known
      refine ((eq_or_eq_titled proper head known).resolve_right fun same => other ?_).symm
      rw [same]
      exact List.mem_map_of_mem known
    · obtain ⟨c, rest, rfl⟩ := List.exists_cons_of_ne_nil proper.given
      have now := (alnumText_cons.1 proper.alnum).1
      rw [capitalized, upper_of_isAscii (isAscii_of_isAlphanum now),
        toUpper_of_not_isLower (head c rfl), List.singleton_append]

end Segments

section Exported
variable {raw text : List Char}

/-- No plural is left in what has passed all steps. -/
theorem fixPlural_fixAbbreviation (text : List Char) :
    fixPlural (fixAbbreviation (fixPlural text)) = fixAbbreviation (fixPlural text) := by
  refine fixPlural_eq_self fun plural member ending => ?_
  obtain ⟨stem, same⟩ := ending
  have split : fixAbbreviation (fixPlural text) = stem ++ (plural.1 ++ []) := by simp [same]
  obtain ⟨start, last, before, nothing⟩ :=
    (titleCase_plurals plural member).exists_of_fixAbbreviation split
  -- So the plural was the ending before the abbreviations were fixed, and not left by the first step.
  have none_ : last = [] := by
    rw [← List.head?_eq_none_iff, ← head?_fixAbbreviation, nothing]
    rfl
  rw [none_, List.append_nil] at before
  exact not_plural_fixPlural text plural member ⟨start, before.symm⟩

theorem words_exportedChars (raw : List Char) :
    words (exportedChars raw) = segment (exportedChars raw) :=
  words_of_solid (solid_exportedChars raw)

variable (plain : ∀ c ∈ raw, c.isAlphanum = true ∨ isSeparator c = true)
include plain

theorem alnum_flatten_words : AlnumText (words raw).flatten := by
  intro c inside
  obtain ⟨word, member, letter⟩ := List.mem_flatten.1 inside
  exact (proper_of_mem_words plain member).alnum c letter

/-- All steps together only raise letters. -/
theorem raises_exportedChars : Raises (words raw).flatten (exportedChars raw) := by
  have spelled : Raises (words raw).flatten ((words raw).flatMap spellWord) :=
    raises_flatMap fun word member =>
      raises_spellWord (proper_of_mem_words plain member).alnum.ascii
  exact (spelled.trans (raises_fixPlural _)).trans (raises_fixAbbreviation _)

theorem alnum_exportedChars : AlnumText (exportedChars raw) :=
  (raises_exportedChars plain).alnum (alnum_flatten_words plain)

theorem head_exportedChars : ∀ c ∈ (exportedChars raw).head?, c.isLower = false := by
  rw [exportedChars, head?_fixAbbreviation, head?_fixPlural, List.flatMap_def]
  exact head_flatten (List.forall_mem_map.2 fun word member =>
    (proper_of_mem_words plain member).spelled)

/-- An exported identifier is raised no further if none of its words is. -/
theorem exportedChars_eq_self_iff :
    exportedChars (exportedChars raw) = exportedChars raw ↔
      ∀ word ∈ words (exportedChars raw), spellWord word = word := by
  have again : ∀ c ∈ exportedChars raw, c.isAlphanum = true ∨ isSeparator c = true :=
    fun c inside => .inl (alnum_exportedChars plain c inside)
  have whole := flatten_words (solid_exportedChars raw)
  have each : ∀ word ∈ words (exportedChars raw), Raises word (spellWord word) :=
    fun word member => raises_spellWord (proper_of_mem_words again member).alnum.ascii
  constructor
  · intro same
    -- The words are raised first, and the steps that follow would have to lower them again.
    have there : Raises (exportedChars raw) ((words (exportedChars raw)).flatMap spellWord) := by
      have spelled := raises_flatMap each
      rwa [whole] at spelled
    have back : Raises ((words (exportedChars raw)).flatMap spellWord) (exportedChars raw) := by
      have fixed := (raises_fixPlural ((words (exportedChars raw)).flatMap spellWord)).trans
        (raises_fixAbbreviation _)
      rwa [← exportedChars, same] at fixed
    refine eq_of_flatMap_eq each ?_
    rw [whole]
    exact (there.antisymm back).symm
  · intro same
    have kept : (words (exportedChars raw)).flatMap spellWord = exportedChars raw := by
      rw [List.flatMap_def, List.map_congr_left same, List.map_id', whole]
    rw [exportedChars, kept, exportedChars, fixPlural_fixAbbreviation,
      fixAbbreviation_fixAbbreviation]

/-- Of all initialisms in title case, one can be among the words of an exported identifier. -/
theorem exists_title_iff :
    (∃ word ∈ segment (exportedChars raw), word ∈ titles) ↔ SplitsUtf8 (words raw) := by
  have alnum := alnum_exportedChars plain
  have proper : ∀ word ∈ words raw, Proper word := fun word => proper_of_mem_words plain
  constructor
  · rintro ⟨word, member, title⟩
    have occurs := (titleCase_of_mem_titles word title).occurs_of_fixAbbreviation
      (occurs_of_mem_segment alnum member)
    exact (splitsUtf8_of_occurs proper title (occurs_of_fixPlural title occurs)).2
  · intro splits
    have occurs := utf8_occurs_fixAbbreviation (utf8_occurs_fixPlural
      (occurs_of_splitsUtf8 proper splits))
    exact ⟨utf8, utf8_mem_segment alnum occurs, utf8_mem_titles⟩

theorem head_of_mem_segment_exportedChars {word : List Char}
    (member : word ∈ segment (exportedChars raw)) : ∀ c ∈ word.head?, c.isLower = false := by
  intro c first
  cases pieces : segment (exportedChars raw) with
  | nil =>
    rw [pieces] at member
    cases member
  | cons start later =>
    rw [pieces] at member
    rcases List.mem_cons.1 member with rfl | member
    · -- The first word begins like the identifier.
      have whole := flatten_segment (exportedChars raw)
      rw [pieces, List.flatten_cons] at whole
      refine head_exportedChars plain c ?_
      rw [← whole, List.head?_append_of_ne_nil]
      · exact first
      · rintro rfl
        cases first
    · have tail : word ∈ (segment (exportedChars raw)).tail := by
        rw [pieces]
        exact member
      obtain ⟨d, rest, rfl, upper⟩ := isUppercase_of_mem_tail_segment tail
      obtain rfl := Option.some.inj first
      have inside : d ∈ exportedChars raw :=
        subset_of_mem_segment (List.mem_of_mem_tail tail) List.mem_cons_self
      rw [isUppercase_of_isAlphanum (alnum_exportedChars plain d inside)] at upper
      exact isLower_eq_false_of_isUpper upper

theorem exportedChars_exportedChars_iff :
    exportedChars (exportedChars raw) = exportedChars raw ↔ ¬SplitsUtf8 (words raw) := by
  have alnum := alnum_exportedChars plain
  rw [exportedChars_eq_self_iff plain, words_exportedChars, ← exists_title_iff plain]
  have each : ∀ word ∈ segment (exportedChars raw), spellWord word = word ↔ word ∉ titles :=
    fun word member => spellWord_eq_self_iff (proper_of_mem_segment alnum member)
      (head_of_mem_segment_exportedChars plain member)
  simp only [not_exists, not_and]
  exact forall₂_congr each

end Exported

/-- Exporting a name of letters, digits and separators twice is exporting it once, unless "utf" and
"8" are two words of it and the digit ends its number. -/
theorem exported_exported_iff {raw : String}
    (plain : ∀ c ∈ raw.toList, c.isAlphanum = true ∨ isSeparator c = true) :
    exported (exported raw) = exported raw ↔ ¬SplitsUtf8 (words raw.toList) := by
  rw [exported, exported, String.ofList_inj, String.toList_ofList]
  exact exportedChars_exportedChars_iff plain

theorem exported_exported_iff_frame :
    (∀ c ∈ "frame-id".toList, c.isAlphanum = true ∨ isSeparator c = true) ∧
      (exported (exported "frame-id") = exported "frame-id" ↔
        ¬SplitsUtf8 (words "frame-id".toList)) :=
  ⟨by decide, exported_exported_iff (by decide)⟩

theorem exported_exported_ne : exported (exported "utf_8") ≠ exported "utf_8" := by
  decide +kernel

end Bindings.Name
