import Bindings.Go.Doc
import Bindings.Proofs.Go.Rendering
import Bindings.Proofs.Text.CodeLines
import Bindings.Proofs.Text.Unbroken
import Bindings.Proofs.Threading

/-! Go source that differs in its comments alone.

Comments stand on lines of their own, between the declarations, in front of the fields of a struct
and in front of the members of an interface. Whatever they say is left out with these lines, as long
as no comment goes on in a line that is none.
-/

set_option autoImplicit false

namespace Bindings.Go

open Text (Alike AlikeAhead AlikeLines codeLines isComment)

section Comments

theorem toList_tabs (n : Nat) : (tabs n).toList = List.replicate n '\t' := by
  induction n with
  | zero => rfl
  | succ n ih =>
    rw [List.replicate_succ', ← ih]
    exact String.toList_push _

theorem isComment_commentLine (indent : Nat) (text : String) :
    isComment (commentLine indent text) = true := by
  rw [commentLine, String.toList_append, toList_tabs, isComment,
    List.dropWhile_append_of_pos (by simp)]
  split
  · rfl
  · rw [String.toList_append]
    rfl

theorem newline_notMem_commentLine {indent : Nat} {text : String} (unbroken : Unbroken text) :
    '\n' ∉ commentLine indent text := by
  have indented : '\n' ∉ (tabs indent).toList := by simp [toList_tabs]
  have spaced : Unbroken ("// " ++ text) := unbroken_append.2 ⟨by decide, unbroken⟩
  rw [commentLine, String.toList_append, List.mem_append, not_or]
  refine ⟨indented, ?_⟩
  split
  · decide
  · exact spaced

namespace Doc

theorem unbroken_ofLead {lead : String} {description : List String} (begins : Unbroken lead)
    (rest : AllUnbroken description) : AllUnbroken (ofLead lead description).lines := by
  cases description with
  | nil => exact List.forall_mem_singleton.2 begins
  | cons first others =>
    obtain ⟨now, later⟩ := List.forall_mem_cons.1 rest
    refine List.forall_mem_cons.2 ⟨?_, later⟩
    split
    · exact begins
    · split
      · exact now
      · exact unbroken_append.2 ⟨unbroken_append.2 ⟨begins, by decide⟩, now⟩

theorem unbroken_paragraph {doc : Doc} {lines : List String} (h : AllUnbroken doc.lines)
    (more : AllUnbroken lines) : AllUnbroken (doc.paragraph lines).lines := by
  rw [paragraph]
  split
  · exact h
  · exact List.forall_mem_append.2 ⟨h, List.forall_mem_cons.2 ⟨by decide, more⟩⟩

theorem unbroken_notes {doc : Doc} {subject : String} (h : AllUnbroken doc.lines)
    (named : Unbroken subject) (experimental deprecated : Bool) :
    AllUnbroken (doc.notes subject experimental deprecated).lines := by
  have note (start rest : String) (before : Unbroken start) (after : Unbroken rest) :
      AllUnbroken [start ++ subject ++ rest] :=
    List.forall_mem_singleton.2 (unbroken_append.2 ⟨unbroken_append.2 ⟨before, named⟩, after⟩)
  have first : AllUnbroken (if experimental then
      doc.paragraph ["Note: This " ++ subject ++ " is experimental."] else doc).lines := by
    split
    · exact unbroken_paragraph h (note _ _ (by decide) (by decide))
    · exact h
  rw [notes]
  split
  · exact unbroken_paragraph first (note _ _ (by decide) (by decide))
  · exact first

end Doc

/-- Comments that are left out with their lines, or the same comments. -/
inductive DocAlike : List String → List String → Prop where
  | same (doc : List String) : DocAlike doc doc
  | unbroken {first second : List String} (left : AllUnbroken first)
      (right : AllUnbroken second) : DocAlike first second

theorem chars_printDoc_nil {doc : List String} (unbroken : AllUnbroken doc)
    (indent : Nat) : AlikeLines (chars (printDoc indent doc)) [] := by
  induction doc with
  | nil => exact .nil
  | cons line rest ih =>
    obtain ⟨first, others⟩ := List.forall_mem_cons.1 unbroken
    rw [printDoc, List.map_cons, chars_comment]
    exact (AlikeLines.comment (isComment_commentLine indent line)
      (newline_notMem_commentLine first)).append (ih others)

theorem chars_printDoc_self (indent : Nat) (doc : List String) :
    AlikeLines (chars (printDoc indent doc)) (chars (printDoc indent doc)) := by
  induction doc with
  | nil => exact .nil
  | cons line rest ih =>
    rw [printDoc, List.map_cons, chars_comment]
    exact (AlikeLines.line (.refl _)).append ih

theorem DocAlike.print {first second : List String} (h : DocAlike first second) (indent : Nat) :
    AlikeLines (chars (printDoc indent first)) (chars (printDoc indent second)) := by
  cases h with
  | same => exact chars_printDoc_self indent first
  | unbroken left right =>
    exact (chars_printDoc_nil left indent).trans (chars_printDoc_nil right indent).symm

end Comments

section Types

mutual
inductive TypeExpr.Alike : TypeExpr → TypeExpr → Prop where
  | same (type : TypeExpr) : TypeExpr.Alike type type
  | pointer {first second : TypeExpr} (target : TypeExpr.Alike first second) :
    TypeExpr.Alike (.pointer first) (.pointer second)
  | slice {first second : TypeExpr} (element : TypeExpr.Alike first second) :
    TypeExpr.Alike (.slice first) (.slice second)
  | struct {first second : List Field} (fields : FieldsAlike first second) :
    TypeExpr.Alike (.struct first) (.struct second)

inductive FieldsAlike : List Field → List Field → Prop where
  | nil : FieldsAlike [] []
  | cons {doc doc' : List String} {name : String} {type type' : TypeExpr} {tag : Option String}
      {first second : List Field} (docs : DocAlike doc doc') (typed : TypeExpr.Alike type type')
      (others : FieldsAlike first second) :
    FieldsAlike (.mk doc name type tag :: first) (.mk doc' name type' tag :: second)
end

/-- What stands between the type of a field and the end of its line. -/
def tagText (tag : Option String) : String :=
  match tag with
  | some tag => " `json:\"" ++ tag ++ "\"`"
  | none => ""

theorem chars_printAll_cons (doc : List String) (name : String) (type : TypeExpr)
    (tag : Option String) (fields : List Field) :
    chars (Field.printAll (.mk doc name type tag :: fields)) = chars (printDoc 1 doc) ++
      ((("\t" ++ name ++ " ").toList ++ chars type.print ++ (tagText tag).toList ++ ['\n']) ++
        chars (Field.printAll fields)) := by
  cases tag <;> simp [Field.printAll, tagText, List.append_assoc]

mutual
theorem TypeExpr.Alike.print {first second : TypeExpr} :
    first.Alike second → Alike (chars first.print) (chars second.print)
  | .same _ => .refl _
  | .pointer target => by
    rw [TypeExpr.print, TypeExpr.print, chars_code, chars_code]
    exact (Text.Alike.refl _).append target.print
  | .slice element => by
    rw [TypeExpr.print, TypeExpr.print, chars_code, chars_code]
    exact (Text.Alike.refl _).append element.print
  | .struct fields => by
    -- The fields begin after a line feed, so that they may begin with comments.
    have opened : "struct \x7b\n".toList = "struct \x7b".toList ++ ['\n'] := by decide
    rw [TypeExpr.print, TypeExpr.print, chars_code, chars_code, chars_append, chars_append, opened,
      List.append_assoc, List.append_assoc]
    exact (Text.Alike.refl _).append (fields.print.ahead (.refl _)).newline

theorem FieldsAlike.print {first second : List Field} :
    FieldsAlike first second →
      AlikeLines (chars (Field.printAll first)) (chars (Field.printAll second))
  | .nil => .nil
  | .cons docs typed others => by
    rw [chars_printAll_cons, chars_printAll_cons]
    refine (docs.print 1).append (AlikeLines.append (.line ?_) others.print)
    exact ((Text.Alike.refl _).append typed.print).append (.refl _)
end

end Types

section Declarations

structure Param.Alike (first second : Param) : Prop where
  name : first.name = second.name
  type : first.type.Alike second.type

theorem Param.Alike.refl (param : Param) : param.Alike param := ⟨rfl, .same _⟩

theorem Param.Alike.print {first second : Param} (h : first.Alike second) :
    Text.Alike (chars first.print) (chars second.print) := by
  obtain ⟨name, type⟩ := first
  obtain ⟨name', type'⟩ := second
  obtain ⟨rfl, typed⟩ := h
  cases name with
  | none => exact typed.print
  | some name => exact (Text.Alike.refl _).append typed.print

theorem alike_separate (separator : String) {first second : List (List Piece)}
    (each : List.Forall₂ (fun a b => Alike (chars a) (chars b)) first second) :
    Alike (chars (separate separator first)) (chars (separate separator second)) := by
  induction each with
  | nil => exact .refl _
  | cons now later ih =>
    cases later with
    | nil => exact now
    | cons next others =>
      simp only [separate, chars_append, chars_code]
      exact now.append ((Text.Alike.refl _).append ih)

theorem alikeLines_separate {separator : String}
    (whole : AlikeLines separator.toList separator.toList) {first second : List (List Piece)}
    (each : List.Forall₂ (fun a b => AlikeLines (chars a) (chars b)) first second) :
    AlikeLines (chars (separate separator first)) (chars (separate separator second)) := by
  induction each with
  | nil => exact .nil
  | cons now later ih =>
    cases later with
    | nil => exact now
    | cons next others =>
      simp only [separate, chars_append, chars_code]
      exact now.append (whole.append ih)

structure Function.Alike (first second : Function) : Prop where
  docs : DocAlike first.doc second.doc
  receiver : first.receiver = second.receiver
  name : first.name = second.name
  params : List.Forall₂ Param.Alike first.signature.params second.signature.params
  results : first.signature.results = second.signature.results
  body : first.body = second.body

theorem Function.Alike.print {first second : Function} (h : first.Alike second) :
    AlikeLines (chars first.print) (chars second.print) := by
  obtain ⟨doc, receiver, name, ⟨params, results⟩, body⟩ := first
  obtain ⟨doc', receiver', name', ⟨params', results'⟩, body'⟩ := second
  obtain ⟨docs, rfl, rfl, typed, rfl, rfl⟩ := h
  obtain ⟨closing, printed⟩ := Function.exists_line receiver name results body
  have separated := alike_separate ", " (List.forall₂_map_left_iff.2
    (List.forall₂_map_right_iff.2 (typed.imp fun _ _ alike => alike.print)))
  rw [printed, printed]
  exact (docs.print 0).append (.line (((Text.Alike.refl _).append separated).append (.refl _)))

inductive Member.Alike : Member → Member → Prop where
  | method {doc doc' : List String} (docs : DocAlike doc doc') (name : String)
      (signature : Signature) :
    Member.Alike (.method doc name signature) (.method doc' name signature)
  | embedded (type : TypeExpr) : Member.Alike (.embedded type) (.embedded type)

theorem Member.Alike.refl (member : Member) : member.Alike member := by
  cases member with
  | method doc name signature => exact .method (.same doc) name signature
  | embedded type => exact .embedded type

theorem Member.Alike.print {first second : Member} (h : first.Alike second) :
    AlikeLines (chars first.print) (chars second.print) := by
  cases h with
  | method docs name signature =>
    have line := AlikeLines.line (Text.Alike.refl (("\t" ++ name).toList ++ chars signature.print))
    simpa [Member.print, List.append_assoc] using (docs.print 1).append line
  | embedded type =>
    have line := AlikeLines.line (Text.Alike.refl ("\t".toList ++ chars type.print))
    simpa [Member.print, List.append_assoc] using line

/-- Declarations that differ in comments. Fixed source text is not among them. -/
inductive Decl.Alike : Decl → Decl → Prop where
  | type {doc doc' : List String} {type type' : TypeExpr} (docs : DocAlike doc doc')
      (name : String) (typed : type.Alike type') :
    Decl.Alike (.type doc name type) (.type doc' name type')
  | synonym {doc doc' : List String} (docs : DocAlike doc doc') (name : String)
      (target : TypeExpr) : Decl.Alike (.synonym doc name target) (.synonym doc' name target)
  | interface {doc doc' : List String} {members members' : List Member} (docs : DocAlike doc doc')
      (name : String) (spaced : Bool) (each : List.Forall₂ Member.Alike members members') :
    Decl.Alike (.interface doc name spaced members) (.interface doc' name spaced members')
  | function {first second : Function} (alike : first.Alike second) :
    Decl.Alike (.function first) (.function second)
  | constants {doc doc' : List String} (docs : DocAlike doc doc') (type : Option TypeExpr)
      (entries : List Constant) :
    Decl.Alike (.constants doc type entries) (.constants doc' type entries)

theorem Decl.Alike.refl {decl : Decl} (printed : decl.isFixed = false) : decl.Alike decl := by
  cases decl with
  | type doc name type => exact .type (.same doc) name (.same type)
  | synonym doc name target => exact .synonym (.same doc) name target
  | interface doc name spaced members =>
    exact .interface (.same doc) name spaced (List.forall₂_same.2 fun member _ => .refl member)
  | function f =>
    exact .function ⟨.same _, rfl, rfl, List.forall₂_same.2 fun param _ => .refl param, rfl, rfl⟩
  | constants doc type entries => exact .constants (.same doc) type entries
  | verbatim names text => cases printed

theorem Decl.Alike.print {first second : Decl} (h : first.Alike second) :
    AlikeLines (chars first.print) (chars second.print) := by
  cases h with
  | type docs name typed =>
    have line := AlikeLines.line
      ((Text.Alike.refl ("type " ++ name ++ " ").toList).append typed.print)
    simpa [Decl.print, List.append_assoc] using (docs.print 0).append line
  | synonym docs name target =>
    have line := AlikeLines.line
      (Text.Alike.refl (("type " ++ name ++ " = ").toList ++ chars target.print))
    simpa [Decl.print, List.append_assoc] using (docs.print 0).append line
  | interface docs name spaced each =>
    have separator : AlikeLines (if spaced then "\n" else "").toList
        (if spaced then "\n" else "").toList := by
      cases spaced with
      | true => exact AlikeLines.line (.refl [])
      | false => exact .nil
    have opening := AlikeLines.line (Text.Alike.refl ("type " ++ name ++ " interface \x7b").toList)
    have members := alikeLines_separate separator (List.forall₂_map_left_iff.2
      (List.forall₂_map_right_iff.2 (each.imp fun _ _ alike => alike.print)))
    have closing := AlikeLines.line (Text.Alike.refl ['\x7d'])
    simpa [Decl.print, List.append_assoc] using
      (docs.print 0).append (opening.append (members.append closing))
  | function alike => exact alike.print
  | constants docs type entries =>
    have line := AlikeLines.line (Text.Alike.refl
      ("const (\n".toList ++ chars (entries.flatMap (Constant.print type)) ++ [')']))
    simpa [Decl.print, List.append_assoc] using (docs.print 0).append line

structure Item.Alike (first second : Item) : Prop where
  decl : first.decl.Alike second.decl
  spaced : first.spaced = second.spaced

theorem Item.Alike.print {first second : Item} (h : first.Alike second) :
    AlikeLines (chars first.print) (chars second.print) := by
  obtain ⟨decl, spaced⟩ := first
  obtain ⟨decl', spaced'⟩ := second
  obtain ⟨alike, rfl⟩ := h
  cases spaced with
  | true => simpa [Item.print] using alike.print.append (AlikeLines.line (.refl []))
  | false => simpa [Item.print] using alike.print

theorem alikeLines_items {first second : List Item} (each : List.Forall₂ Item.Alike first second) :
    AlikeLines (first.flatMap fun item => chars item.print)
      (second.flatMap fun item => chars item.print) := by
  induction each with
  | nil => exact .nil
  | cons item _ rest => exact item.print.append rest

theorem Decl.Alike.printed {first second : Decl} (h : first.Alike second) :
    first.isFixed = false ∧ second.isFixed = false := by
  cases h <;> exact ⟨rfl, rfl⟩

end Declarations

section Files

namespace SourceFile

/-- Files that cannot be told apart by their place, by their imports or by their code. -/
structure SameCode (first second : SourceFile) : Prop where
  path : first.path = second.path
  package : first.package = second.package
  imports : first.imports = second.imports
  code : codeLines first.render.toList = codeLines second.render.toList

namespace SameCode

theorem refl (file : SourceFile) : SameCode file file := ⟨rfl, rfl, rfl, rfl⟩

variable {first second third : SourceFile}

theorem symm (h : SameCode first second) : SameCode second first :=
  ⟨h.path.symm, h.package.symm, h.imports.symm, h.code.symm⟩

theorem trans (h : SameCode first second) (h' : SameCode second third) : SameCode first third :=
  ⟨h.path.trans h'.path, h.package.trans h'.package, h.imports.trans h'.imports,
    h.code.trans h'.code⟩

/-- Files of which each has the code of the same one. -/
theorem meet {files others plain : List SourceFile} (h : List.Forall₂ SameCode files plain)
    (h' : List.Forall₂ SameCode others plain) : List.Forall₂ SameCode files others := by
  induction h generalizing others with
  | nil =>
    cases h' with
    | nil => exact .nil
  | cons now _ ih =>
    cases h' with
    | cons now' later' => exact .cons (now.trans now'.symm) (ih later')

end SameCode

/-- Files that differ in the comments of their declarations and in those of their package. -/
structure Alike (first second : SourceFile) : Prop where
  path : first.path = second.path
  package : first.package = second.package
  docs : DocAlike first.doc second.doc
  imports : first.imports = second.imports
  items : List.Forall₂ Item.Alike first.items second.items

variable {first second : SourceFile}

/-- The heading of a file without its last line feed, which begins with comments. -/
theorem toList_heading (file : SourceFile) :
    file.heading.toList = (generatedHeader ++ "\n").toList ++ ['\n'] ++
      chars (printDoc 0 file.doc) ++
        ("package " ++ file.package ++ "\n" ++ importBlock file.imports).toList := by
  simp [heading, toList_join, List.append_assoc]

theorem Alike.codeLines_eq (h : first.Alike second) :
    codeLines first.render.toList = codeLines second.render.toList := by
  have opening : AlikeLines
      ((generatedHeader ++ "\n").toList ++ ['\n'] ++ chars (printDoc 0 first.doc))
      ((generatedHeader ++ "\n").toList ++ ['\n'] ++ chars (printDoc 0 second.doc)) :=
    (AlikeLines.line (.refl _)).append (h.docs.print 0)
  have clause : "package " ++ first.package ++ "\n" ++ importBlock first.imports =
      "package " ++ second.package ++ "\n" ++ importBlock second.imports := by
    rw [h.package, h.imports]
  by_cases nothing : first.items = []
  · have nothing' : second.items = [] := by
      have paired := h.items
      rw [nothing] at paired
      exact List.forall₂_nil_left_iff.1 paired
    rw [render, render, isEmpty_of_items nothing, isEmpty_of_items nothing', if_pos rfl, if_pos rfl,
      toList_heading, toList_heading, clause]
    simpa using opening.ahead (.refl _) []
  · have other : second.items ≠ [] := fun nothing' => by
      have paired := h.items
      rw [nothing'] at paired
      exact nothing (List.forall₂_nil_right_iff.1 paired)
    have printed : ∀ item ∈ first.items, item.decl.isFixed = false := fun item member => by
      obtain ⟨_, _, alike⟩ := exists_of_mem_left h.items member
      exact alike.decl.printed.1
    have printed' : ∀ item ∈ second.items, item.decl.isFixed = false := fun item member => by
      obtain ⟨_, _, alike⟩ := exists_of_mem_right h.items member
      exact alike.decl.printed.2
    have framed := framed_body nothing printed
    have framed' := framed_body other printed'
    rw [render_of_framed framed, render_of_framed framed']
    rw [String.toList_append, String.toList_append, String.toList_append, String.toList_append]
    rw [toList_heading, toList_heading, clause, toList_body, toList_body]
    -- The line feed below the heading ends the line of the package or of the imports.
    have closing := AlikeLines.line (.refl
      ("package " ++ second.package ++ "\n" ++ importBlock second.imports).toList)
    have whole := opening.append (closing.append (alikeLines_items h.items))
    simpa [List.append_assoc] using whole.codeLines_eq

theorem Alike.sameCode (h : first.Alike second) : SameCode first second :=
  ⟨h.path, h.package, h.imports, h.codeLines_eq⟩

end SourceFile

end Files

end Bindings.Go
