import Bindings.Proofs.Emission.Comments
import Bindings.Proofs.Emission.Packages
import Bindings.Proofs.Go.Plain
import Bindings.Proofs.Name.Literals
import Bindings.Proofs.Name.Unexported

/-! Plain names lead to plain declarations.

A protocol whose names are letters, digits and underscores leaves no sign in the identifiers and the
literals of emitted code that could be read as anything else.
-/

set_option autoImplicit false

namespace Bindings

open Go (Decl NameScope SourceFile TypeExpr Unmarked Unquoted isWordChar plain_append
  unmarked_append unquoted_append)
open Go.Reader (IsWord)

/-- A name of letters, digits and underscores, and not of underscores alone. -/
def PlainName (name : String) : Prop :=
  (∀ c ∈ name.toList, c.isAlphanum = true ∨ c = '_') ∧ ∃ c ∈ name.toList, c.isAlphanum = true

instance : DecidablePred PlainName := fun name =>
  @instDecidableAnd _ _ (List.decidableBAll _ name.toList) (List.decidableBEx _ name.toList)

theorem isWord_of_alnum {text : String} (given : text ≠ "")
    (alnum : Unicode.AlnumText text.toList) : IsWord text :=
  ⟨given, fun c member => by rw [isWordChar, alnum c member, Bool.true_or, Bool.true_or]⟩

theorem isWord_withoutDomain {domain type : String} (h : IsWord type) :
    IsWord (Name.withoutDomain domain type) := by
  rw [Name.withoutDomain]
  split
  · next c rest after =>
    split
    · have cut : type.toList = domain.toList ++ c :: rest := Text.after?_eq_some.1 after
      refine ⟨fun nothing => ?_, fun d member => h.2 d ?_⟩
      · exact absurd (String.ofList_eq_empty_iff.1 nothing) (List.cons_ne_nil c rest)
      · rw [cut]
        exact List.mem_append_right _ (by rwa [String.toList_ofList] at member)
    · exact h
  · exact h

theorem isWord_of_sharedTypes : ∀ shared ∈ sharedTypes, IsWord shared.ident := by decide

namespace Emission.Imports

variable (root : String)

@[simp] theorem isWord_rpcc : IsWord (rpcc root).name := show IsWord "rpcc" by decide

@[simp] theorem isWord_internal : IsWord (internal root).name := show IsWord "internal" by decide

@[simp] theorem isWord_testutil : IsWord (testutil root).name := show IsWord "testutil" by decide

end Emission.Imports

namespace PlainName

variable {name : String} (h : PlainName name)
include h

theorem ne_empty : name ≠ "" := by
  rintro rfl
  obtain ⟨-, c, member, -⟩ := h
  cases member

theorem word : IsWord name := by
  refine ⟨h.ne_empty, fun c member => ?_⟩
  rcases h.1 c member with alnum | rfl
  · rw [isWordChar, alnum, Bool.true_or, Bool.true_or]
  · decide

theorem divided : ∀ c ∈ name.toList, c.isAlphanum = true ∨ Name.isSeparator c = true :=
  fun c member => (h.1 c member).imp_right fun same => by
    rw [same]
    decide

theorem exported : IsWord (Name.exported name) := by
  have alnum : Unicode.AlnumText (Name.exported name).toList := by
    rw [Name.exported, String.toList_ofList]
    exact Name.alnum_exportedChars h.divided
  refine isWord_of_alnum (fun nothing => ?_) alnum
  have ascii : Unicode.AsciiText name.toList := fun c member => by
    rcases h.1 c member with alnum | rfl
    · exact Unicode.isAscii_of_isAlphanum alnum
    · decide
  have separators : ∀ c ∈ name.toList, Name.isSeparator c = true :=
    (Name.exportedChars_eq_nil_iff ascii).1 (String.ofList_eq_empty_iff.1 nothing)
  obtain ⟨-, c, member, letter⟩ := h
  have single : Unicode.AlnumText [c] := List.forall_mem_singleton.2 letter
  have solid := Name.solid_of_alnum single c (List.mem_singleton_self c)
  exact Bool.false_ne_true (solid.symm.trans (separators c member))

theorem parameter : Go.Plain (Name.parameter name) := by
  have alnum := Name.alnum_parameterChars h.divided
  intro c member
  rw [Name.parameter, String.toList_ofList] at member
  rw [Go.Reader.isPlain, isWordChar, alnum c member, Bool.true_or, Bool.true_or, Bool.true_or]

theorem package : IsWord (Name.package name) := by
  refine ⟨fun nothing => ?_, fun c member => ?_⟩
  · have same := congrArg (String.toList) nothing
    rw [Name.package, String.toList_ofList, Unicode.asciiLowercase, String.toList_empty,
      List.map_eq_nil_iff] at same
    exact h.ne_empty (String.toList_eq_nil_iff.1 same)
  · rw [Name.package, String.toList_ofList, Unicode.asciiLowercase] at member
    obtain ⟨d, inside, rfl⟩ := List.mem_map.1 member
    rcases h.1 d inside with alnum | rfl
    · rw [isWordChar, Unicode.isAlphanum_toLower alnum, Bool.true_or, Bool.true_or]
    · decide

end PlainName

namespace Emission

def Chunk.Plain (chunk : Chunk) : Prop := ∀ item ∈ chunk.items, item.decl.Plain

namespace Chunk.Plain

variable {first second : Chunk}

theorem empty : Chunk.Plain {} := fun _ member => nomatch member

theorem append (before : first.Plain) (after : second.Plain) : (first ++ second).Plain :=
  fun item member => (List.mem_append.1 member).elim (before item) (after item)

theorem concat {chunks : List Chunk} (each : ∀ chunk ∈ chunks, chunk.Plain) :
    (concat chunks).Plain := by
  intro item member
  rw [items_concat] at member
  obtain ⟨chunk, found, inside⟩ := List.mem_flatMap.1 member
  exact each chunk found item inside

theorem singleton {imports : List String} {decl : Decl} {spaced : Bool}
    (plain : decl.Plain) : Chunk.Plain ⟨imports, [⟨decl, spaced⟩]⟩ :=
  List.forall_mem_singleton.2 plain

theorem ofDecls {packages : List Go.Package} {decls : List Decl}
    (plain : ∀ decl ∈ decls, decl.Plain) : (ofDecls packages decls).Plain :=
  List.forall_mem_map.2 plain

end Chunk.Plain

/-- A site whose nodes have plain names, and references that lead to what is plain. -/
structure Site.Clear (site : Site) (names references : List String) : Prop where
  names : ∀ name ∈ names, PlainName name
  references : ∀ raw ∈ references, ∀ reference,
    Reference.resolve raw site.domain = .ok reference → (reference.type site.root).Plain

theorem Site.Clear.subset {site : Site} {few many few' many' : List String}
    (clear : site.Clear many many') (names : few ⊆ many) (references : few' ⊆ many') :
    site.Clear few few' :=
  ⟨fun name member => clear.names name (names member),
    fun raw member => clear.references raw (references member)⟩

section Nodes

variable {site : Site} {node : TypeNode} {use : TypeUse} {nodes : List TypeNode} {owner : String}

theorem plain_fieldType (plain : use.type.Plain) : (fieldType node owner use).Plain := by
  rw [fieldType]
  split
  · exact plain
  · exact plain

theorem unmarked_fieldTag (named : PlainName node.wireName) : Unmarked (fieldTag node) := by
  rw [fieldTag]
  split
  · exact unmarked_append.2 ⟨named.word.unmarked, by decide⟩
  · exact named.word.unmarked

namespace Site

/-- The types of clear nodes are plain, and so are the fields of a struct. -/
theorem plain_of_use :
    (∀ {node use}, site.use node = .ok use → site.Clear node.innerNames node.references →
      use.type.Plain) ∧
    ∀ {owner scope nodes uses}, site.fieldUses owner scope nodes = .ok uses →
      site.Clear (TypeNode.listNames nodes) (TypeNode.listReferences nodes) →
        Go.Field.AllPlain uses.fields := by
  apply use_induction
    (U := fun node use => site.Clear node.innerNames node.references → use.type.Plain)
    (F := fun _ _ nodes uses =>
      site.Clear (TypeNode.listNames nodes) (TypeNode.listReferences nodes) →
        Go.Field.AllPlain uses.fields)
  -- Only the type of a reference is made from names that are not the node's own.
  case reference =>
    intro node raw use found used clear
    obtain ⟨-, reference, resolved, rfl⟩ := referenceUse_eq_ok used
    exact clear.references raw (TypeNode.mem_references_self found) reference resolved
  case sequence =>
    intro node item element _ found ih clear
    refine ih (clear.subset ?_ fun raw => TypeNode.mem_references_item found)
    rw [node.innerNames_eq, found]
    exact List.subset_append_left _ _
  case record =>
    intro node uses _ ih clear
    exact ih (clear.subset node.listNames_properties node.properties_references_subset)
  case plain =>
    intro node shape use _ found _
    cases shape <;> cases found <;> simp +decide [TypeUse.plain]
  case nil => exact fun _ => trivial
  case cons =>
    intro owner scope next node nodes use rest _ ofNode ofNodes clear
    have named : PlainName node.wireName := clear.names _ List.mem_cons_self
    have inner := clear.subset (List.subset_cons_of_subset _ (List.subset_append_left _ _))
      (List.subset_append_left _ _)
    have later := clear.subset (List.subset_cons_of_subset _ (List.subset_append_right _ _))
      (List.subset_append_right _ _)
    exact ⟨unbroken_fieldDoc named.word.unbroken, named.exported.plain,
      plain_fieldType (ofNode inner), unmarked_fieldTag named, ofNodes later⟩

end Site

end Nodes

theorem plain_method {doc : List String} {self name : String} {receiver : TypeExpr}
    {params results : List Go.Param} {body : List Go.Statement} :
    (method doc self receiver name params results body).Plain ↔
      (AllUnbroken doc ∧ Go.Plain self ∧ receiver.Plain) ∧ Go.Plain name ∧
        ((∀ param ∈ params, param.Plain) ∧ ∀ param ∈ results, param.Plain) ∧
          Go.Statement.AllPlain body := by
  rw [method, Decl.plain_function]
  simp

section Fragments

@[simp] theorem plain_nullLiteral : nullLiteral.Plain :=
  show Unquoted "null" by decide

@[simp] theorem plain_returnNull : returnNull.Plain := by
  simp +decide [returnNull]

@[simp] theorem plain_dataIsNull : dataIsNull.Plain := by
  simp +decide [dataIsNull]

@[simp] theorem plain_unmarshalInto {target : String} :
    (unmarshalInto target).Plain ↔ Go.Plain target := by
  simp +decide [unmarshalInto]

@[simp] theorem plain_toFloat {name : String} :
    (toFloat name).Plain ↔ Go.Plain name := by
  simp +decide [toFloat]

@[simp] theorem plain_inSeconds (unit : TimeUnit) :
    (TimeUnit.inSeconds unit).Plain := by
  cases unit <;> simp +decide [TimeUnit.inSeconds]

theorem unbroken_word (unit : TimeUnit) : Unbroken (TimeUnit.word unit) := by
  cases unit <;> decide

@[simp] theorem plain_errorResult : errorResult.Plain :=
  Go.Param.plain_unnamed.2 (show Go.Plain "error" by decide)

@[simp] theorem plain_dataParam : dataParam.Plain :=
  ⟨show Go.Plain "data" by decide, Go.TypeExpr.plain_bytes⟩

end Fragments

section Definitions

variable {doc : List String} {ident : String} (unbroken : AllUnbroken doc) (word : IsWord ident)
include unbroken word

theorem plain_enumDecls (literals : List String) :
    ∀ decl ∈ enumDecls doc ident literals, decl.Plain := by
  have texts : Go.Expr.AllPlain (literals.map Go.Expr.text) :=
    Go.Expr.allPlain_iff.2 (List.forall_mem_map.2 fun _ _ => trivial)
  have constants : ∀ entry ∈ enumConstants ident literals, Go.Plain entry.name := by
    refine List.forall_mem_cons.2 ⟨plain_append.2 ⟨word.plain, by decide⟩, ?_⟩
    refine List.forall_mem_map.2 fun literal _ => plain_append.2 ⟨word.plain, ?_⟩
    intro c member
    rw [Name.literal, String.toList_ofList] at member
    rw [Go.Reader.isPlain, isWordChar, Name.alnum_literalChars _ c member, Bool.true_or,
      Bool.true_or, Bool.true_or]
  rw [enumDecls, List.forall_mem_cons, List.forall_mem_cons]
  refine ⟨⟨unbroken, word.plain, show Go.Plain "string" by decide⟩,
    Decl.plain_constants.2 ⟨?_, word.plain, constants⟩, ?_⟩
  · simp +decide [allUnbroken_singleton, unbroken_append, word.unbroken]
  · simp +decide [enumValid, enumString, enumMarshal, enumUnmarshal, plain_method, word.plain,
      word.unbroken, word.unquoted, texts, marshalResults, plain_append, unquoted_append,
      unbroken_append, allUnbroken_singleton, allUnbroken_nil]

theorem plain_timestampDecls (unit : TimeUnit) :
    ∀ decl ∈ timestampDecls doc ident unit, decl.Plain := by
  simp +decide [timestampDecls, Decl.plain_type, plain_method, unbroken, word.plain, word.unquoted,
    marshalResults, unquoted_append, unbroken_append, unbroken_word, allUnbroken_singleton]

theorem plain_rawDecls : ∀ decl ∈ rawDecls doc ident, decl.Plain := by
  simp +decide [rawDecls, Decl.plain_type, plain_method, unbroken, word.plain, word.unquoted,
    marshalResults, unquoted_append, allUnbroken_singleton]

end Definitions

theorem isWord_sharedIdent {domain type ident : String}
    (found : sharedIdent? domain type = some ident) : IsWord ident := by
  obtain ⟨shared, listed, rfl⟩ := Option.map_eq_some_iff.1 found
  exact isWord_of_sharedTypes shared (List.mem_of_find?_eq_some listed)

theorem isWord_arguments {command : Command} (named : PlainName command.name) :
    IsWord command.arguments :=
  named.exported.append (by decide)

theorem isWord_reply {command : Command} (named : PlainName command.name) :
    IsWord command.reply :=
  named.exported.append (by decide)

namespace Site

variable {site : Site} {domain : Domain} {command : Command} {event : Event} {node : TypeNode}
  {nodes : List TypeNode} {ident : String} {doc : Go.Doc} {scope next : NameScope} {chunk : Chunk}

theorem plain_of_defines (unbroken : AllUnbroken doc.lines) (word : IsWord ident)
    (clear : site.Clear node.innerNames node.references)
    (h : site.Defines node ident doc scope next chunk) : chunk.Plain := by
  cases h with
  | enumeration => exact .ofDecls (plain_enumDecls unbroken word _)
  | timestamp => exact .ofDecls (plain_timestampDecls unbroken word _)
  | raw => exact .ofDecls (plain_rawDecls unbroken word)
  | record _ fields =>
    have inner := clear.subset node.listNames_properties node.properties_references_subset
    exact .singleton ⟨unbroken, word.plain, plain_of_use.2 fields inner⟩
  | plain used => exact .singleton ⟨unbroken, word.plain, plain_of_use.1 used clear⟩

theorem plain_of_declared (identified : PlainName (node.id.getD ""))
    (clear : site.Clear node.innerNames node.references)
    (h : site.declared scope node = .ok (next, chunk)) : chunk.Plain := by
  have word : IsWord (node.ident site.domain) := isWord_withoutDomain identified.exported
  obtain ⟨accepted, -, ⟨shared, found, -, rfl⟩ | ⟨-, defines⟩⟩ := declared_eq_ok h
  · exact .singleton ⟨unbroken_typeDoc word.unbroken, word.plain,
      Imports.isWord_internal _, isWord_sharedIdent found⟩
  · exact plain_of_defines (unbroken_typeDoc word.unbroken) word clear defines

theorem plain_structDecl {text : String} (unbroken : Unbroken text) (word : IsWord ident)
    (clear : site.Clear (TypeNode.listNames nodes) (TypeNode.listReferences nodes))
    (h : site.structDecl scope ident text nodes = .ok (next, chunk)) : chunk.Plain := by
  obtain ⟨uses, -, fields, rfl⟩ := structDecl_eq_ok h
  exact .singleton ⟨allUnbroken_singleton.2 unbroken, word.plain, plain_of_use.2 fields clear⟩

theorem plain_constructorDecl {required : List (TypeNode × TypeExpr)}
    (word : IsWord command.arguments)
    (each : ∀ entry ∈ required, PlainName entry.1.wireName ∧ entry.2.Plain) :
    (constructorDecl command required).Plain := by
  have assignments : Go.Statement.AllPlain (required.map fun entry =>
      .set (.select (.ident "args") entry.1.fieldIdent)
        (.ident (Name.parameter entry.1.wireName))) := by
    refine Go.Statement.allPlain_iff.2 (List.forall_mem_map.2 fun entry member => ?_)
    have field : IsWord entry.1.fieldIdent := (each entry member).1.exported
    simp +decide [(each entry member).1.parameter, field]
  have params : ∀ param ∈ required.map fun entry =>
      (⟨some (Name.parameter entry.1.wireName), entry.2⟩ : Go.Param), param.Plain :=
    List.forall_mem_map.2 fun entry member =>
      ⟨(each entry member).1.parameter, (each entry member).2⟩
  refine Decl.plain_function.2 ⟨⟨?_, nofun⟩, ?_, ⟨params, ?_⟩, ?_⟩
  · simp +decide [allUnbroken_singleton, unbroken_append, word.unbroken]
  · simp +decide [plain_append, word.plain]
  · simp [word.plain]
  · simp +decide [assignments, word.plain]

theorem plain_setterDecl {use : TypeUse} (word : IsWord command.arguments)
    (field : PlainName node.wireName) (plain : use.type.Plain) :
    (setterDecl command node use).Plain := by
  have ident : IsWord node.fieldIdent := field.exported
  have doc : AllUnbroken (setterDoc node).lines := unbroken_setterDoc field.word.unbroken
  rw [setterDecl, plain_method]
  cases use.nullable <;>
    simp +decide [doc, word.plain, setterName, plain_append, ident, ident.plain, field.parameter,
      plain]

/-- What the names and references of listed nodes are, they are for each of the nodes. -/
theorem Clear.of_node
    (clear : site.Clear (TypeNode.listNames nodes) (TypeNode.listReferences nodes))
    (member : node ∈ nodes) :
    PlainName node.wireName ∧ site.Clear node.innerNames node.references := by
  have own := TypeNode.names_subset_listNames member
  exact ⟨clear.names _ (own List.mem_cons_self),
    clear.subset (fun name inside => own (List.mem_cons_of_mem _ inside))
      (TypeNode.references_subset member)⟩

theorem plain_of_arguments (named : PlainName command.name) (owned : PlainName domain.name)
    (clear : site.Clear (TypeNode.listNames command.parameters)
      (TypeNode.listReferences command.parameters))
    (h : site.arguments domain command scope = .ok (next, chunk)) : chunk.Plain := by
  obtain ⟨middle, struct, required, methods, setters, emitted, -, typed, set, rfl⟩ :=
    arguments_eq_ok h
  have word := isWord_arguments named
  have method : IsWord command.method := named.exported
  have doc : Unbroken (argumentsDoc domain command) := by
    simp +decide [argumentsDoc, unbroken_append, word.unbroken, method.unbroken,
      owned.word.unbroken]
  refine ((plain_structDecl doc word clear emitted).append (.singleton ?_)).append (.concat ?_)
  · refine plain_constructorDecl word (List.forall_mem_map.2 fun entry member => ?_)
    obtain ⟨node, found, mapped⟩ := exists_of_mem_right typed member
    obtain ⟨use, used, rfl⟩ := requiredParam_eq_ok mapped
    obtain ⟨field, inner⟩ := clear.of_node (List.mem_filter.1 found).1
    exact ⟨field, plain_fieldType (plain_of_use.1 used inner)⟩
  · intro setter member
    obtain ⟨before, node, after, found, step⟩ := thread_mem set member
    obtain ⟨use, -, used, rfl⟩ := setter_eq_ok step
    obtain ⟨field, inner⟩ := clear.of_node (List.mem_filter.1 found).1
    exact .singleton (plain_setterDecl word field (plain_of_use.1 used inner))

theorem plain_of_reply (named : PlainName command.name) (owned : PlainName domain.name)
    (clear : site.Clear (TypeNode.listNames command.returns)
      (TypeNode.listReferences command.returns))
    (h : site.reply domain command scope = .ok (next, chunk)) : chunk.Plain := by
  have word := isWord_reply named
  have method : IsWord command.method := named.exported
  refine plain_structDecl ?_ word clear h
  simp +decide [unbroken_append, word.unbroken, method.unbroken, owned.word.unbroken]

theorem plain_of_optionally {emit : NameScope → Except Error (NameScope × Chunk)} {has : Bool}
    (each : ∀ {chunk}, emit scope = .ok (next, chunk) → chunk.Plain)
    (h : Optionally emit scope has next chunk) : chunk.Plain := by
  cases h with
  | present _ emitted => exact each emitted
  | absent => exact .empty

theorem plain_of_commandTypes (named : PlainName command.name) (owned : PlainName domain.name)
    (parameters : site.Clear (TypeNode.listNames command.parameters)
      (TypeNode.listReferences command.parameters))
    (returns : site.Clear (TypeNode.listNames command.returns)
      (TypeNode.listReferences command.returns))
    (h : site.commandTypes domain scope command = .ok (next, chunk)) : chunk.Plain := by
  obtain ⟨middle, arguments, reply, first, second, rfl⟩ := commandTypes_eq_ok h
  exact (plain_of_optionally (plain_of_arguments named owned parameters) first).append
    (plain_of_optionally (plain_of_reply named owned returns) second)

theorem plain_streamDecl (root : String) (named : PlainName event.name) :
    (streamDecl root event).Plain := by
  have method : IsWord event.method := named.exported
  refine ⟨unbroken_streamDoc named.word.unbroken, plain_append.2 ⟨method.plain, by decide⟩, ?_⟩
  refine List.forall_mem_cons.2 ⟨⟨by simp +decide [AllUnbroken], by decide, nofun, ?_⟩, ?_⟩
  · simp +decide [replyResults, Event.reply, plain_append, method.plain]
  · exact List.forall_mem_singleton.2 ⟨Imports.isWord_rpcc root, by decide⟩

theorem plain_of_eventTypes (named : PlainName event.name) (owned : PlainName domain.name)
    (clear : site.Clear (TypeNode.listNames event.parameters)
      (TypeNode.listReferences event.parameters))
    (h : site.eventTypes domain scope event = .ok (next, chunk)) : chunk.Plain := by
  obtain ⟨uses, -, fields, rfl⟩ := eventTypes_eq_ok h
  have word : IsWord event.reply := named.exported.append (by decide)
  have doc : Unbroken (eventReplyDoc domain event) := by
    simp +decide [eventReplyDoc, Event.wireName, unbroken_append, word.unbroken,
      owned.word.unbroken, named.word.unbroken]
  refine (Chunk.Plain.ofDecls (List.forall_mem_singleton.2 (plain_streamDecl _ named))).append ?_
  exact .singleton ⟨allUnbroken_singleton.2 doc, word.plain, plain_of_use.2 fields clear⟩

end Site

section Client

variable {root : String} {domain : Domain} {command : Command} {event : Event}
  (owned : PlainName domain.name)
include owned

theorem plain_opError {operation : String} (unquoted : Unquoted operation) :
    (opError root domain.name operation).Plain := by
  simp +decide [opError, owned.word.unquoted, unquoted]

theorem plain_clientDecls : ∀ decl ∈ clientDecls root domain, decl.Plain := by
  simp +decide [clientDecls, Decl.plain_type, Decl.plain_function, clientType, unbroken_append,
    allUnbroken_singleton, owned.word.unbroken]

omit owned in
theorem plain_invocation {wire arguments reply : String} :
    (invocation root wire arguments reply).Plain ↔
      Unquoted wire ∧ Go.Plain arguments ∧ Go.Plain reply := by
  simp +decide [invocation]

theorem plain_invokeBody (named : PlainName command.name) :
    Go.Statement.AllPlain (invokeBody command root domain) := by
  have method : IsWord command.method := named.exported
  have wire : Unquoted (command.wireName domain.name) := unquoted_append.2
    ⟨unquoted_append.2 ⟨owned.word.unquoted, by decide⟩, named.word.unquoted⟩
  have target : Go.Plain (if command.hasReply then "reply" else "nil") := by
    split <;> decide
  rw [invokeBody, Go.Statement.allPlain_append, Go.Statement.allPlain_append]
  refine ⟨⟨?_, ?_⟩, ?_⟩
  · split <;> simp +decide [(isWord_reply named).plain]
  · split <;> simp +decide [plain_invocation, wire, target]
  · simp +decide [plain_opError owned method.unquoted]

theorem plain_invokeChunk (named : PlainName command.name) :
    (invokeChunk root domain command).Plain := by
  have method : IsWord command.method := named.exported
  have params : ∀ param ∈ (invokeSignature command).params, param.Plain := by
    cases has : command.hasArguments <;>
      simp +decide [invokeSignature, has, (isWord_arguments named).plain]
  have results : ∀ param ∈ (invokeSignature command).results, param.Plain := by
    cases has : command.hasReply <;>
      simp +decide [invokeSignature, has, (isWord_reply named).plain]
  refine .ofDecls (List.forall_mem_singleton.2 (Decl.plain_function.2
    ⟨⟨unbroken_invokeDoc named.word.unbroken owned.word.unbroken, ?_⟩, method.plain,
      ⟨params, results⟩, plain_invokeBody owned named⟩))
  simp +decide [invokeFunction, clientType]

theorem plain_subscribeChunk (named : PlainName event.name) :
    (subscribeChunk root domain event).Plain := by
  have method : IsWord event.method := named.exported
  have doc := unbroken_subscribeDoc named.word.unbroken owned.word.unbroken
  have wrapper : Go.Plain (wrapperName event) := plain_append.2 ⟨named.parameter, by decide⟩
  have failure : (opError root domain.name _).Plain :=
    plain_opError owned method.unquoted
  have received : (opError root domain.name _).Plain :=
    plain_opError owned (unquoted_append.2 ⟨method.unquoted, show Unquoted " Recv" by decide⟩)
  refine .ofDecls ?_
  simp +decide [subscribeDecl, wrapperDecls, Decl.plain_function, Decl.plain_type, plain_method,
    subscribeSignature, replyResults, stream, clientType, doc, method.plain, wrapper, failure,
    received, Event.client, Event.reply, Event.wireName, plain_append, unquoted_append,
    allUnbroken_nil, allUnbroken_singleton, owned.word.unquoted, named.word.unquoted]

theorem plain_clientChunk (commands : ∀ command ∈ domain.commands, PlainName command.name)
    (events : ∀ event ∈ domain.events, PlainName event.name) : (clientChunk root domain).Plain := by
  refine ((Chunk.Plain.ofDecls (plain_clientDecls owned)).append (.concat ?_)).append (.concat ?_)
  · refine List.forall_mem_map.2 fun command member => plain_invokeChunk owned ?_
    exact commands command (List.mem_filter.1 member).1
  · exact List.forall_mem_map.2 fun event member => plain_subscribeChunk owned (events event member)

end Client

section Tests

variable {root : String} {domain : Domain} {command : Command} {event : Event}

theorem plain_testDecl {method : String} {steps : List Go.Statement} (word : IsWord method)
    (plain : Go.Statement.AllPlain steps) :
    (testDecl root method steps).Plain := by
  rw [testDecl, Decl.plain_function]
  simp +decide [testName, plain_append, word.plain, plain, allUnbroken_nil]

@[simp] theorem plain_background : background.Plain := by
  simp +decide [background]

@[simp] theorem plain_report {name : String} {arguments : List Go.Expr} :
    (report name arguments).Plain ↔
      IsWord name ∧ Go.Expr.AllPlain arguments := by
  simp +decide [report]

@[simp] theorem plain_failsOn {test : Go.Expr} {name : String} :
    (failsOn test name).Plain ↔ test.Plain ∧ IsWord name := by
  simp +decide [failsOn]

@[simp] theorem plain_expectError {text : String} :
    (expectError text).Plain ↔ Unquoted text := by
  simp +decide [expectError, lacks, unquoted_append]

theorem plain_commandTest (named : PlainName command.name) :
    (commandTest root command).Plain := by
  have method : IsWord command.method := named.exported
  have arguments := isWord_arguments named
  refine plain_testDecl method ?_
  cases command.hasArguments <;> cases command.hasReply <;>
    simp +decide [method, arguments.plain]

theorem plain_eventTest (named : PlainName event.name) (owned : PlainName domain.name) :
    (eventTest root domain.name event).Plain := by
  have method : IsWord event.method := named.exported
  refine plain_testDecl method ?_
  simp +decide [method, method.unquoted, Event.wireName, unquoted_append, owned.word.unquoted,
    named.word.unquoted]

theorem plain_testChunk (owned : PlainName domain.name)
    (commands : ∀ command ∈ domain.commands, PlainName command.name)
    (events : ∀ event ∈ domain.events, PlainName event.name) : (testChunk root domain).Plain := by
  refine .concat (List.forall_mem_append.2 ⟨?_, ?_⟩)
  · refine List.forall_mem_map.2 fun command member =>
      .ofDecls (List.forall_mem_singleton.2 (plain_commandTest ?_))
    exact commands command (List.mem_filter.1 member).1
  · exact List.forall_mem_map.2 fun event member =>
      .ofDecls (List.forall_mem_singleton.2 (plain_eventTest (events event member) owned))

end Tests

section Files

variable {run : PackageRun} {root : String} {exemptions : Exemptions} {before after : SharedPackage}
  {domain : Domain} {chunk : Chunk}

theorem Chunk.Plain.file (plain : chunk.Plain) {path package : String} {doc : List String}
    (unbroken : AllUnbroken doc) (named : Go.Plain package)
    (imports : ∀ path ∈ (chunk.file path package doc).imports, Unquoted path) :
    (chunk.file path package doc).Plain :=
  ⟨unbroken, named, imports, plain⟩

theorem unquoted_standardPaths : ∀ path ∈ standardPaths, Unquoted path := by decide

/-- The paths of packages go on from the root with words. -/
theorem unquoted_of_mayImport (rooted : Unquoted root)
    (clear : (domainSite root exemptions domain).Clear domain.givenNames domain.references)
    {path : String} (allowed : MayImport root domain path) : Unquoted path := by
  have internal : Unquoted (Imports.internal root).path :=
    unquoted_append.2 ⟨unquoted_append.2 ⟨rooted, by decide⟩, by decide⟩
  cases allowed with
  | standard member => exact unquoted_standardPaths path member
  | transport => exact unquoted_append.2 ⟨rooted, by decide⟩
  | testing => exact unquoted_append.2 ⟨rooted, by decide⟩
  | internal => exact internal
  | @reference raw _ reference member resolved led =>
    have plain : (reference.type root).Plain := clear.references raw member reference resolved
    rw [Reference.type] at plain
    rw [Reference.imports] at led
    cases scope : reference.scope with
    | own =>
      rw [scope] at led
      cases led
    | package name =>
      rw [scope] at led plain
      have word : IsWord name := plain.1
      rw [List.mem_singleton.1 led]
      exact unquoted_append.2 ⟨unquoted_append.2 ⟨rooted, by decide⟩, word.unquoted⟩
    | shared =>
      rw [scope] at led
      rw [List.mem_singleton.1 led]
      exact internal

namespace PackageRun.Succeeds

variable (h : run.Succeeds root exemptions before after domain)
  (clear : (domainSite root exemptions domain).Clear domain.givenNames domain.references)
include h clear

theorem plain_types : (Chunk.concat run.types).Plain := by
  refine .concat fun chunk member => ?_
  obtain ⟨s, node, t, found, step⟩ := thread_mem h.types member
  have own := Domain.type_names_subset found
  refine Site.plain_of_declared (clear.names _ (own List.mem_cons_self)) (clear.subset ?_ ?_)
    (Site.typeStep_eq_ok step).1
  · exact fun name inside => own (List.mem_cons_of_mem _ inside)
  · exact TypeNode.references_subset (Domain.mem_nodes_type found)

theorem plain_commands : (Chunk.concat run.commands).Plain := by
  refine .concat fun chunk member => ?_
  obtain ⟨s, command, t, found, step⟩ := thread_mem h.commands member
  have own := Domain.command_names_subset found
  refine Site.plain_of_commandTypes (clear.names _ (own List.mem_cons_self))
    (clear.names _ Domain.name_mem_givenNames) (clear.subset ?_ ?_) (clear.subset ?_ ?_) step
  · exact fun name inside => own (List.mem_cons_of_mem _ (List.mem_append_left _ inside))
  · exact TypeNode.listReferences_subset fun _ => Domain.mem_nodes_parameter found
  · exact fun name inside => own (List.mem_cons_of_mem _ (List.mem_append_right _ inside))
  · exact TypeNode.listReferences_subset fun _ => Domain.mem_nodes_return found

theorem plain_events : (Chunk.concat run.events).Plain := by
  refine .concat fun chunk member => ?_
  obtain ⟨s, event, t, found, step⟩ := thread_mem h.events member
  have own := Domain.event_names_subset found
  refine Site.plain_of_eventTypes (clear.names _ (own List.mem_cons_self))
    (clear.names _ Domain.name_mem_givenNames) (clear.subset ?_ ?_) step
  · exact fun name inside => own (List.mem_cons_of_mem _ inside)
  · exact TypeNode.listReferences_subset fun _ => Domain.mem_nodes_event found

/-- The files of a package whose domain has plain names are plain. -/
theorem plain_files (rooted : Unquoted root) {file : SourceFile}
    (listed : file ∈ (run.files root domain).list) : file.Plain := by
  have owned : PlainName domain.name := clear.names _ Domain.name_mem_givenNames
  have package : Go.Plain domain.package := owned.package.plain
  have commands : ∀ command ∈ domain.commands, PlainName command.name := fun command member =>
    clear.names _ (Domain.command_names_subset member List.mem_cons_self)
  have events : ∀ event ∈ domain.events, PlainName event.name := fun event member =>
    clear.names _ (Domain.event_names_subset member List.mem_cons_self)
  have doc : AllUnbroken (packageDoc domain) := by
    refine unbroken_domainDoc ?_
    simp +decide [unbroken_append, owned.word.unbroken, Domain.package,
      owned.package.unbroken]
  have imports : ∀ path ∈ file.imports, Unquoted path := fun path member =>
    unquoted_of_mayImport rooted clear (h.mayImport_files listed member)
  simp only [DomainFiles.list, List.mem_cons, List.not_mem_nil, or_false] at listed
  rcases listed with rfl | rfl | rfl | rfl | rfl
  · exact (h.plain_types clear).file allUnbroken_nil package imports
  · exact (h.plain_commands clear).file allUnbroken_nil package imports
  · exact (h.plain_events clear).file allUnbroken_nil package imports
  · exact ⟨doc, package, imports, plain_clientChunk owned commands events⟩
  · exact (plain_testChunk owned commands events).file allUnbroken_nil package imports

/-- What a domain adds to the shared package is plain, too. -/
theorem plain_shared (plain : before.chunk.Plain) : after.chunk.Plain := by
  refine thread_invariant (I := fun s : SharedPackage × NameScope => s.1.chunk.Plain) ?_ h.types
    plain
  intro s node t chunk found step plain
  have own := Domain.type_names_subset found
  have inner := clear.subset (fun name inside => own (List.mem_cons_of_mem _ inside))
    (TypeNode.references_subset (Domain.mem_nodes_type found))
  rcases Site.share_eq_ok (Site.typeStep_eq_ok step).2 with
    ⟨-, same⟩ | ⟨ident, accepted, next, added, shared, -, defines, same⟩
  · rw [same]
    exact plain
  · rw [same]
    have word := isWord_sharedIdent shared
    -- The definition stands in another package, but for the same domain and under the same root.
    have there : Site.Clear { domainSite root exemptions domain with shared := some ident }
        node.innerNames node.references := ⟨inner.names, inner.references⟩
    exact plain.append
      (Site.plain_of_defines (unbroken_typeDoc word.unbroken) word there defines)

end PackageRun.Succeeds

end Files

end Emission

end Bindings
