import Bindings.Proofs.Emission.Builders
import Bindings.Proofs.Emission.Enumerations
import Bindings.Proofs.Json.Reading
import Bindings.Proofs.Name.Heads
import Bindings.Proofs.Output.Origins
import Bindings.Proofs.Output.Uniqueness

/-! Enumerations encode exactly their literals.

The methods of an enumeration are executed in the package that declares it. Nothing else there has
the names that they use or adds methods to the type: the scope of the package has seen to that.
-/

set_option autoImplicit false

namespace Bindings

open Emission
open Go (Item Program SourceFile)
open Name (Capital)
open Text (Bytes utf8)

section Names

/-- The names of the language that the methods of an enumeration use. -/
theorem universe_apart : ∀ name ∈ ["string", "nil", "true", "false"],
    ¬ Capital name.toList ∧ ¬ Marked name := by
  decide

theorem capital_sharedIdents : ∀ ident ∈ sharedTypes.map (·.ident),
    ident.toList ≠ [] ∧ Capital ident.toList := by
  decide

theorem capital_enumConstants {ident name : String} {literals : List String}
    (capital : Capital ident.toList)
    (member : name ∈ (enumConstants ident literals).map (·.name)) : Capital name.toList := by
  rw [enumConstants, List.map_cons, List.map_map, List.mem_cons] at member
  rcases member with rfl | member
  · rw [String.toList_append]
    exact Name.capital_append capital fun _ => by decide
  · obtain ⟨value, -, rfl⟩ := List.mem_map.1 member
    rw [Function.comp_apply, String.toList_append]
    exact Name.capital_append capital fun _ => Name.capital_literal value

namespace Emission

variable {site : Site} {domain : Domain} {command : Command} {event : Event} {node : TypeNode}
  {scope next : Go.NameScope} {chunk : Chunk} {ident name : String}

theorem Site.Defines.capital {doc : Go.Doc} (capital : Capital ident.toList)
    (h : site.Defines node ident doc scope next chunk) (member : name ∈ chunk.names) :
    Capital name.toList := by
  cases h with
  | enumeration =>
    rw [Chunk.names_ofDecls, names_enumDecls, List.mem_cons] at member
    rcases member with rfl | member
    · exact capital
    · exact capital_enumConstants capital member
  | timestamp =>
    rw [Chunk.names_ofDecls, names_timestampDecls] at member
    exact List.mem_singleton.1 member ▸ capital
  | raw =>
    rw [Chunk.names_ofDecls, names_rawDecls] at member
    exact List.mem_singleton.1 member ▸ capital
  | record => exact List.mem_singleton.1 member ▸ capital
  | plain => exact List.mem_singleton.1 member ▸ capital

theorem Site.capital_of_declared (h : site.declared scope node = .ok (next, chunk))
    (member : name ∈ chunk.names) : Capital name.toList := by
  have capital := node.capital_ident site.domain
  obtain ⟨accepted, -, ⟨shared, -, -, rfl⟩ | ⟨-, defines⟩⟩ := declared_eq_ok h
  · exact List.mem_singleton.1 member ▸ capital
  · exact defines.capital capital member

theorem names_argumentItems (doc : String) (entries : List (TypeNode × TypeUse)) :
    Go.itemNames (argumentItems command doc entries) =
      [command.arguments, "New" ++ command.arguments] := by
  simp [argumentItems, Go.itemNames, constructorFunction, setterFunction, List.flatMap_map]

theorem Site.marked_of_commandTypes
    (h : site.commandTypes domain scope command = .ok (next, chunk))
    (member : name ∈ chunk.names) : Marked name := by
  obtain ⟨middle, arguments, reply, first, second, rfl⟩ := commandTypes_eq_ok h
  rw [Chunk.names_append, List.mem_append] at member
  rcases member with member | member
  · cases first with
    | absent => cases member
    | present _ emitted =>
      obtain ⟨doc, entries, -, same⟩ := argumentItems_of_arguments emitted
      rw [Chunk.names, same, names_argumentItems, List.mem_pair] at member
      rcases member with rfl | rfl
      · exact marked_append (by simp) _
      · rw [Command.arguments, ← String.append_assoc]
        exact marked_append (by simp) _
  · cases second with
    | absent => cases member
    | present _ emitted =>
      obtain ⟨uses, -, -, rfl⟩ := structDecl_eq_ok emitted
      rw [List.mem_singleton.1 member]
      exact marked_append (by simp) _

theorem Site.marked_of_eventTypes (h : site.eventTypes domain scope event = .ok (next, chunk))
    (member : name ∈ chunk.names) : Marked name := by
  obtain ⟨uses, -, -, rfl⟩ := eventTypes_eq_ok h
  have among : name ∈ [event.client, event.reply] := member
  rcases List.mem_pair.1 among with rfl | rfl <;> exact marked_append (by simp) _

namespace PackageRun.Succeeds
variable {run : PackageRun} {root : String} {exemptions : Exemptions} {before after : SharedPackage}
  {files : List SourceFile}

/-- Every identifier of a package begins with no small letter or ends like one of a message. -/
theorem capital_or_marked (h : run.Succeeds root exemptions before after domain)
    (member : name ∈ (run.files root domain).list.flatMap (·.names)) :
    Capital name.toList ∨ Marked name := by
  rw [PackageRun.names_files, PackageRun.implementation, names_clientChunk] at member
  simp only [List.mem_append, Chunk.names_concat, List.flatMap_map, names_subscribeChunk] at member
  -- Types and tests have capitals, everything else is named like a message or reserved.
  rcases member with (((types | commands) | events) | client) | tests
  · obtain ⟨chunk, found, inside⟩ := List.mem_flatMap.1 types
    obtain ⟨s, node, t, -, step⟩ := thread_mem h.types found
    exact .inl (Site.capital_of_declared (Site.typeStep_eq_ok step).1 inside)
  · obtain ⟨chunk, found, inside⟩ := List.mem_flatMap.1 commands
    obtain ⟨s, command, t, -, step⟩ := thread_mem h.commands found
    exact .inr (Site.marked_of_commandTypes step inside)
  · obtain ⟨chunk, found, inside⟩ := List.mem_flatMap.1 events
    obtain ⟨s, event, t, -, step⟩ := thread_mem h.events found
    exact .inr (Site.marked_of_eventTypes step inside)
  · rcases client with reserved | stream
    · have marked : ∀ ident ∈ ["domainClient", "NewClient"], Marked ident := by decide
      exact .inr (marked name reserved)
    · obtain ⟨event, -, inside⟩ := List.mem_flatMap.1 stream
      rw [List.mem_singleton.1 inside]
      exact .inr (marked_append (by simp) _)
  · obtain ⟨method, -, rfl⟩ := List.mem_map.1 tests
    rw [testName, String.toList_append]
    exact .inl (Name.capital_append (by decide) fun empty => absurd empty (by decide))

end PackageRun.Succeeds

end Emission

end Names

namespace Emission

/-- What the definition of an enumeration emits. -/
theorem Site.Defines.eq_of_enumeration {site : Site} {node : TypeNode} {ident : String}
    {doc : Go.Doc} {scope next : Go.NameScope} {chunk : Chunk}
    (shaped : node.shape site.domain = .ok .enumeration)
    (h : site.Defines node ident doc scope next chunk) : "" ∉ node.literals ∧
      chunk = .ofDecls [Imports.json, Imports.fmt] (enumDecls doc.lines ident node.literals) := by
  cases h with
  | enumeration _ filled => exact ⟨filled, rfl⟩
  | timestamp other | raw other | record other =>
    rw [shaped] at other
    cases other
  | plain _ _ unlisted => exact absurd shaped unlisted

/-- Files of one package that define an enumeration; every identifier is declared once, and none of
them is one of the language. -/
structure DefinesEnum (files : List SourceFile) (ident : String) (literals : List String) :
    Prop where
  filled : "" ∉ literals
  defined : ∃ doc, ∃ file ∈ files, ∀ decl ∈ enumDecls doc ident literals, ⟨decl, true⟩ ∈ file.items
  methods : files.flatMap (·.methodsOf ident) =
    (enumDecls [] ident literals).filterMap (·.methodOf? ident)
  distinct : (files.flatMap (·.names)).Nodup
  apart : ∀ name ∈ ["string", "nil", "true", "false"], name ∉ files.flatMap (·.names)
  capital : Capital ident.toList

theorem DefinesEnum.encodes {files : List SourceFile} {ident : String} {literals : List String}
    (h : DefinesEnum files ident literals) {json : JsonCodec} (lawful : json.Lawful) :
    EncodesEnum (.ofFiles files json.library) json ident literals := by
  obtain ⟨doc, file, listed, inside⟩ := h.defined
  have distinct : ((Program.ofFiles files json.library).decls.flatMap Go.Decl.names).Nodup := by
    rw [Program.names_ofFiles]
    exact h.distinct
  have found {decl : Go.Decl} (member : decl ∈ enumDecls doc ident literals) :
      decl ∈ (Program.ofFiles files json.library).decls :=
    Program.mem_ofFiles listed (inside decl member)
  have constants := found (.tail _ (.head _))
  have declares : DeclaresEnum (.ofFiles files json.library) ident literals := by
    refine ⟨⟨doc, ?_⟩, ⟨[ident ++ " as enums."], ?_⟩, ?_, fun name known => ?_, ?_⟩
    · exact Program.declaring?_eq_some distinct (found (.head _)) List.mem_cons_self
    · exact Program.declaring?_eq_some distinct constants List.mem_cons_self
    · rw [Program.methodsOf_ofFiles, h.methods]
    · rw [Program.declaring?_eq_none, Program.names_ofFiles]
      exact h.apart name known
    · -- The variables of the methods begin with small letters.
      have small : ∀ name ∈ ["e", "data", "s"], ident ≠ name := by
        rintro name member rfl
        have lower : ∀ name ∈ ["e", "data", "s"], ¬ Capital name.toList := by decide
        exact lower _ member h.capital
      exact ⟨small "e" (by simp), small "data" (by simp), small "s" (by simp)⟩
  refine declares.encodes rfl lawful h.filled ?_
  exact (List.nodup_flatMap.1 distinct).1 _ constants

namespace PackageRun.Succeeds
variable {run : PackageRun} {root : String} {exemptions : Exemptions} {before after : SharedPackage}
  {domain : Domain} {node : TypeNode}

/-- All methods of a declared type stand with the types. -/
theorem methodsOf_type (h : run.Succeeds root exemptions before after domain)
    (member : node ∈ domain.types) :
    (run.files root domain).list.flatMap (·.methodsOf (node.ident domain.name)) =
      run.types.flatMap (·.methodsOf (node.ident domain.name)) := by
  have other {file : SourceFile} (listed : file ∈ (run.files root domain).list.tail) {name : String}
      (named : name ∈ file.names) : name ≠ node.ident domain.name :=
    (h.ident_ne_of_other listed named member).symm
  have commands : (Chunk.concat run.commands).methodsOf (node.ident domain.name) = [] := by
    rw [Chunk.methodsOf_concat, List.flatMap_eq_nil_iff]
    intro chunk found
    obtain ⟨s, command, t, inside, step⟩ := thread_mem h.commands found
    refine Site.commandTypes_methodsOf (fun has => ?_) step
    obtain ⟨doc, uses, -, declared⟩ := (h.declaresCommand inside).arguments has
    exact other List.mem_cons_self (List.mem_flatMap.2 ⟨_, declared, List.mem_cons_self⟩)
  have client : (clientChunk root domain).methodsOf (node.ident domain.name) = [] := by
    have named {name : String} (inside : name ∈ (clientChunk root domain).names) :
        name ≠ node.ident domain.name :=
      other (.tail _ (.tail _ (.head _))) inside
    refine methodsOf_clientChunk_ne (named ?_) fun event inside => named ?_
    · rw [names_clientChunk]
      exact List.mem_cons_self
    · rw [names_clientChunk, Chunk.names_concat, List.flatMap_map]
      exact List.mem_append_right _ (List.mem_flatMap.2 ⟨event, inside, List.mem_cons_self⟩)
  rw [PackageRun.methodsOf_list, commands, h.methodsOf_events, client, Chunk.methodsOf_concat]
  simp

theorem definesEnum (h : run.Succeeds root exemptions before after domain)
    (member : node ∈ domain.types) (shaped : node.shape domain.name = .ok .enumeration)
    (alone : sharedIdent? domain.name (node.id.getD "") = none) :
    DefinesEnum (run.files root domain).list (node.ident domain.name) node.literals := by
  have silent {other : TypeNode} {chunk : Chunk} (_ : other ∈ domain.types)
      (step : ∃ s t, (domainSite root exemptions domain).typeStep s other = .ok (t, chunk))
      (apart : node.ident domain.name ∉ [other.ident domain.name]) :
      chunk.methodsOf (node.ident domain.name) = [] := by
    obtain ⟨s, t, step⟩ := step
    refine Site.declared_methodsOf (fun same => apart ?_) (Site.typeStep_eq_ok step).1
    exact List.mem_singleton.2 same.symm
  have distinct : (domain.types.flatMap fun node => [node.ident domain.name]).Nodup := by
    rw [← List.map_eq_flatMap]
    exact (h.file_names_nodup List.mem_cons_self).sublist h.typeIdents_sublist
  -- The chunk of the type is the only one with methods of it.
  obtain ⟨chunk, found, ⟨s, t, step⟩, only⟩ :=
    flatMap_eq_of_key distinct (thread_forall₂ h.types) member List.mem_cons_self silent
  obtain ⟨accepted, -, ⟨shared, present, -, -⟩ | ⟨-, defines⟩⟩ :=
    Site.declared_eq_ok (Site.typeStep_eq_ok step).1
  · rw [domainSite, alone] at present
    cases present
  obtain ⟨filled, rfl⟩ := defines.eq_of_enumeration shaped
  refine ⟨filled,
    ⟨(typeDoc node (node.ident domain.name)).lines, _, .head _, fun decl inside => ?_⟩, ?_,
    h.names_nodup, ?_, node.capital_ident domain.name⟩
  · exact Chunk.items_subset_concat found (List.mem_map_of_mem inside)
  · rw [h.methodsOf_type member, only, Chunk.methodsOf_ofDecls]
    rfl
  · intro name known inside
    obtain ⟨notCapital, notMarked⟩ := universe_apart name known
    exact (h.capital_or_marked inside).elim notCapital notMarked

end PackageRun.Succeeds

section Shared

def Sequence (items : List Item) (parts : List (String × Chunk)) : Prop :=
  items = parts.flatMap (·.2.items) ∧ ∀ part ∈ parts, ∃ site node doc scope next,
    Site.Defines site node part.1 doc scope next part.2

variable {site : Site} {node : TypeNode} {ident : String} {doc : Go.Doc} {scope next : Go.NameScope}
  {chunk : Chunk} {items : List Item} {parts : List (String × Chunk)}

/-- A definition with constants is that of an enumeration. -/
theorem Site.Defines.of_constants {owner : String} {lines : List String}
    {entries : List Go.Constant} (h : site.Defines node ident doc scope next chunk)
    (inside : ⟨.constants lines (some (.named owner)) entries, true⟩ ∈ chunk.items) :
    ident = owner ∧ ∃ literals, entries = enumConstants ident literals ∧
      chunk = .ofDecls [Imports.json, Imports.fmt] (enumDecls doc.lines ident literals) := by
  cases h with
  | enumeration =>
    have own : lines = [ident ++ " as enums."] ∧ owner = ident ∧
        entries = enumConstants ident node.literals := by
      simpa [Chunk.items_ofDecls, enumDecls, enumValid, enumString, enumMarshal, enumUnmarshal,
        method] using inside
    exact ⟨own.2.1.symm, node.literals, own.2.2, rfl⟩
  | timestamp | raw =>
    simp [Chunk.items_ofDecls, timestampDecls, rawDecls, method] at inside
  | record | plain => simp at inside

theorem enumConstants_injective {first second : List String}
    (same : enumConstants ident first = enumConstants ident second) : first = second := by
  have values := congrArg (List.map (·.value)) same
  simpa [enumConstants, Function.comp_def] using values

/-- The methods of a type in a sequence of definitions are those of its own definition. -/
theorem Sequence.methodsOf (sequence : Sequence items parts) (distinct : (Go.itemNames items).Nodup)
    (member : (ident, chunk) ∈ parts) :
    items.filterMap (·.decl.methodOf? ident) = chunk.methodsOf ident := by
  obtain ⟨rfl, each⟩ := sequence
  have own : List.Forall₂ (fun part part' : String × Chunk => [part.1].Sublist part'.2.names)
      parts parts := by
    refine List.forall₂_same.2 fun part inside => ?_
    obtain ⟨site, node, doc, scope, next, defines⟩ := each part inside
    obtain ⟨constants, names, -, -⟩ := defines.names
    rw [names]
    exact List.singleton_sublist.2 List.mem_cons_self
  -- Every part declares its own identifier, so no two of them have the same one.
  have keys : (parts.flatMap fun part => [part.1]).Nodup := by
    refine distinct.sublist ?_
    rw [Go.itemNames, List.flatMap_assoc]
    exact flatMap_sublist_flatMap own
  have silent {part part' : String × Chunk} (inside : part ∈ parts) (same : part = part')
      (apart : ident ∉ [part.1]) : part'.2.methodsOf ident = [] := by
    obtain ⟨site, node, doc, scope, next, defines⟩ := each part inside
    exact same ▸ defines.methodsOf_ne fun equal => apart (List.mem_singleton.2 equal.symm)
  obtain ⟨part, -, rfl, only⟩ := flatMap_eq_of_key keys (List.forall₂_same.2 fun part _ => rfl)
    member (List.mem_singleton.2 rfl) silent
  rw [List.filterMap_flatMap]
  exact only

/-- The constants of an enumeration tell which of the definitions is its own. -/
theorem Sequence.mem_of_constants {literals : List String} (sequence : Sequence items parts)
    (constants : ⟨.constants [ident ++ " as enums."] (some (.named ident))
      (enumConstants ident literals), true⟩ ∈ items) :
    ∃ lines, (ident, .ofDecls [Imports.json, Imports.fmt] (enumDecls lines ident literals)) ∈
      parts := by
  rw [sequence.1, List.mem_flatMap] at constants
  obtain ⟨⟨owner, part⟩, listed, inside⟩ := constants
  obtain ⟨site, other, doc, scope, last, defined⟩ :
      ∃ site other doc scope last, Site.Defines site other owner doc scope last part :=
    sequence.2 _ listed
  obtain ⟨rfl, others, same, rfl⟩ := defined.of_constants inside
  rw [enumConstants_injective same]
  exact ⟨doc.lines, listed⟩

theorem SharedPackage.exists_sequence {protocol : Protocol} {root : String}
    {exemptions : Exemptions} {shared : SharedPackage} {lists : List (List SourceFile)}
    (h : emitDomains protocol root exemptions = .ok (shared, lists)) :
    ∃ parts, Sequence shared.chunk.items parts := by
  refine thread_invariant (I := fun s : SharedPackage => ∃ parts, Sequence s.chunk.items parts) ?_ h
    ⟨[], rfl, fun _ member => nomatch member⟩
  -- The invariant passes through the domains and, within each, through its types.
  intro before domain after list _ step earlier
  obtain ⟨run, succeeds, -⟩ := domainPackage_eq_ok step
  refine thread_invariant
    (I := fun s : SharedPackage × Go.NameScope => ∃ parts, Sequence s.1.chunk.items parts)
    ?_ succeeds.types earlier
  rintro s node t chunk - step ⟨parts, items, each⟩
  rcases Site.share_eq_ok (Site.typeStep_eq_ok step).2 with
    ⟨-, same⟩ | ⟨ident, accepted, next, added, -, -, defines, same⟩
  · exact ⟨parts, by rw [same]; exact ⟨items, each⟩⟩
  · refine ⟨parts ++ [(ident, added)], ?_, fun part inside => ?_⟩
    · rw [same, List.flatMap_append, ← items]
      simp
    · rcases List.mem_append.1 inside with earlier | last
      · exact each part earlier
      · rw [List.mem_singleton.1 last]
        exact ⟨_, _, _, _, _, defines⟩

end Shared

end Emission

namespace Bundle.Generated

variable {bundle : Bundle} {protocol : Protocol} {root : String} {graph : ImportGraph}
  {exemptions : Exemptions} {shared : SharedPackage} {domain : Domain} {package : DomainFiles}
  {node : TypeNode} {ident : String}
  (h : bundle.Generated protocol root graph exemptions shared)
include h

theorem definesEnum (found : (domain, package) ∈ bundle.packages) (member : node ∈ domain.types)
    (shaped : node.shape domain.name = .ok .enumeration)
    (alone : sharedIdent? domain.name (node.id.getD "") = none) :
    DefinesEnum package.list (node.ident domain.name) node.literals := by
  obtain ⟨run, before, after, succeeds, rfl, -⟩ := h.run_of_package found
  exact succeeds.definesEnum member shaped alone

theorem names_sharedTypes : bundle.sharedTypes.names = shared.chunk.names := by
  rw [h.sharedTypes]
  rfl

/-- What the shared package declares begins with a capital. -/
theorem capital_shared {name : String}
    (inside : name ∈ bundle.sharedTypes.names ++ bundle.sharedErrors.names) :
    Capital name.toList := by
  rw [h.names_sharedTypes, h.sharedErrors, names_opErrorFile] at inside
  rcases List.mem_append.1 inside with inside | inside
  · obtain ⟨stem, listed, rest, rfl⟩ := h.sound.named name inside
    obtain ⟨given, capital⟩ := capital_sharedIdents stem listed
    rw [String.toList_append]
    exact Name.capital_append capital fun empty => absurd empty given
  · rw [List.mem_singleton.1 inside]
    decide

theorem definesEnum_shared (found : (domain, package) ∈ bundle.packages)
    (member : node ∈ domain.types) (shaped : node.shape domain.name = .ok .enumeration)
    (redirected : sharedIdent? domain.name (node.id.getD "") = some ident) :
    DefinesEnum [bundle.sharedTypes, bundle.sharedErrors] ident node.literals := by
  obtain ⟨accepted, next, chunk, defines, sub⟩ := h.shared_defines found member redirected
  obtain ⟨filled, rfl⟩ := defines.eq_of_enumeration shaped
  obtain ⟨lists, emitted⟩ := h.emitted
  obtain ⟨parts, sequence⟩ := SharedPackage.exists_sequence emitted
  have distinct : (shared.chunk.names ++ bundle.sharedErrors.names).Nodup :=
    h.sharedErrors ▸ SharedPackage.names_nodup h.sound
  have known := mem_idents_of_sharedIdent? redirected
  refine ⟨filled, ⟨_, _, .head _, fun decl inside => sub (List.mem_map_of_mem inside)⟩, ?_, ?_, ?_,
    (capital_sharedIdents _ known).2⟩
  · have constants := sub (List.mem_map_of_mem (.tail _ (.head _)))
    rw [h.sharedTypes] at constants
    obtain ⟨lines, listed⟩ := sequence.mem_of_constants constants
    have errors : bundle.sharedErrors.methodsOf ident = [] := by
      rw [h.sharedErrors]
      rfl
    have types := sequence.methodsOf (List.nodup_append.1 distinct).1 listed
    rw [Chunk.methodsOf_ofDecls] at types
    rw [List.flatMap_cons, List.flatMap_singleton, errors, List.append_nil, h.sharedTypes]
    exact types
  · simpa [h.names_sharedTypes] using distinct
  · intro name predeclared inside
    rw [List.flatMap_cons, List.flatMap_singleton] at inside
    exact (universe_apart name predeclared).1 (h.capital_shared inside)

end Bundle.Generated

/-- Every enumeration encodes exactly its literals, be it defined in the package of its domain or in
the shared one. -/
theorem enums_encoded {protocol : Protocol} {root : String} {files : List SourceFile}
    (h : generate protocol root = .ok files) {json : JsonCodec} (lawful : json.Lawful) :
    ∃ bundle : Bundle, bundle.Arranges protocol files ∧
      ∀ entry ∈ bundle.packages, ∀ node ∈ entry.1.types,
        node.shape entry.1.name = .ok .enumeration →
          (sharedIdent? entry.1.name (node.id.getD "") = none →
            EncodesEnum (.ofFiles entry.2.list json.library) json (node.ident entry.1.name)
              node.literals) ∧
          ∀ ident, sharedIdent? entry.1.name (node.id.getD "") = some ident →
            EncodesEnum (.ofFiles [bundle.sharedTypes, bundle.sharedErrors] json.library) json ident
              node.literals := by
  obtain ⟨bundle, graph, exemptions, shared, arranges, comes⟩ := generate_eq_ok h
  refine ⟨bundle, arranges, fun entry found node member shaped => ⟨fun alone => ?_, ?_⟩⟩
  · exact (comes.definesEnum found member shaped alone).encodes lawful
  · intro ident redirected
    exact (comes.definesEnum_shared found member shaped redirected).encodes lawful

section Sample

/-- A character as the JSON package of the standard library writes it in a text: it also escapes
what HTML or JavaScript could misread. -/
def escapeJson (c : Char) : List Char :=
  if c = '<' then "\\u003c".toList
  else if c = '>' then "\\u003e".toList
  else if c = '&' then "\\u0026".toList
  else if c = '\u2028' then "\\u2028".toList
  else if c = '\u2029' then "\\u2029".toList
  else Text.escape c

/-- Writing and reading texts as the standard library does, for bytes that are valid UTF-8. -/
def standardCodec : JsonCodec where
  marshal content :=
    let text := (String.fromUTF8? content.toByteArray).getD ""
    utf8 (.ofList ('"' :: (text.toList.flatMap escapeJson ++ ['"'])))
  unmarshal data old :=
    match Json.Document.ofText ((String.fromUTF8? data.toByteArray).getD "") with
    | ⟨.string text, true⟩ => some (utf8 text)
    | ⟨.null, true⟩ => some old
    | _ => none

theorem readPoints_escapeJson (c : Char) (rest : List Char) (points : List Nat) :
    Json.readPoints (escapeJson c ++ rest) points = Json.readPoints rest (c.toNat :: points) := by
  unfold escapeJson
  split
  · subst_vars; rfl
  split
  · subst_vars; rfl
  split
  · subst_vars; rfl
  split
  · subst_vars; rfl
  split
  · subst_vars; rfl
  exact Json.readPoints_escape c rest points

theorem fromUTF8?_utf8 (text : String) :
    String.fromUTF8? (utf8 text).toByteArray = some text := by
  rw [Text.toByteArray_utf8, String.fromUTF8?, dif_pos text.isValidUTF8]
  rfl

theorem ofText_escapeJson (text : String) :
    Json.Document.ofText (.ofList ('"' :: (text.toList.flatMap escapeJson ++ ['"']))) =
      ⟨.string text, true⟩ := by
  have read := Json.readString_flatMap readPoints_escapeJson text.toList []
  rw [String.ofList_toList] at read
  rw [Json.Document.ofText, String.toList_ofList]
  simp [Json.readValue, Json.skipSpace, Json.isSpace, read]

theorem lawful_standardCodec : standardCodec.Lawful where
  unmarshal_marshal text old := by
    simp only [standardCodec, fromUTF8?_utf8, Option.getD_some, ofText_escapeJson]
  unmarshal_null old := by
    simp only [standardCodec, fromUTF8?_utf8, Option.getD_some]
    rfl

def modeDomain : Domain where
  name := "Page"
  types :=
    [{ id := some "FrameId", kind := some "string", literals := ["main-frame"] },
     { id := some "Mode", kind := some "string", literals := ["null", "-0"] }]

def modeProtocol : Protocol where
  domains := [modeDomain]

theorem modeProtocol_sorted : sortByName modeProtocol.domains = modeProtocol.domains :=
  sortByName_of_pairwise (by decide +kernel)

theorem modeProtocol_generates : ∃ files, generate modeProtocol "r" = .ok files := by
  have succeeds : (generate modeProtocol "r").toOption.any fun _ => true := by
    simp only [generate, emitDomains, assemble, modeProtocol_sorted]
    decide +kernel
  obtain ⟨files, generates, -⟩ := exists_ok_of_any succeeds
  exact ⟨files, generates⟩

theorem enums_encoded_modeProtocol :
    ∃ files, generate modeProtocol "r" = .ok files ∧ standardCodec.Lawful ∧
      ∃ bundle : Bundle, bundle.Arranges modeProtocol files ∧
        ∃ package, (modeDomain, package) ∈ bundle.packages ∧
          EncodesEnum (.ofFiles package.list standardCodec.library) standardCodec "Mode"
            ["null", "-0"] ∧
          EncodesEnum (.ofFiles [bundle.sharedTypes, bundle.sharedErrors] standardCodec.library)
            standardCodec "PageFrameID" ["main-frame"] := by
  obtain ⟨files, generates⟩ := modeProtocol_generates
  obtain ⟨bundle, arranges, encoded⟩ := enums_encoded generates lawful_standardCodec
  obtain ⟨package, found⟩ := arranges.exists_package (List.mem_singleton.2 rfl)
  have ident : ({ id := some "Mode" } : TypeNode).ident "Page" = "Mode" := by decide
  have own : sharedIdent? "Page" "Mode" = none := by decide
  have moved : sharedIdent? "Page" "FrameId" = some "PageFrameID" := by decide
  refine ⟨files, generates, lawful_standardCodec, bundle, arranges, package, found, ?_, ?_⟩
  · exact ident ▸ (encoded _ found _ (.tail _ (.head _)) rfl).1 own
  · exact (encoded _ found _ (.head _) rfl).2 "PageFrameID" moved

end Sample

end Bindings
