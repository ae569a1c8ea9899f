import Bindings.Proofs.Protocol.Addresses
import Bindings.Proofs.Resolution.Canonical

/-! When the graph of a protocol can be built, and what it holds.

The graph is built reference by reference, and the first that is at fault ends it. Which one that is
can be told from the addresses of the references, and what is wrong with it from the reference alone.
-/

set_option autoImplicit false

namespace Bindings

/-- What a reference of the domain `owner` says: the name of a type of the domain itself, or those of a
domain and a type with a point between them. No name is empty, and that of the type has no point. -/
inductive Reference.Denotes (owner : String) : String → String × String → Prop where
  | bare {name : String} (owned : owner ≠ "") (given : name ≠ "") (undivided : '.' ∉ name.toList) :
      Reference.Denotes owner name (owner, name)
  | full {domain name : String} (plain : '.' ∉ domain.toList) (owned : domain ≠ "")
      (given : name ≠ "") (undivided : '.' ∉ name.toList) :
      Reference.Denotes owner (domain ++ "." ++ name) (domain, name)

def Protocol.Declares (protocol : Protocol) (target : String × String) : Prop :=
  ∃ before first after, protocol.domains = before ++ first :: after ∧
    (∀ other ∈ before, other.name ≠ target.1) ∧ first.name = target.1 ∧
      ∃ node ∈ first.types, node.id = some target.2

def Protocol.Resolves (protocol : Protocol) (entry : String × String) : Prop :=
  ∃ target, Reference.Denotes entry.1 entry.2 target ∧ protocol.Declares target

/-- What is wrong with a reference: it says nothing, or what it says is not declared. -/
inductive Protocol.Faults (protocol : Protocol) : String × String → Error → Prop where
  | invalid {owner raw : String} (nothing : ∀ target, ¬Reference.Denotes owner raw target) :
      Protocol.Faults protocol (owner, raw) (.invalidReference owner raw)
  | unresolved {owner raw : String} {target : String × String}
      (denotes : Reference.Denotes owner raw target) (undeclared : ¬protocol.Declares target) :
      Protocol.Faults protocol (owner, raw) (.unresolvedReference owner raw)

def Redirects (consumer : String) (target : String × String) : Prop :=
  ∃ shared ∈ sharedTypes, shared.consumer = consumer ∧
    shared.reference = target.1 ++ "." ++ target.2

theorem Text.splitOnce?_append_cons {cut : Char} {before after : List Char}
    (plain : cut ∉ before) : splitOnce? cut (before ++ cut :: after) = some (before, after) := by
  induction before with
  | nil => simp [splitOnce?]
  | cons c before ih =>
    obtain ⟨other, others⟩ := not_or.1 (fun h => plain (List.mem_cons.2 h))
    simp [splitOnce?, Ne.symm other, ih others]

theorem Text.splitOnce?_cases (cut : Char) (text : List Char) :
    (cut ∉ text ∧ splitOnce? cut text = none) ∨
      ∃ before after, text = before ++ cut :: after ∧ cut ∉ before ∧
        splitOnce? cut text = some (before, after) := by
  by_cases inside : cut ∈ text
  · obtain ⟨before, after, rfl, plain⟩ := List.eq_append_cons_of_mem inside
    exact .inr ⟨before, after, rfl, plain, splitOnce?_append_cons plain⟩
  · refine .inl ⟨inside, ?_⟩
    induction text with
    | nil => rfl
    | cons c text ih =>
      obtain ⟨other, others⟩ := not_or.1 (fun h => inside (List.mem_cons.2 h))
      simp [splitOnce?, Ne.symm other, ih others]

namespace Reference
variable {owner raw domain name : String}

theorem parts_of_plain (plain : '.' ∉ raw.toList) : parts raw owner = (owner, raw) := by
  rcases Text.splitOnce?_cases '.' raw.toList with ⟨-, none_⟩ | ⟨before, after, divided, -⟩
  · rw [parts, none_]
  · exact absurd (divided ▸ List.mem_append_right before List.mem_cons_self) plain

theorem parts_of_divided (plain : '.' ∉ domain.toList) :
    parts (domain ++ "." ++ name) owner = (domain, name) := by
  have spelled : (domain ++ "." ++ name).toList = domain.toList ++ '.' :: name.toList := by simp
  rw [parts, spelled, Text.splitOnce?_append_cons plain]
  simp

/-- What a reference says is what it is divided into. -/
theorem denotes_iff : Denotes owner raw (domain, name) ↔
    parts raw owner = (domain, name) ∧ domain ≠ "" ∧ name ≠ "" ∧ '.' ∉ name.toList := by
  constructor
  · intro denotes
    cases denotes with
    | bare owned given undivided => exact ⟨parts_of_plain undivided, owned, given, undivided⟩
    | full plain owned given undivided =>
      exact ⟨parts_of_divided plain, owned, given, undivided⟩
  · rintro ⟨halves, owned, given, undivided⟩
    rcases Text.splitOnce?_cases '.' raw.toList with ⟨-, none_⟩ | ⟨before, after, divided, plain, cut⟩
    · rw [parts, none_] at halves
      cases halves
      exact .bare owned given undivided
    · rw [parts, cut] at halves
      cases halves
      have whole : raw = String.ofList before ++ "." ++ String.ofList after := by
        rw [← String.toList_inj, divided]
        simp
      rw [whole]
      exact .full (by simpa using plain) owned given undivided

theorem Denotes.unique {first second : String × String} (one : Denotes owner raw first)
    (other : Denotes owner raw second) : first = second :=
  (denotes_iff.1 one).1.symm.trans (denotes_iff.1 other).1

theorem resolve_eq_ok_iff {reference : Reference} : resolve raw owner = .ok reference ↔
    ∃ target, Denotes owner raw target ∧ reference = locate target.1 target.2 owner := by
  rw [resolve_eq_ok]
  constructor
  · rintro ⟨owned, given, undivided, located⟩
    exact ⟨parts raw owner, denotes_iff.2 ⟨rfl, owned, given, undivided⟩, located⟩
  · rintro ⟨target, denotes, located⟩
    obtain ⟨halves, owned, given, undivided⟩ := denotes_iff.1 denotes
    rw [halves]
    exact ⟨owned, given, undivided, located⟩

theorem eq_of_resolve_eq_error {error : Error} (failed : resolve raw owner = .error error) :
    error = .invalidReference owner raw := by
  rw [resolve] at failed
  split at failed
  split at failed
  · exact (Except.error.inj failed).symm
  · cases failed

theorem resolve_eq_error_iff {error : Error} : resolve raw owner = .error error ↔
    (∀ target, ¬Denotes owner raw target) ∧ error = .invalidReference owner raw := by
  constructor
  · intro failed
    refine ⟨fun target denotes => ?_, eq_of_resolve_eq_error failed⟩
    rw [resolve_eq_ok_iff.2 ⟨target, denotes, rfl⟩] at failed
    cases failed
  · rintro ⟨nothing, rfl⟩
    cases resolved : resolve raw owner with
    | ok reference =>
      obtain ⟨target, denotes, -⟩ := resolve_eq_ok_iff.1 resolved
      exact absurd denotes (nothing target)
    | error other => rw [eq_of_resolve_eq_error resolved]

theorem locate_domain (domain name owner : String) :
    (locate domain name owner).domain = domain ∧ (locate domain name owner).name = name := by
  rcases locate_cases domain name owner with ⟨-, found⟩ | ⟨-, shared, -, found⟩ | ⟨-, -, found⟩
  · rw [found]
    exact ⟨rfl, rfl⟩
  · rw [found]
    exact ⟨rfl, rfl⟩
  · rw [found]
    exact ⟨rfl, rfl⟩

/-- A reference leads to a package if its type is declared in another domain and not redirected. -/
theorem locate_package_iff : (∃ package, (locate domain name owner).scope = .package package) ↔
    domain ≠ owner ∧ ¬Redirects owner (domain, name) := by
  have redirected : (∃ shared, sharedFor? owner (domain ++ "." ++ name) = some shared) ↔
      Redirects owner (domain, name) := by
    rw [← Option.isSome_iff_exists, sharedFor?, List.find?_isSome]
    simp only [Redirects, Bool.and_eq_true, beq_iff_eq]
  rw [← redirected]
  rcases locate_cases domain name owner with
    ⟨same, found⟩ | ⟨other, ⟨shared, listed, found⟩⟩ | ⟨other, none_, found⟩
  · subst same
    simp [found]
  · simp [found, listed]
  · simp [found, other, none_]

end Reference

section
variable {protocol : Protocol} {reference : Reference} {owner raw : String}

theorem Protocol.isSome_target?_iff :
    (∃ node, protocol.target? reference = some node) ↔
      protocol.Declares (reference.domain, reference.name) := by
  simp only [Protocol.target?, Option.bind_eq_some_iff, Protocol.domain?, List.find?_eq_some_iff_append,
    Declares]
  constructor
  · rintro ⟨node, first, ⟨named, before, after, split, others⟩, declared⟩
    have found := List.find?_some declared
    exact ⟨before, first, after, split, fun other member => by simpa using others other member,
      by simpa using named, node, List.mem_of_find?_eq_some declared, by simpa using found⟩
  · rintro ⟨before, first, after, split, others, named, node, member, declared⟩
    have found : (first.type? reference.name).isSome := by
      rw [Domain.type?, List.find?_isSome]
      exact ⟨node, member, by simpa using declared⟩
    obtain ⟨type, found⟩ := Option.isSome_iff_exists.1 found
    exact ⟨type, first, ⟨by simpa using named, before, after, split,
      fun other member => by simpa using others other member⟩, found⟩

end

namespace ImportGraph
variable {protocol : Protocol} {graph before : ImportGraph} {owner raw source target : String}
  {error : Error}

theorem passes_iff : Passes protocol owner raw ↔ protocol.Resolves (owner, raw) := by
  constructor
  · rintro ⟨reference, node, resolved, declared⟩
    obtain ⟨target, denotes, rfl⟩ := Reference.resolve_eq_ok_iff.1 resolved
    obtain ⟨domain, name⟩ := Reference.locate_domain target.1 target.2 owner
    refine ⟨target, denotes, ?_⟩
    have found := Protocol.isSome_target?_iff.1 ⟨node, declared⟩
    rwa [domain, name] at found
  · rintro ⟨target, denotes, declared⟩
    obtain ⟨domain, name⟩ := Reference.locate_domain target.1 target.2 owner
    obtain ⟨node, found⟩ : ∃ node,
        protocol.target? (Reference.locate target.1 target.2 owner) = some node := by
      rwa [Protocol.isSome_target?_iff, domain, name]
    exact ⟨_, node, Reference.resolve_eq_ok_iff.2 ⟨target, denotes, rfl⟩, found⟩

theorem addReference_eq_error_iff :
    addReference protocol owner before raw = .error error ↔
      protocol.Faults (owner, raw) error := by
  rw [addReference, bind_eq_error, Reference.resolve_eq_error_iff]
  constructor
  · rintro (⟨nothing, rfl⟩ | ⟨reference, resolved, failed⟩)
    · exact .invalid nothing
    · obtain ⟨target, denotes, rfl⟩ := Reference.resolve_eq_ok_iff.1 resolved
      rw [← Protocol.target?] at failed
      cases found : protocol.target? (Reference.locate target.1 target.2 owner) with
      | none =>
        simp only [found, Option.isNone_none, if_true] at failed
        cases failed
        refine .unresolved denotes fun declared => ?_
        obtain ⟨reference, node, again, declares⟩ := passes_iff.2 ⟨target, denotes, declared⟩
        obtain rfl := Except.ok.inj (resolved.symm.trans again)
        cases found.symm.trans declares
      | some node =>
        simp only [found, Option.isNone_some, Bool.false_eq_true, if_false] at failed
        split at failed
        · cases failed
        · cases failed
  · intro faults
    cases faults with
    | invalid nothing => exact .inl ⟨nothing, rfl⟩
    | @unresolved _ _ target denotes undeclared =>
      have resolved := Reference.resolve_eq_ok_iff.2 ⟨target, denotes, rfl⟩
      refine .inr ⟨_, resolved, ?_⟩
      rw [← Protocol.target?]
      cases found : protocol.target? (Reference.locate target.1 target.2 owner) with
      | none => rfl
      | some node =>
        obtain ⟨target', denotes', declared⟩ := passes_iff.1 ⟨_, node, resolved, found⟩
        exact absurd (denotes'.unique denotes ▸ declared) undeclared

theorem leads_iff : Leads owner raw target ↔
    ∃ name, Reference.Denotes owner raw (target, name) ∧ target ≠ owner ∧
      ¬Redirects owner (target, name) := by
  constructor
  · rintro ⟨reference, resolved, leads, rfl⟩
    obtain ⟨⟨domain, name⟩, denotes, rfl⟩ := Reference.resolve_eq_ok_iff.1 resolved
    rw [(Reference.locate_domain domain name owner).1]
    exact ⟨name, denotes, Reference.locate_package_iff.1 leads⟩
  · rintro ⟨name, denotes, apart⟩
    exact ⟨_, Reference.resolve_eq_ok_iff.2 ⟨_, denotes, rfl⟩,
      Reference.locate_package_iff.2 apart, (Reference.locate_domain target name owner).1⟩

theorem mem_references_iff {entry : String × String} : entry ∈ protocol.references ↔
    ∃ domain ∈ protocol.domains, ∃ raw ∈ domain.references, (domain.name, raw) = entry := by
  simp only [Protocol.references, List.mem_flatMap, List.mem_map]

theorem exists_ofProtocol_iff : (∃ graph, ofProtocol protocol = .ok graph) ↔
    ∀ address entry, protocol.RefersAt address entry → protocol.Resolves entry := by
  rw [exists_ofProtocol_eq_ok_iff, ← protocol.enumerates_references.forall_iff]
  simp only [passes_iff, Protocol.references, List.forall_mem_flatMap, List.forall_mem_map]

theorem ofProtocol_eq_error_iff : ofProtocol protocol = .error error ↔
    ∃ address entry, protocol.RefersAt address entry ∧ protocol.Faults entry error ∧
      ∀ earlier other, protocol.RefersAt earlier other → earlier < address →
        protocol.Resolves other := by
  have each : ∀ (before : ImportGraph) (domain : Domain),
      addReferences protocol before domain = .error error ↔
        FirstWith (fun raw => protocol.Resolves (domain.name, raw))
          (fun raw => protocol.Faults (domain.name, raw) error) domain.references :=
    fun before domain => foldlM_eq_error_iff
      (fun _ _ => exists_addReference_eq_ok_iff.trans passes_iff)
      fun _ _ => addReference_eq_error_iff
  have passes : ∀ (before : ImportGraph) (domain : Domain),
      (∃ after, addReferences protocol before domain = .ok after) ↔
        ∀ raw ∈ domain.references, protocol.Resolves (domain.name, raw) :=
    fun before domain => exists_foldlM_eq_ok_iff fun _ _ =>
      exists_addReference_eq_ok_iff.trans passes_iff
  rw [ofProtocol, foldlM_eq_error_iff passes each, ← protocol.enumerates_references.firstWith_iff,
    Protocol.references, firstWith_flatMap]
  simp only [firstWith_map, List.forall_mem_map]

theorem mem_imports_iff (h : ofProtocol protocol = .ok graph) :
    target ∈ graph.imports source ↔ ∃ address raw name,
      protocol.RefersAt address (source, raw) ∧ Reference.Denotes source raw (target, name) ∧
        target ≠ source ∧ ¬Redirects source (target, name) := by
  rw [(ofProtocol_exact h).2.2]
  constructor
  · rintro ⟨domain, member, rfl, raw, inside, leads⟩
    obtain ⟨name, denotes⟩ := leads_iff.1 leads
    obtain ⟨address, refers⟩ := protocol.enumerates_references.mem_iff.1
      (mem_references_iff.2 ⟨domain, member, raw, inside, rfl⟩)
    exact ⟨address, raw, name, refers, denotes⟩
  · rintro ⟨address, raw, name, refers, denotes⟩
    obtain ⟨domain, member, raw, inside, same⟩ := mem_references_iff.1
      (protocol.enumerates_references.mem_iff.2 ⟨address, refers⟩)
    cases same
    exact ⟨domain, member, rfl, raw, inside, leads_iff.2 ⟨name, denotes⟩⟩

/-- The graph of a protocol is built exactly if each of its references names a declared type, and
otherwise the first that does not says why. Its nodes are the domains, and its edges the references that
lead from one domain to another and are not redirected. -/
theorem graph_built (protocol : Protocol) :
    ((∃ graph, ofProtocol protocol = .ok graph) ↔
        ∀ address entry, protocol.RefersAt address entry → protocol.Resolves entry) ∧
      (∀ error, ofProtocol protocol = .error error ↔
        ∃ address entry, protocol.RefersAt address entry ∧ protocol.Faults entry error ∧
          ∀ earlier other, protocol.RefersAt earlier other → earlier < address →
            protocol.Resolves other) ∧
      ∀ graph, ofProtocol protocol = .ok graph →
        graph.names.Nodup ∧
        (∀ name, name ∈ graph.names ↔ ∃ domain ∈ protocol.domains, domain.name = name) ∧
        ∀ source target, target ∈ graph.imports source ↔ ∃ address raw name,
          protocol.RefersAt address (source, raw) ∧ Reference.Denotes source raw (target, name) ∧
            target ≠ source ∧ ¬Redirects source (target, name) := by
  refine ⟨exists_ofProtocol_iff, fun _ => ofProtocol_eq_error_iff, fun graph built => ?_⟩
  obtain ⟨canonical, names, -⟩ := ofProtocol_exact built
  refine ⟨canonical.wellFormed.ordered.imp ne_of_lt, fun name => ?_, fun _ _ => mem_imports_iff built⟩
  rw [names, List.mem_map]

end ImportGraph

end Bindings
