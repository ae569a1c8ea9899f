import Bindings.Error
import Bindings.Protocol.Basic

/-! Reading a protocol description from JSON. -/

set_option autoImplicit false

namespace Bindings

open Json (Read Record readBool readOptional readScalars readShut readList readText)

def field {α β : Type} (key : String) (read : Read β) (put : α → β → α) (required : Bool := false) :
    Json.Field α :=
  ⟨key, required, fun draft value => (read draft).map (put value)⟩

def Version.record : Record Version where
  name := "Version"
  fields :=
    [field "major" readText (fun v x => { v with major := x }) true,
     field "minor" readText (fun v x => { v with minor := x }) true]
  blank := {}

/-- The record of a type node, whose lists may open `depth` more containers. -/
def TypeNode.record (depth : Nat) (node : Read TypeNode) (nodes : Read (List TypeNode)) :
    Record TypeNode where
  name := "AnyType"
  fields :=
    [field "id" (readOptional readText) fun v x => { v with id := x },
     field "name" (readOptional readText) fun v x => { v with name := x },
     field "type" (readOptional readText) fun v x => { v with kind := x },
     field "$ref" (readOptional readText) fun v x => { v with reference := x },
     field "items" (readOptional node) fun v x => { v with items := x },
     field "properties" nodes fun v x => { v with properties := x },
     field "enum" (readScalars readText depth) fun v x => { v with literals := x },
     field "optional" readBool fun v x => { v with optional := x },
     field "deprecated" readBool fun v x => { v with deprecated := x },
     field "experimental" readBool fun v x => { v with experimental := x },
     field "description" (readOptional readText) fun v x => { v with description := x }]
  blank := {}

mutual
def TypeNode.read : (depth : Nat) → Read TypeNode
  | 0 => readShut (.record "AnyType")
  | depth + 1 => (TypeNode.record depth (TypeNode.read depth) (TypeNode.readAll depth)).read

def TypeNode.readAll : (depth : Nat) → Read (List TypeNode)
  | 0 => readShut .sequence
  | depth + 1 => readList (TypeNode.read depth)
end

def Command.record (depth : Nat) : Record Command where
  name := "Command"
  fields :=
    [field "name" readText (fun v x => { v with name := x }) true,
     field "description" (readOptional readText) fun v x => { v with description := x },
     field "experimental" readBool fun v x => { v with experimental := x },
     field "deprecated" readBool fun v x => { v with deprecated := x },
     field "parameters" (TypeNode.readAll depth) fun v x => { v with parameters := x },
     field "returns" (TypeNode.readAll depth) fun v x => { v with returns := x },
     field "redirect" (readOptional readText) fun v x => { v with redirect := x }]
  blank := {}

def Event.record (depth : Nat) : Record Event where
  name := "Event"
  fields :=
    [field "name" readText (fun v x => { v with name := x }) true,
     field "description" (readOptional readText) fun v x => { v with description := x },
     field "experimental" readBool fun v x => { v with experimental := x },
     field "deprecated" readBool fun v x => { v with deprecated := x },
     field "parameters" (TypeNode.readAll depth) fun v x => { v with parameters := x }]
  blank := {}

def Domain.record (depth : Nat) : Record Domain where
  name := "Domain"
  fields :=
    [field "domain" readText (fun v x => { v with name := x }) true,
     field "description" (readOptional readText) fun v x => { v with description := x },
     field "experimental" readBool fun v x => { v with experimental := x },
     field "deprecated" readBool fun v x => { v with deprecated := x },
     field "dependencies" (readScalars readText depth) fun v x => { v with dependencies := x },
     field "types" (TypeNode.readAll depth) fun v x => { v with types := x },
     field "commands" (readList (Command.record (depth - 2)).read)
       fun v x => { v with commands := x },
     field "events" (readList (Event.record (depth - 2)).read) fun v x => { v with events := x }]
  blank := {}

def Protocol.record (depth : Nat) : Record Protocol where
  name := "Protocol"
  fields :=
    [field "version" (readOptional Version.record.read) fun v x => { v with version := x },
     field "domains" (readList (Domain.record (depth - 2)).read)
       (fun v x => { v with domains := x }) true]
  blank := {}

/-- Read a document; the limit on open containers counts the document itself. -/
def Protocol.ofText (text : String) : Except Error Protocol :=
  ((Json.Document.ofText text).read (Protocol.record (Json.depthLimit - 1)).read).mapError .malformed

def TypeNode.ofText (text : String) : Except Error TypeNode :=
  ((Json.Document.ofText text).read (TypeNode.read Json.depthLimit)).mapError .malformed

end Bindings
