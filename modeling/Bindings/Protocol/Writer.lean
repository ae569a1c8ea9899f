import Bindings.Json.Value
import Bindings.Protocol.Basic

/-! Protocol descriptions as JSON values. Absent texts and empty lists of a type node are left out. -/

set_option autoImplicit false

namespace Bindings

open Json (Value Values Pairs)

def members : List (String × Option Value) → Pairs
  | [] => .nil
  | (key, some value) :: rest => .cons key value (members rest)
  | (_, none) :: rest => members rest

def textList (texts : List String) : Value := .ofList .string texts

def Version.toJson (v : Version) : Value :=
  .object (members [("major", some (.string v.major)), ("minor", some (.string v.minor))])

mutual
def TypeNode.toJson : TypeNode → Value
  | ⟨id, name, kind, reference, items, properties, literals, optional, deprecated, experimental,
      description⟩ =>
    .object <| members
      [("id", id.map .string),
       ("name", name.map .string),
       ("type", kind.map .string),
       ("$ref", reference.map .string),
       ("items", TypeNode.itemsToJson items),
       ("properties", if properties.isEmpty then none
         else some (.array (TypeNode.listToJson properties))),
       ("enum", if literals.isEmpty then none else some (textList literals)),
       ("optional", some (.bool optional)),
       ("deprecated", some (.bool deprecated)),
       ("experimental", some (.bool experimental)),
       ("description", description.map .string)]

def TypeNode.itemsToJson : Option TypeNode → Option Value
  | none => none
  | some node => some node.toJson

def TypeNode.listToJson : List TypeNode → Values
  | [] => .nil
  | node :: nodes => .cons node.toJson (TypeNode.listToJson nodes)
end

def nodeList (nodes : List TypeNode) : Value := .array (TypeNode.listToJson nodes)

def Command.toJson (c : Command) : Value :=
  .object <| members
    [("name", some (.string c.name)),
     ("description", c.description.map .string),
     ("experimental", some (.bool c.experimental)),
     ("deprecated", some (.bool c.deprecated)),
     ("parameters", some (nodeList c.parameters)),
     ("returns", some (nodeList c.returns)),
     ("redirect", c.redirect.map .string)]

def Event.toJson (e : Event) : Value :=
  .object <| members
    [("name", some (.string e.name)),
     ("description", e.description.map .string),
     ("experimental", some (.bool e.experimental)),
     ("deprecated", some (.bool e.deprecated)),
     ("parameters", some (nodeList e.parameters))]

def Domain.toJson (d : Domain) : Value :=
  .object <| members
    [("domain", some (.string d.name)),
     ("description", d.description.map .string),
     ("experimental", some (.bool d.experimental)),
     ("deprecated", some (.bool d.deprecated)),
     ("dependencies", some (textList d.dependencies)),
     ("types", some (nodeList d.types)),
     ("commands", some (.ofList Command.toJson d.commands)),
     ("events", some (.ofList Event.toJson d.events))]

def Protocol.toJson (p : Protocol) : Value :=
  .object <| members
    [("version", p.version.map Version.toJson),
     ("domains", some (.ofList Domain.toJson p.domains))]

def Protocol.text (p : Protocol) : String := p.toJson.text

end Bindings
