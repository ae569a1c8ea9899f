import Bindings.Name.Literal
import Bindings.Name.Package
import Bindings.Name.Parameter
import Bindings.Protocol.Basic
import Bindings.Text.Description

/-! Identifiers, wire names and documentation of the parts of a protocol. -/

set_option autoImplicit false

namespace Bindings

def describe (description : Option String) : List String :=
  Text.cleanDescription (description.getD "")

namespace Domain

def ident (domain : Domain) : String := Name.exported domain.name

def package (domain : Domain) : String := Name.package domain.name

def docs (domain : Domain) : List String := describe domain.description

end Domain

namespace TypeNode

def label (node : TypeNode) : String := (node.id.or node.name).getD "<anonymous>"

def isDeclared (node : TypeNode) : Bool := node.id.isSome

def ident (node : TypeNode) (domain : String) : String :=
  Name.withoutDomain (Name.exported domain) (Name.exported (node.id.getD ""))

def fieldIdent (node : TypeNode) : String := Name.exported (node.name.getD "")

def wireName (node : TypeNode) : String := node.name.getD ""

def docs (node : TypeNode) : List String := describe node.description

end TypeNode

namespace Command

def method (command : Command) : String := Name.exported command.name

def arguments (command : Command) : String := command.method ++ "Args"

def reply (command : Command) : String := command.method ++ "Reply"

def wireName (command : Command) (domain : String) : String := domain ++ "." ++ command.name

def docs (command : Command) : List String := describe command.description

end Command

namespace Event

def method (event : Event) : String := Name.exported event.name

def client (event : Event) : String := event.method ++ "Client"

def reply (event : Event) : String := event.method ++ "Reply"

def wireName (event : Event) (domain : String) : String := domain ++ "." ++ event.name

def docs (event : Event) : List String := describe event.description

end Event

end Bindings
