/-! Protocol descriptions: domains of types, commands and events. -/

set_option autoImplicit false

namespace Bindings

structure Version where
  major : String := ""
  minor : String := ""
  deriving DecidableEq

/-- A type as it is declared or used: a declared type has an `id`, a property or parameter a
`name`, the items of an array neither. -/
structure TypeNode where
  id : Option String := none
  name : Option String := none
  kind : Option String := none
  reference : Option String := none
  items : Option TypeNode := none
  properties : List TypeNode := []
  literals : List String := []
  optional : Bool := false
  deprecated : Bool := false
  experimental : Bool := false
  description : Option String := none

/-- A remote operation; a redirected one belongs to another domain. -/
structure Command where
  name : String := ""
  description : Option String := none
  experimental : Bool := false
  deprecated : Bool := false
  parameters : List TypeNode := []
  returns : List TypeNode := []
  redirect : Option String := none

structure Event where
  name : String := ""
  description : Option String := none
  experimental : Bool := false
  deprecated : Bool := false
  parameters : List TypeNode := []

structure Domain where
  name : String := ""
  description : Option String := none
  experimental : Bool := false
  deprecated : Bool := false
  dependencies : List String := []
  types : List TypeNode := []
  commands : List Command := []
  events : List Event := []

structure Protocol where
  version : Option Version := none
  domains : List Domain := []

def Protocol.domain? (protocol : Protocol) (name : String) : Option Domain :=
  protocol.domains.find? fun domain => domain.name == name

def Domain.type? (domain : Domain) (id : String) : Option TypeNode :=
  domain.types.find? fun type => type.id == some id

def Command.isRedirected (command : Command) : Bool := command.redirect.isSome

def Command.hasArguments (command : Command) : Bool := !command.parameters.isEmpty

def Command.hasReply (command : Command) : Bool := !command.returns.isEmpty

/-- The commands that the domain itself implements. -/
def Domain.ownCommands (domain : Domain) : List Command :=
  domain.commands.filter fun command => !command.isRedirected

end Bindings
