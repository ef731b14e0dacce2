import OpScaffold.Template.Catalogue.Basic
import OpScaffold.Template.Catalogue.Collection
import OpScaffold.Template.Catalogue.Function
import OpScaffold.Template.Catalogue.Number
import OpScaffold.Template.Catalogue.Text

/-!
# OpScaffold.Template.Catalogue

The members of each kind, and how a member is found: in the nearest kind of the lineage that lists
its name.
-/

namespace OpScaffold.Template.Kind

open Catalogue

/-- The members that a kind lists itself. -/
def members : Kind → List Member
  | .object => objectMembers
  | .type => typeMembers
  | .text => textMembers
  | .number => numberMembers
  | .truth => truthMembers
  | .nothing => nothingMembers
  | .tuple => tupleMembers
  | .table => tableMembers
  | .listing => listingMembers
  | .method => methodMembers
  | .operation => operationMembers
  | .operator => operatorMembers
  | .function => functionMembers
  | .property => propertyMembers
  | .field => fieldMembers
  | .typeFunction => typeFunctionMembers
  | .freeFunction => freeFunctionMembers
  | .parametrised => parametrisedMembers

/-- A member that a kind lists itself. -/
def ownMember? (k : Kind) (name : Text) : Option Member :=
  k.members.find? (·.name.toList == name)

/-- A member of a kind, with the kind that lists it. -/
def member? (k : Kind) (name : Text) : Option (Kind × Member) :=
  k.lineage.findSome? fun owner => (owner.ownMember? name).map fun m => (owner, m)

end OpScaffold.Template.Kind
