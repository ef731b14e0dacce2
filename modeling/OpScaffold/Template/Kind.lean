import OpScaffold.Text.Basic

/-!
# OpScaffold.Template.Kind

The kinds of values that a template can reach from the name of a variant. Every kind is a value
itself, of kind `type`, and has the members of its lineage: its own, and those of the kinds that it
extends.
-/

namespace OpScaffold.Template

/-- The kinds of values. -/
inductive Kind
  | object
  | type
  | text
  | number
  | truth
  | nothing
  | tuple
  | table
  /-- The members of a kind, by name. -/
  | listing
  /-- A function of a value, with that value. -/
  | method
  /-- An operator of a value, with that value. -/
  | operation
  | operator
  | function
  /-- A member that is computed. -/
  | property
  /-- A member that is stored. -/
  | field
  /-- A function that is given the kind. -/
  | typeFunction
  /-- A function that is given neither value nor kind. -/
  | freeFunction
  /-- A kind with an argument. -/
  | parametrised
  deriving DecidableEq, Repr

namespace Kind

/-- The name of a kind within its module. -/
def ownName : Kind → Text
  | .object => "object".toList
  | .type => "type".toList
  | .text => "str".toList
  | .number => "int".toList
  | .truth => "bool".toList
  | .nothing => "NoneType".toList
  | .tuple => "tuple".toList
  | .table => "dict".toList
  | .listing => "mappingproxy".toList
  | .method => "builtin_function_or_method".toList
  | .operation => "method-wrapper".toList
  | .operator => "wrapper_descriptor".toList
  | .function => "method_descriptor".toList
  | .property => "getset_descriptor".toList
  | .field => "member_descriptor".toList
  | .typeFunction => "classmethod_descriptor".toList
  | .freeFunction => "staticmethod".toList
  | .parametrised => "GenericAlias".toList

/-- The module of a kind. -/
def moduleName : Kind → Text
  | .parametrised => "types".toList
  | _ => "builtins".toList

/-- The name of a kind in messages. -/
def name : Kind → Text
  | .parametrised => "types.GenericAlias".toList
  | k => k.ownName

/-- The kind that a kind extends. -/
def base? : Kind → Option Kind
  | .object => none
  | .truth => some .number
  | _ => some .object

/-- A kind and the kinds that it extends, the nearest first. -/
def lineage : Kind → List Kind
  | .object => [.object]
  | .truth => [.truth, .number, .object]
  | k => [k, .object]

/-- The arguments that make a value of a kind, where they are known. -/
def signature? : Kind → Option Text
  | .object => some "()".toList
  | .tuple => some "(iterable=(), /)".toList
  | _ => none

/-- The memory layout of the values of a kind, in bytes, and the marks of the kind. -/
structure Layout where
  size : Nat
  itemSize : Nat := 0
  marks : Nat
  referenceOffset : Nat := 0
  tableOffset : Nat := 0
  deriving DecidableEq, Repr

/-- The memory layout of a kind. -/
def layout : Kind → Layout
  | .object => { size := 16, marks := 529664 }
  | .type =>
    { size := 904, itemSize := 40, marks := 2148031744, referenceOffset := 368, tableOffset := 264 }
  | .text => { size := 80, marks := 273159424 }
  | .number => { size := 24, itemSize := 4, marks := 21501184 }
  | .truth => { size := 32, itemSize := 4, marks := 21500160 }
  | .nothing => { size := 16, marks := 528640 }
  | .tuple => { size := 24, itemSize := 8, marks := 71849248 }
  | .table => { size := 48, marks := 541611328 }
  | .listing => { size := 24, marks := 545088 }
  | .method => { size := 56, marks := 547200, referenceOffset := 40 }
  | .operation => { size := 32, marks := 545152 }
  | .operator => { size := 56, marks := 676224 }
  | .function => { size := 56, marks := 678272 }
  | .property | .field => { size := 48, marks := 545152 }
  | .typeFunction => { size := 56, marks := 545152 }
  | .freeFunction => { size := 32, marks := 546048, tableOffset := 24 }
  | .parametrised => { size := 64, marks := 548096, referenceOffset := 40 }

end Kind

end OpScaffold.Template
