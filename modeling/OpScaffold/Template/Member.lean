import OpScaffold.Template.Kind

/-!
# OpScaffold.Template.Member

Members of values as they are listed in the catalogue of a kind: what sort of member it is, and
what is told about it.
-/

namespace OpScaffold.Template

/-- The forms of members. -/
inductive Form
  | function
  | typeFunction
  | freeFunction
  /-- The function that makes values of the kind. -/
  | maker
  | operator
  | property
  | field
  /-- What is told about the kind. -/
  | description
  /-- A member that the kind does not want to have. -/
  | absent
  deriving DecidableEq, Repr

/-- A member. `notes` are the lines of what is told about it. -/
structure Member where
  name : String
  form : Form
  signature : Option String := none
  notes : List String := []
  deriving DecidableEq, Repr

namespace Member

/-- What is told about operators: their arguments, and what they do. -/
def operatorNotes : List (String × String × String) := [
  ("__repr__", "($self, /)", "Return repr(self)."),
  ("__hash__", "($self, /)", "Return hash(self)."),
  ("__str__", "($self, /)", "Return str(self)."),
  ("__getattribute__", "($self, name, /)", "Return getattr(self, name)."),
  ("__lt__", "($self, value, /)", "Return self<value."),
  ("__le__", "($self, value, /)", "Return self<=value."),
  ("__eq__", "($self, value, /)", "Return self==value."),
  ("__ne__", "($self, value, /)", "Return self!=value."),
  ("__gt__", "($self, value, /)", "Return self>value."),
  ("__ge__", "($self, value, /)", "Return self>=value."),
  ("__iter__", "($self, /)", "Implement iter(self)."),
  ("__mod__", "($self, value, /)", "Return self%value."),
  ("__rmod__", "($self, value, /)", "Return value%self."),
  ("__len__", "($self, /)", "Return len(self)."),
  ("__getitem__", "($self, key, /)", "Return self[key]."),
  ("__add__", "($self, value, /)", "Return self+value."),
  ("__mul__", "($self, value, /)", "Return self*value."),
  ("__rmul__", "($self, value, /)", "Return value*self."),
  ("__contains__", "($self, key, /)", "Return key in self."),
  ("__setattr__", "($self, name, value, /)", "Implement setattr(self, name, value)."),
  ("__delattr__", "($self, name, /)", "Implement delattr(self, name)."),
  ("__init__", "($self, /, *args, **kwargs)",
    "Initialize self.  See help(type(self)) for accurate signature."),
  ("__call__", "($self, /, *args, **kwargs)", "Call self as a function."),
  ("__or__", "($self, value, /)", "Return self|value."),
  ("__ror__", "($self, value, /)", "Return value|self."),
  ("__bool__", "($self, /)", "True if self else False"),
  ("__radd__", "($self, value, /)", "Return value+self."),
  ("__sub__", "($self, value, /)", "Return self-value."),
  ("__rsub__", "($self, value, /)", "Return value-self."),
  ("__divmod__", "($self, value, /)", "Return divmod(self, value)."),
  ("__rdivmod__", "($self, value, /)", "Return divmod(value, self)."),
  ("__pow__", "($self, value, mod=None, /)", "Return pow(self, value, mod)."),
  ("__rpow__", "($self, value, mod=None, /)", "Return pow(value, self, mod)."),
  ("__neg__", "($self, /)", "-self"),
  ("__pos__", "($self, /)", "+self"),
  ("__abs__", "($self, /)", "abs(self)"),
  ("__invert__", "($self, /)", "~self"),
  ("__lshift__", "($self, value, /)", "Return self<<value."),
  ("__rlshift__", "($self, value, /)", "Return value<<self."),
  ("__rshift__", "($self, value, /)", "Return self>>value."),
  ("__rrshift__", "($self, value, /)", "Return value>>self."),
  ("__and__", "($self, value, /)", "Return self&value."),
  ("__rand__", "($self, value, /)", "Return value&self."),
  ("__xor__", "($self, value, /)", "Return self^value."),
  ("__rxor__", "($self, value, /)", "Return value^self."),
  ("__int__", "($self, /)", "int(self)"),
  ("__float__", "($self, /)", "float(self)"),
  ("__floordiv__", "($self, value, /)", "Return self//value."),
  ("__rfloordiv__", "($self, value, /)", "Return value//self."),
  ("__truediv__", "($self, value, /)", "Return self/value."),
  ("__rtruediv__", "($self, value, /)", "Return value/self."),
  ("__index__", "($self, /)",
    "Return self converted to an integer, if self is suitable for use as an index into a list."),
  ("__ior__", "($self, value, /)", "Return self|=value."),
  ("__setitem__", "($self, key, value, /)", "Set self[key] to value."),
  ("__delitem__", "($self, key, /)", "Delete self[key]."),
  ("__get__", "($self, instance, owner=None, /)",
    "Return an attribute of instance, which is of type owner."),
  ("__set__", "($self, instance, value, /)", "Set an attribute of instance to value."),
  ("__delete__", "($self, instance, /)", "Delete an attribute of instance.")]

/-- An operator; all kinds tell the same about it. -/
def operator (name : String) : Member :=
  match operatorNotes.lookup name with
  | some (signature, note) => ⟨name, .operator, some signature, [note]⟩
  | none => ⟨name, .operator, none, []⟩

/-- A function of a value. -/
def function (name : String) (signature : Option String) (notes : List String) : Member :=
  ⟨name, .function, signature, notes⟩

/-- A function of a kind. -/
def typeFunction (name : String) (signature : Option String) (notes : List String) : Member :=
  ⟨name, .typeFunction, signature, notes⟩

/-- A function of neither. -/
def freeFunction (name : String) (signature : Option String) (notes : List String) : Member :=
  ⟨name, .freeFunction, signature, notes⟩

/-- The function that makes values of a kind. -/
def maker : Member :=
  ⟨"__new__", .maker, some "($type, *args, **kwargs)",
    ["Create and return a new object.  See help(type) for accurate signature."]⟩

/-- A member that is computed. -/
def property (name : String) (notes : List String) : Member := ⟨name, .property, none, notes⟩

/-- A member that is stored. -/
def field (name : String) (notes : List String) : Member := ⟨name, .field, none, notes⟩

/-- What is told about a kind. -/
def description (notes : List String) : Member := ⟨"__doc__", .description, none, notes⟩

/-- A member that the kind does not have. -/
def absent (name : String) : Member := ⟨name, .absent, none, []⟩

/-- What is told about a member, if anything is. -/
def note? (m : Member) : Option Text :=
  if m.notes.isEmpty then none else some (Text.join ['\n'] (m.notes.map String.toList))

end Member

end OpScaffold.Template
