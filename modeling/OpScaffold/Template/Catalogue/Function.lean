import OpScaffold.Template.Member

/-!
# OpScaffold.Template.Catalogue.Function

The members of functions and operators, bound and unbound, of properties and fields, and of types
with arguments.
-/

namespace OpScaffold.Template.Catalogue

/-- Members of bound functions. -/
def methodMembers : List Member := [
  .operator "__repr__", .operator "__hash__", .operator "__call__", .operator "__getattribute__",
  .operator "__lt__", .operator "__le__", .operator "__eq__", .operator "__ne__",
  .operator "__gt__", .operator "__ge__",
  .function "__reduce__" none [],
  .field "__module__" [],
  .property "__doc__" [],
  .property "__name__" [],
  .property "__qualname__" [],
  .property "__self__" [],
  .property "__text_signature__" []]

/-- Members of bound operators. -/
def operationMembers : List Member := [
  .operator "__repr__", .operator "__hash__", .operator "__call__", .operator "__getattribute__",
  .operator "__lt__", .operator "__le__", .operator "__eq__", .operator "__ne__",
  .operator "__gt__", .operator "__ge__",
  .function "__reduce__" none [],
  .field "__self__" [],
  .property "__objclass__" [],
  .property "__name__" [],
  .property "__qualname__" [],
  .property "__doc__" [],
  .property "__text_signature__" []]

/-- Members of operators. -/
def operatorMembers : List Member := [
  .operator "__repr__", .operator "__call__", .operator "__getattribute__", .operator "__get__",
  .function "__reduce__" none [],
  .field "__objclass__" [],
  .field "__name__" [],
  .property "__doc__" [],
  .property "__qualname__" [],
  .property "__text_signature__" []]

/-- Members of functions. -/
def functionMembers : List Member := [
  .operator "__repr__", .operator "__call__", .operator "__getattribute__", .operator "__get__",
  .function "__reduce__" none [],
  .field "__objclass__" [],
  .field "__name__" [],
  .property "__doc__" [],
  .property "__qualname__" [],
  .property "__text_signature__" []]

/-- Members of properties. -/
def propertyMembers : List Member := [
  .operator "__repr__", .operator "__getattribute__", .operator "__get__", .operator "__set__",
  .operator "__delete__",
  .field "__objclass__" [],
  .field "__name__" [],
  .property "__doc__" [],
  .property "__qualname__" []]

/-- Members of fields. -/
def fieldMembers : List Member := [
  .operator "__repr__", .operator "__getattribute__", .operator "__get__", .operator "__set__",
  .operator "__delete__",
  .function "__reduce__" none [],
  .field "__objclass__" [],
  .field "__name__" [],
  .property "__doc__" [],
  .property "__qualname__" []]

/-- Members of functions of types. -/
def typeFunctionMembers : List Member := [
  .operator "__repr__", .operator "__call__", .operator "__getattribute__", .operator "__get__",
  .field "__objclass__" [],
  .field "__name__" [],
  .property "__doc__" [],
  .property "__qualname__" [],
  .property "__text_signature__" []]

/-- Members of free functions. -/
def freeFunctionMembers : List Member := [
  .maker, .operator "__repr__", .operator "__call__", .operator "__get__", .operator "__init__",
  .field "__func__" [],
  .field "__wrapped__" [],
  .property "__isabstractmethod__" [],
  .property "__dict__" [],
  .description [
    "staticmethod(function) -> method", "", "Convert a function to be a static method.", "",
    "A static method does not receive an implicit first argument.",
    "To declare a static method, use this idiom:", "", "     class C:", "         @staticmethod",
    "         def f(arg1, arg2, argN):", "             ...", "",
    "It can be called either on the class (e.g. C.f()) or on an instance",
    "(e.g. C().f()). Both the class and the instance are ignored, and",
    "neither is passed implicitly as the first argument to the method.", "",
    "Static methods in Python are similar to those found in Java or C++.",
    "For a more advanced concept, see the classmethod builtin."]]

/-- Members of types with arguments. -/
def parametrisedMembers : List Member := [
  .maker, .operator "__repr__", .operator "__hash__", .operator "__call__",
  .operator "__getattribute__", .operator "__lt__", .operator "__le__", .operator "__eq__",
  .operator "__ne__", .operator "__gt__", .operator "__ge__", .operator "__iter__",
  .operator "__or__", .operator "__ror__", .operator "__getitem__",
  .function "__mro_entries__" none [],
  .function "__instancecheck__" none [],
  .function "__subclasscheck__" none [],
  .function "__reduce__" none [],
  .function "__dir__" none [],
  .field "__origin__" [],
  .field "__args__" [],
  .field "__unpacked__" [],
  .property "__parameters__" ["Type variables in the GenericAlias."],
  .property "__typing_unpacked_tuple_args__" [],
  .description [
    "Represent a PEP 585 generic type", "",
    "E.g. for t = list[int], t.__origin__ is list and t.__args__ is (int,)."]]

end OpScaffold.Template.Catalogue
