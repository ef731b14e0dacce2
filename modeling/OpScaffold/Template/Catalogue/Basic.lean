import OpScaffold.Template.Member

/-!
# OpScaffold.Template.Catalogue.Basic

The members of all values, of types and of the empty value.
-/

namespace OpScaffold.Template.Catalogue

/-- Members of all values. -/
def objectMembers : List Member := [
  .maker, .operator "__repr__", .operator "__hash__", .operator "__str__",
  .operator "__getattribute__", .operator "__setattr__", .operator "__delattr__",
  .operator "__lt__", .operator "__le__", .operator "__eq__", .operator "__ne__",
  .operator "__gt__", .operator "__ge__", .operator "__init__",
  .function "__reduce_ex__" "($self, protocol, /)" ["Helper for pickle."],
  .function "__reduce__" "($self, /)" ["Helper for pickle."],
  .function "__getstate__" "($self, /)" ["Helper for pickle."],
  .typeFunction "__subclasshook__" none [
    "Abstract classes can override this to customize issubclass().", "",
    "This is invoked early on by abc.ABCMeta.__subclasscheck__().",
    "It should return True, False or NotImplemented.  If it returns",
    "NotImplemented, the normal algorithm is used.  Otherwise, it",
    "overrides the normal algorithm (and the outcome is cached).", ""],
  .typeFunction "__init_subclass__" none [
    "This method is called when a class is subclassed.", "",
    "The default implementation does nothing. It may be", "overridden to extend subclasses.", ""],
  .function "__format__" "($self, format_spec, /)" ["Default object formatter."],
  .function "__sizeof__" "($self, /)" ["Size of object in memory, in bytes."],
  .function "__dir__" "($self, /)" ["Default dir() implementation."],
  .property "__class__" ["the object's class"],
  .description [
    "The base class of the class hierarchy.", "",
    "When called, it accepts no arguments and returns a new featureless",
    "instance that has no instance attributes and cannot be given any.", ""]]

/-- Members of types. -/
def typeMembers : List Member := [
  .maker, .operator "__repr__", .operator "__call__", .operator "__getattribute__",
  .operator "__setattr__", .operator "__delattr__", .operator "__init__", .operator "__or__",
  .operator "__ror__",
  .function "mro" "($self, /)" ["Return a type's method resolution order."],
  .function "__subclasses__" "($self, /)" ["Return a list of immediate subclasses."],
  .typeFunction "__prepare__" none [
    "__prepare__() -> dict", "used to create the namespace for the class statement"],
  .function "__instancecheck__" "($self, instance, /)" ["Check if an object is an instance."],
  .function "__subclasscheck__" "($self, subclass, /)" ["Check if a class is a subclass."],
  .function "__dir__" "($self, /)" ["Specialized __dir__ implementation for types."],
  .function "__sizeof__" "($self, /)" ["Return memory consumption of the type object."],
  .field "__basicsize__" [],
  .field "__itemsize__" [],
  .field "__flags__" [],
  .field "__weakrefoffset__" [],
  .field "__base__" [],
  .field "__dictoffset__" [],
  .field "__mro__" [],
  .property "__name__" [],
  .property "__qualname__" [],
  .property "__bases__" [],
  .property "__module__" [],
  .property "__abstractmethods__" [],
  .property "__dict__" [],
  .property "__doc__" [],
  .property "__text_signature__" [],
  .property "__annotations__" []]

/-- Members of the empty value. -/
def nothingMembers : List Member := [
  .maker, .operator "__repr__", .operator "__bool__", .absent "__doc__"]

end OpScaffold.Template.Catalogue
