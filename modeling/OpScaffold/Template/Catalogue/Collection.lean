import OpScaffold.Template.Member

/-!
# OpScaffold.Template.Catalogue.Collection

The members of tuples, of tables and of listings of members.
-/

namespace OpScaffold.Template.Catalogue

/-- Members of tuples. -/
def tupleMembers : List Member := [
  .maker, .operator "__repr__", .operator "__hash__", .operator "__getattribute__",
  .operator "__lt__", .operator "__le__", .operator "__eq__", .operator "__ne__",
  .operator "__gt__", .operator "__ge__", .operator "__iter__", .operator "__len__",
  .operator "__getitem__", .operator "__add__", .operator "__mul__", .operator "__rmul__",
  .operator "__contains__",
  .function "__getnewargs__" "($self, /)" [],
  .function "index" "($self, value, start=0, stop=sys.maxsize, /)" [
    "Return first index of value.", "", "Raises ValueError if the value is not present."],
  .function "count" "($self, value, /)" ["Return number of occurrences of value."],
  .typeFunction "__class_getitem__" none ["See PEP 585"],
  .description [
    "Built-in immutable sequence.", "",
    "If no argument is given, the constructor returns an empty tuple.",
    "If iterable is specified the tuple is initialized from iterable's items.", "",
    "If the argument is a tuple, the return value is the same object."]]

/-- Members of tables. -/
def tableMembers : List Member := [
  .maker, .operator "__repr__", .absent "__hash__", .operator "__getattribute__",
  .operator "__lt__", .operator "__le__", .operator "__eq__", .operator "__ne__",
  .operator "__gt__", .operator "__ge__", .operator "__iter__", .operator "__init__",
  .operator "__or__", .operator "__ror__", .operator "__ior__", .operator "__len__",
  .function "__getitem__" none ["x.__getitem__(y) <==> x[y]"],
  .operator "__setitem__", .operator "__delitem__",
  .function "__contains__" "($self, key, /)" [
    "True if the dictionary has the specified key, else False."],
  .function "__sizeof__" none ["D.__sizeof__() -> size of D in memory, in bytes"],
  .function "get" "($self, key, default=None, /)" [
    "Return the value for key if key is in the dictionary, else default."],
  .function "setdefault" "($self, key, default=None, /)" [
    "Insert key with a value of default if key is not in the dictionary.", "",
    "Return the value for key if key is in the dictionary, else default."],
  .function "pop" "($self, key, default=<unrepresentable>, /)" [
    "D.pop(k[,d]) -> v, remove specified key and return the corresponding value.", "",
    "If the key is not found, return the default if given; otherwise,", "raise a KeyError."],
  .function "popitem" "($self, /)" [
    "Remove and return a (key, value) pair as a 2-tuple.", "",
    "Pairs are returned in LIFO (last-in, first-out) order.",
    "Raises KeyError if the dict is empty."],
  .function "keys" none ["D.keys() -> a set-like object providing a view on D's keys"],
  .function "items" none ["D.items() -> a set-like object providing a view on D's items"],
  .function "values" none ["D.values() -> an object providing a view on D's values"],
  .function "update" none [
    "D.update([E, ]**F) -> None.  Update D from dict/iterable E and F.",
    "If E is present and has a .keys() method, then does:  for k in E: D[k] = E[k]",
    "If E is present and lacks a .keys() method, then does:  for k, v in E: D[k] = v",
    "In either case, this is followed by: for k in F:  D[k] = F[k]"],
  .typeFunction "fromkeys" "($type, iterable, value=None, /)" [
    "Create a new dictionary with keys from iterable and values set to value."],
  .function "clear" none ["D.clear() -> None.  Remove all items from D."],
  .function "copy" none ["D.copy() -> a shallow copy of D"],
  .function "__reversed__" "($self, /)" ["Return a reverse iterator over the dict keys."],
  .typeFunction "__class_getitem__" none ["See PEP 585"],
  .description [
    "dict() -> new empty dictionary",
    "dict(mapping) -> new dictionary initialized from a mapping object's", "    (key, value) pairs",
    "dict(iterable) -> new dictionary initialized as if via:", "    d = \x7b\x7d",
    "    for k, v in iterable:", "        d[k] = v",
    "dict(**kwargs) -> new dictionary initialized with the name=value pairs",
    "    in the keyword argument list.  For example:  dict(one=1, two=2)"]]

/-- Members of listings. -/
def listingMembers : List Member := [
  .maker, .operator "__repr__", .operator "__str__", .operator "__getattribute__",
  .operator "__lt__", .operator "__le__", .operator "__eq__", .operator "__ne__",
  .operator "__gt__", .operator "__ge__", .operator "__iter__", .operator "__or__",
  .operator "__ror__", .operator "__ior__", .operator "__len__", .operator "__getitem__",
  .operator "__contains__",
  .function "get" none ["D.get(k[,d]) -> D[k] if k in D, else d.  d defaults to None."],
  .function "keys" none ["D.keys() -> a set-like object providing a view on D's keys"],
  .function "values" none ["D.values() -> an object providing a view on D's values"],
  .function "items" none ["D.items() -> a set-like object providing a view on D's items"],
  .function "copy" none ["D.copy() -> a shallow copy of D"],
  .typeFunction "__class_getitem__" none ["See PEP 585"],
  .function "__reversed__" none ["D.__reversed__() -> reverse iterator"],
  .absent "__doc__", .absent "__hash__"]

end OpScaffold.Template.Catalogue
