import OpScaffold.Template.Catalogue
import OpScaffold.Template.Error

/-!
# OpScaffold.Template.Value

Values that a template can reach. A value has the members of its kind. A function or an operator
that is taken from a value keeps that value; taken from a kind it stands for itself. Members that
are computed or stored tell about the value: a kind tells its name and its lineage, a function what
it belongs to.
-/

namespace OpScaffold.Template

/-- A value. Tuples hold kinds, or one value of any kind. -/
inductive Value
  | text (t : Text)
  | number (n : Nat)
  | truth (b : Bool)
  | nothing
  | types (kinds : List Kind)
  | single (v : Value)
  | emptyTable
  | type (k : Kind)
  /-- The members that a kind lists itself, by name. -/
  | listing (k : Kind)
  /-- A function that `owner` lists, with the value that it was taken from. -/
  | method (owner : Kind) (m : Member) (self : Value)
  /-- An operator that `owner` lists, with the value that it was taken from. -/
  | operation (owner : Kind) (m : Member) (self : Value)
  /-- A member as `owner` lists it. -/
  | unbound (owner : Kind) (m : Member)
  /-- A kind with an argument. -/
  | parametrised (k : Kind) (argument : Value)
  deriving DecidableEq, Repr

/-- The kind of a member as it is listed. -/
def Member.kind (m : Member) : Kind :=
  match m.form with
  | .operator => .operator
  | .property => .property
  | .field => .field
  | .typeFunction => .typeFunction
  | .freeFunction => .freeFunction
  | .function | .maker | .description | .absent => .function

namespace Value

/-- The kind of a value. -/
def kind : Value → Kind
  | .text _ => .text
  | .number _ => .number
  | .truth _ => .truth
  | .nothing => .nothing
  | .types _ | .single _ => .tuple
  | .emptyTable => .table
  | .type _ => .type
  | .listing _ => .listing
  | .method _ _ _ => .method
  | .operation _ _ _ => .operation
  | .unbound _ m => m.kind
  | .parametrised _ _ => .parametrised

/-- A text, if there is one. -/
def ofText? (t : Option Text) : Value := (t.map text).getD nothing

/-- A member that is listed under its name. -/
def ofEntry (owner : Kind) (m : Member) : Value :=
  match m.form with
  | .maker => .method owner m (.type owner)
  | .description => ofText? m.note?
  | .absent => .nothing
  | _ => .unbound owner m

/-! ## Values as text -/

/-- Where a value lies in memory; the number means nothing. -/
def address : Text := " at 0x7f0000000000".toList

/-- A function with a value of the given kind. -/
def shownMethod (m : Member) (self : Kind) : Text :=
  "<built-in method ".toList ++ m.name.toList ++ " of ".toList ++ self.name
    ++ " object".toList ++ address ++ ['>']

/-- A member as it is listed. -/
def shownUnbound (owner : Kind) (m : Member) : Text :=
  let word := match m.form with
    | .operator => "<slot wrapper '"
    | .property => "<attribute '"
    | .field => "<member '"
    | _ => "<method '"
  match m.form with
  | .freeFunction => "<staticmethod(".toList ++ shownMethod m .type ++ ")>".toList
  | _ => word.toList ++ m.name.toList ++ "' of '".toList ++ owner.name ++ "' objects>".toList

/-- An entry of a listing; `quote` quotes texts. -/
def shownEntry (quote : Text → Text) (owner : Kind) (m : Member) : Text :=
  match m.form with
  | .maker => shownMethod m .type
  | .description => (m.note?.map quote).getD "None".toList
  | .absent => "None".toList
  | _ => shownUnbound owner m

/-- The members that a kind lists itself; `quote` quotes texts. -/
def shownListing (quote : Text → Text) (k : Kind) : Text :=
  let entries := k.members.map fun m =>
    quote m.name.toList ++ [':', ' '] ++ shownEntry quote k m
  '{' :: Text.join [',', ' '] entries ++ ['}']

/-- A kind as text. -/
def shownKind (k : Kind) : Text := "<class '".toList ++ k.name ++ "'>".toList

/-- A value as text, with the texts in it quoted by `quote`. -/
def quotedWith (quote : Text → Text) : Value → Text
  | .text t => quote t
  | .number n => Text.ofNat n
  | .truth b => (if b then "True" else "False").toList
  | .nothing => "None".toList
  | .types [k] => '(' :: shownKind k ++ [',', ')']
  | .types kinds => '(' :: Text.join [',', ' '] (kinds.map shownKind) ++ [')']
  | .single v => '(' :: v.quotedWith quote ++ [',', ')']
  | .emptyTable => ['{', '}']
  | .type k => shownKind k
  | .listing k => "mappingproxy(".toList ++ shownListing quote k ++ [')']
  | .method _ m self => shownMethod m self.kind
  | .operation _ m self =>
    "<method-wrapper '".toList ++ m.name.toList ++ "' of ".toList ++ self.kind.name
      ++ " object".toList ++ address ++ ['>']
  | .unbound owner m => shownUnbound owner m
  | .parametrised k argument => k.name ++ ['['] ++ argument.quotedWith quote ++ [']']

/-- A value as text; a text stands for itself, and a listing is shown without its kind. -/
def shown : Value → Text
  | .text t => t
  | .listing k => shownListing Text.quoted k
  | v => v.quotedWith Text.quoted

/-! ## Members -/

/-- What is told about a kind. -/
def ofDescription (k : Kind) : Value :=
  match k, k.ownMember? "__doc__".toList with
  | .type, _ =>
    .text ("type(object) -> the object's type\n".toList
      ++ "type(name, bases, dict, **kwds) -> a new type".toList)
  | k, some m => ofEntry k m
  | _, none => .nothing

/-- What a kind tells about itself. -/
def kindProperty (k : Kind) (name : Text) : Except Error Value :=
  match String.ofList name with
  | "__class__" => .ok (.type .type)
  | "__name__" | "__qualname__" => .ok (.text k.ownName)
  | "__module__" => .ok (.text k.moduleName)
  | "__base__" => .ok ((k.base?.map type).getD nothing)
  | "__bases__" => .ok (.types k.base?.toList)
  | "__mro__" => .ok (.types k.lineage)
  | "__dict__" => .ok (.listing k)
  | "__doc__" => .ok (ofDescription k)
  | "__text_signature__" => .ok (ofText? k.signature?)
  | "__basicsize__" => .ok (.number k.layout.size)
  | "__itemsize__" => .ok (.number k.layout.itemSize)
  | "__flags__" => .ok (.number k.layout.marks)
  | "__weakrefoffset__" => .ok (.number k.layout.referenceOffset)
  | "__dictoffset__" => .ok (.number k.layout.tableOffset)
  | "__abstractmethods__" => .error (.withheldMember name)
  | _ => .error (.unknownKindMember k.name name)

/-- The parts of a whole number as a fraction and as a point of the plane. -/
def numberProperty (n : Nat) (name : Text) : Value :=
  match String.ofList name with
  | "imag" => .number 0
  | "denominator" => .number 1
  | _ => .number n

/-- The name of the kind that a function taken from a value is shown with. -/
def qualifier : Value → Text
  | .type k => k.ownName
  | v => v.kind.ownName

/-- What a member tells about itself, behind the name of the kind `qualifier`. -/
def memberProperty (qualifier : Text) (m : Member) (name : Text) : Value :=
  match String.ofList name with
  | "__name__" => .text m.name.toList
  | "__qualname__" => .text (qualifier ++ '.' :: m.name.toList)
  | "__doc__" => ofText? m.note?
  | "__text_signature__" => ofText? (m.signature.map String.toList)
  | _ => .nothing

/-- The value of a member that is computed or stored. -/
def property (v : Value) (name : Text) : Except Error Value :=
  match v, String.ofList name with
  | .type k, _ => kindProperty k name
  | v, "__class__" => .ok (.type v.kind)
  | .number n, _ => .ok (numberProperty n name)
  | .truth b, _ => .ok (numberProperty b.toNat name)
  | .method _ m self, "__self__" => .ok (if m.form = .freeFunction then .nothing else self)
  | .operation _ _ self, "__self__" => .ok self
  | .method _ m self, _ => .ok (memberProperty self.qualifier m name)
  | .operation owner _ _, "__objclass__" | .unbound owner _, "__objclass__" => .ok (.type owner)
  | .operation owner m _, _ => .ok (memberProperty owner.ownName m name)
  | .unbound owner m, "__func__" | .unbound owner m, "__wrapped__" =>
    .ok (.method owner m (.type owner))
  | .unbound _ _, "__isabstractmethod__" | .parametrised _ _, "__unpacked__" => .ok (.truth false)
  | .unbound _ _, "__dict__" => .ok .emptyTable
  | .unbound owner m, _ => .ok (memberProperty owner.ownName m name)
  | .parametrised k _, "__origin__" => .ok (.type k)
  | .parametrised _ argument, "__args__" => .ok (.single argument)
  | .parametrised _ _, "__parameters__" => .ok (.types [])
  | _, _ => .ok .nothing

/-- A member that `owner` lists, taken from a value. -/
def take (v : Value) (owner : Kind) (m : Member) : Except Error Value :=
  match m.form with
  | .function => .ok (.method owner m v)
  | .typeFunction => .ok (.method owner m (.type v.kind))
  | .freeFunction => .ok (.method owner m (.type owner))
  | .operator => .ok (.operation owner m v)
  | .property | .field => v.property m.name.toList
  | .maker | .description | .absent => .ok (ofEntry owner m)

/-- A member of a value that is no kind. -/
def plainMember? (v : Value) (name : Text) : Except Error Value :=
  match v.kind.member? name with
  | some (owner, m) => v.take owner m
  | none => .error (.unknownMember v.kind.name name)

/-- A member that `owner` lists, taken from the kind `k`. -/
def takeFromKind (k owner : Kind) (m : Member) : Value :=
  match m.form with
  | .typeFunction => .method owner m (.type k)
  | .freeFunction => .method owner m (.type owner)
  | _ => ofEntry owner m

/-- Whether a member tells about the value that it is taken from. -/
def isTelling (m : Member) : Bool := m.form == .property || m.form == .field

/-- A member of a kind. What all kinds tell goes first, then what the kind or its lineage lists, then
what can be done with all kinds. -/
def kindMember? (k : Kind) (name : Text) : Except Error Value :=
  match Kind.type.member? name, k.member? name with
  | some (metaOwner, m), own =>
    if isTelling m then kindProperty k name
    else match own with
      | some (owner, m) => .ok (takeFromKind k owner m)
      | none => (Value.type k).take metaOwner m
  | none, some (owner, m) => .ok (takeFromKind k owner m)
  | none, none => .error (.unknownKindMember k.name name)

/-- The members that a kind with an argument has itself; the others are those of the kind. -/
def ownOfParametrised : List String := [
  "__class__", "__origin__", "__args__", "__unpacked__", "__parameters__",
  "__typing_unpacked_tuple_args__", "__mro_entries__", "__reduce_ex__", "__reduce__", "__copy__",
  "__deepcopy__"]

/-- The member `name` of a value. -/
def member? (name : Text) : Value → Except Error Value
  | .type k => kindMember? k name
  | .parametrised k argument =>
    if ownOfParametrised.any (·.toList == name) then (parametrised k argument).plainMember? name
    else kindMember? k name
  | v => v.plainMember? name

/-! ## Items -/

/-- A key as a value. -/
def ofKey : Key → Value
  | .position n => .number n
  | .name t => .text t

/-- The item of a list at a position. -/
def itemOf (sequence : Sequence) (items : List Value) : Key → Except Error Value
  | .name _ => .error (.indexNotNumeric sequence)
  | .position n => match items[n]? with
    | some v => .ok v
    | none => .error (.indexOutOfRange sequence)

/-- The item of a value under a key. -/
def item? (key : Key) : Value → Except Error Value
  | .text t => itemOf .text (t.map fun c => text [c]) key
  | .types kinds => itemOf .tuple (kinds.map type) key
  | .single v => itemOf .tuple [v] key
  | .emptyTable => .error (.unknownKey key)
  | .listing k => match key with
    | .name t => match k.ownMember? t with
      | some m => .ok (ofEntry k m)
      | none => .error (.unknownKey key)
    | .position _ => .error (.unknownKey key)
  | .type k =>
    if k == .type || (k.member? "__class_getitem__".toList).isSome then
      .ok (.parametrised k (ofKey key))
    else .error (.kindNotIndexable k.name)
  | v@(.parametrised _ _) => .error (.alreadyParametrised v.shown)
  | v => .error (.notIndexable v.kind.name)

end Value

end OpScaffold.Template
