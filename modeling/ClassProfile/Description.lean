import ClassProfile.Identity
import ClassProfile.Keyed

/-! Descriptions of properties and classes. A type has an element exactly when it
is an array or iterable. A class has its properties in the order of their names,
no two of one name, and its imports likewise; both rules are kept by the checked
constructors, which refuse an element out of place and a repeated name. -/
namespace ClassProfile

/-- What is known of the type of a property. An iterable of arrays is both an
array and iterable, and its element is that of the arrays. An opaque type names
the fallback of the policy somewhere. -/
structure TypeDescription where
  base : Identity
  isArray : Bool := false
  isIterable : Bool := false
  element? : Option Identity := none
  isOpaque : Bool := false
  deriving DecidableEq

/-- An element type that is missing or out of place. -/
inductive ElementFault where
  | missing (base : Identity)
  | unexpected (base : Identity)
  deriving DecidableEq

def ElementFault.message : ElementFault → String
  | missing base => "array or iterable type '" ++ base.name ++ "' requires an element type"
  | unexpected base => "scalar type '" ++ base.name ++ "' cannot have an element type"

namespace TypeDescription

def isContainer (type : TypeDescription) : Bool := type.isArray || type.isIterable

/-- The description, if its element type is where it belongs. -/
def checked (type : TypeDescription) : Except ElementFault TypeDescription :=
  match type.isContainer, type.element? with
  | true, none => .error (.missing type.base)
  | false, some _ => .error (.unexpected type.base)
  | _, _ => .ok type

def isPrimitive (type : TypeDescription) : Bool := type.base.isPrimitive

/-- The base type is the truth type, plain or boxed. -/
def isBoolean (type : TypeDescription) : Bool :=
  type.base.name == "boolean" || type.base.name == "java.lang.Boolean"

def elementName? (type : TypeDescription) : Option String :=
  type.element?.map Identity.simpleName

/-- The two are equal but for what identities of one name may differ in. -/
def alike (s t : TypeDescription) : Bool :=
  s.base.sameName t.base && s.isArray == t.isArray && s.isIterable == t.isIterable &&
    (s.element?.map Identity.name == t.element?.map Identity.name) && s.isOpaque == t.isOpaque

end TypeDescription

structure Property where
  name : String
  type : TypeDescription
  failures : List Identity := []
  deriving DecidableEq

namespace Property

def typeName (property : Property) : String := property.type.base.simpleName

/-- Reading the property may fail in a declared way. -/
def throwsFailures (property : Property) : Bool := !property.failures.isEmpty

/-- The two are equal but for what identities of one name may differ in. -/
def alike (p q : Property) : Bool :=
  p.name == q.name && p.type.alike q.type &&
    p.failures.map Identity.name == q.failures.map Identity.name

end Property

structure ClassDescription where
  subject : Identity
  properties : List Property := []
  imports : List Identity := []
  deriving DecidableEq

/-- Property names that occur more than once. -/
structure RepeatedNames where
  names : List String
  deriving DecidableEq

def RepeatedNames.message (fault : RepeatedNames) : String :=
  "duplicate property names: " ++ String.intercalate ", " fault.names

/-- A name that no property has. -/
structure MissingProperty where
  name : String
  deriving DecidableEq

/-- The texts that occur more than once, each once and in order. -/
def repeated (texts : List String) : List String :=
  sortedBy id (distinctBy id (texts.filter fun text => decide (1 < texts.count text)))

/-- The properties in order, if no two share a name. -/
def arrangedProperties (properties : List Property) : Except RepeatedNames (List Property) :=
  match repeated (properties.map Property.name) with
  | [] => .ok (sortedBy Property.name properties)
  | names => .error ⟨names⟩

/-- The imports in order, the first of each name. -/
def arrangedImports (imports : List Identity) : List Identity :=
  sortedBy Identity.name (distinctBy Identity.name imports)

namespace ClassDescription

/-- The description with these parts, put in order. -/
def ofParts (subject : Identity) (properties : List Property) (imports : List Identity) :
    Except RepeatedNames ClassDescription := do
  let arranged ← arrangedProperties properties
  return ⟨subject, arranged, arrangedImports imports⟩

def className (description : ClassDescription) : String := description.subject.simpleName

def namespaceName? (description : ClassDescription) : Option String :=
  description.subject.namespaceName?

def property? (description : ClassDescription) (name : String) : Option Property :=
  description.properties.find? fun property => property.name == name

/-- The property of a name, or the failure to find one. -/
def property (description : ClassDescription) (name : String) :
    Except MissingProperty Property :=
  match description.property? name with
  | some property => .ok property
  | none => .error ⟨name⟩

/-- The two are equal but for what identities of one name may differ in. -/
def alike (c d : ClassDescription) : Bool :=
  c.subject.sameName d.subject &&
    (c.properties.length == d.properties.length &&
      (c.properties.zip d.properties).all fun (p, q) => p.alike q) &&
    c.imports.map Identity.name == d.imports.map Identity.name

end ClassDescription
end ClassProfile
