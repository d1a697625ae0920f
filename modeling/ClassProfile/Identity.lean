import ClassProfile.Text.Separation

/-! Identities of types. An identity is known by its qualified name alone when it
is ordered or collected; the primitive mark and the component of an array are
carried along. Two identities may therefore share a name and still differ, and
`=` tells them apart where `sameName` does not. -/
namespace ClassProfile

def primitiveNames : List String :=
  ["boolean", "byte", "char", "short", "int", "long", "float", "double", "void"]

/-- The identity of a type, which is an array when it has a component. -/
inductive Identity where
  | plain (name : String) (isPrimitive : Bool)
  | ofArray (name : String) (isPrimitive : Bool) (component : Identity)
  deriving DecidableEq

namespace Identity

def name : Identity → String
  | plain name _ => name
  | ofArray name _ _ => name

/-- The type is one of the primitive types, or is said to be. -/
def isPrimitive : Identity → Bool
  | plain _ isPrimitive => isPrimitive
  | ofArray _ isPrimitive _ => isPrimitive

def component? : Identity → Option Identity
  | plain _ _ => none
  | ofArray _ _ component => some component

def isArray (i : Identity) : Bool := i.component?.isSome

def ofParts (name : String) (isPrimitive : Bool) : Option Identity → Identity
  | none => plain name isPrimitive
  | some component => ofArray name isPrimitive component

/-- The identity of a type that is no array; keywords are primitive. -/
def named (name : String) : Identity := plain name (primitiveNames.contains name)

def array (component : Identity) : Identity := ofArray (component.name ++ "[]") false component

/-- The name without its namespace, with one pair of brackets per array level. -/
def simpleName : Identity → String
  | plain name _ =>
    match Text.splitLast '.' name.toList with
    | some (_, after) => String.ofList after
    | none => name
  | ofArray _ _ component => component.simpleName ++ "[]"

/-- What stands before the last dot of the name, unless that is nothing.
Primitive types and arrays belong to no namespace. -/
def namespaceName? : Identity → Option String
  | plain name false =>
    match Text.splitLast '.' name.toList with
    | some ([], _) => none
    | some (before, _) => some (String.ofList before)
    | none => none
  | plain _ true => none
  | ofArray _ _ _ => none

def sameName (i j : Identity) : Bool := i.name == j.name

end Identity
end ClassProfile
