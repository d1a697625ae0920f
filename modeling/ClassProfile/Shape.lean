import ClassProfile.Identity

/-! Declared type shapes: the types as they are written in the signature of an
accessor. Some shapes name no concrete type: a type variable, a wildcard
without an upper bound, and an array of either. -/
namespace ClassProfile

/-- A declared type. -/
inductive Shape where
  | scalar (type : Identity)
  | array (element : Shape)
  | generic (base : Identity) (arguments : List Shape)
  | wildcard (upper lower : Option Shape)
  | typeVariable (name : String)

namespace Shape

inductive Kind where
  | scalar | array | generic | wildcard | typeVariable
  deriving DecidableEq

/-- The word for a sort of shape, in messages and in written shapes. -/
def Kind.word : Kind → String
  | .scalar => "scalar"
  | .array => "array"
  | .generic => "generic"
  | .wildcard => "wildcard"
  | .typeVariable => "variable"

def Kind.ofWord? (word : String) : Option Kind :=
  [scalar, array, generic, wildcard, typeVariable].find? (·.word == word)

def kind : Shape → Kind
  | scalar _ => .scalar
  | array _ => .array
  | generic _ _ => .generic
  | wildcard _ _ => .wildcard
  | typeVariable _ => .typeVariable

/-- The raw type that a shape names. A wildcard names what its upper bound
names; a lower bound does not count. -/
def identity? : Shape → Option Identity
  | scalar type => some type
  | array element => element.identity?.map Identity.array
  | generic base _ => some base
  | wildcard (some upper) _ => upper.identity?
  | wildcard none _ => none
  | typeVariable _ => none

/-- The shape below all wildcards with an upper bound. -/
def unwrapped : Shape → Shape
  | wildcard (some upper) _ => upper.unwrapped
  | shape => shape

mutual

/-- The types written out in a shape, at every depth and in the order in which
they are written; an array adds nothing to its element. -/
def written : Shape → List Identity
  | scalar type => [type]
  | array element => element.written
  | generic base arguments => base :: writtenAll arguments
  | wildcard upper lower => writtenBound upper ++ writtenBound lower
  | typeVariable _ => []

/-- The types written out in a list of shapes. -/
def writtenAll : List Shape → List Identity
  | [] => []
  | shape :: rest => shape.written ++ writtenAll rest

/-- The types written out in a bound that may be missing. -/
def writtenBound : Option Shape → List Identity
  | none => []
  | some bound => bound.written

end

/-- A shape of some sort names no concrete type. -/
structure Irreducible where
  kind : Kind
  deriving DecidableEq

def Irreducible.message (failure : Irreducible) : String :=
  "cannot reduce " ++ failure.kind.word ++ " type to a concrete type"

/-- The raw type that a shape names, or the failure to name one. -/
def reduce (shape : Shape) : Except Irreducible Identity :=
  match shape.identity? with
  | some identity => .ok identity
  | none => .error ⟨shape.kind⟩

end Shape
end ClassProfile
