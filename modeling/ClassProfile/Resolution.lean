import ClassProfile.Description
import ClassProfile.Policy
import ClassProfile.Shape

/-! Resolution of a declared type. An array is described by its component, an
iterable generic by its first argument, seen through wildcards and one array
level, and any other type by itself. Parts that name no concrete type are
replaced by the fallback of the policy, and the result is then opaque. -/
namespace ClassProfile

/-- An identity for a shape, and what had to be replaced to give it one. -/
structure Reduction where
  identity : Identity
  failures : List Shape.Irreducible
  deriving DecidableEq

/-- The identity of a shape under a policy. An array that names no type is an
array of the fallback, at whatever depth that takes effect. -/
def Policy.reduction (policy : Policy) : Shape → Reduction
  | .array element =>
    match (Shape.array element).reduce with
    | .ok identity => ⟨identity, []⟩
    | .error failure =>
      let inner := policy.reduction element
      ⟨inner.identity.array, failure :: inner.failures⟩
  | shape =>
    match shape.reduce with
    | .ok identity => ⟨identity, []⟩
    | .error failure => ⟨policy.fallback, [failure]⟩

/-- An iterable generic without arguments. -/
structure Malformed where
  container : Identity
  deriving DecidableEq

def Malformed.message (fault : Malformed) : String :=
  "iterable-like type '" ++ fault.container.name ++ "' declares no type arguments"

/-- Why a type is not resolved. -/
inductive ResolutionFault where
  | malformed (fault : Malformed)
  | element (fault : ElementFault)
  deriving DecidableEq

/-- A resolved type, and what had to be replaced in it. -/
structure Resolution where
  type : TypeDescription
  failures : List Shape.Irreducible
  deriving DecidableEq

/-- A type with the given parts, opaque if anything was replaced in them. -/
def Resolution.of (type : TypeDescription) (failures : List Shape.Irreducible) :
    Except ResolutionFault Resolution :=
  match TypeDescription.checked { type with isOpaque := !failures.isEmpty } with
  | .ok type => .ok ⟨type, failures⟩
  | .error fault => .error (.element fault)

/-- The first argument of an iterable generic, seen through wildcards. -/
def firstArgument (base : Identity) : List Shape → Except Malformed Shape
  | [] => .error ⟨base⟩
  | first :: _ => .ok first.unwrapped

namespace Policy

/-- A type that holds no elements. -/
def resolveScalar (policy : Policy) (shape : Shape) : Except ResolutionFault Resolution :=
  let whole := policy.reduction shape
  Resolution.of { base := whole.identity } whole.failures

def resolveArray (policy : Policy) (element : Shape) : Except ResolutionFault Resolution :=
  let whole := policy.reduction (.array element)
  let inner := policy.reduction element
  Resolution.of { base := whole.identity, isArray := true, element? := some inner.identity }
    (whole.failures ++ inner.failures)

/-- An iterable of the argument, or of the elements of the arrays it holds. -/
def resolveIterable (policy : Policy) (base : Identity) :
    Shape → Except ResolutionFault Resolution
  | .array element =>
    let inner := policy.reduction element
    Resolution.of { base, isArray := true, isIterable := true, element? := some inner.identity }
      inner.failures
  | argument =>
    let inner := policy.reduction argument
    Resolution.of { base, isIterable := true, element? := some inner.identity } inner.failures

def resolve (policy : Policy) (shape : Shape) : Except ResolutionFault Resolution :=
  match shape with
  | .array element => policy.resolveArray element
  | .generic base arguments =>
    if policy.isIterable base then
      match firstArgument base arguments with
      | .ok argument => policy.resolveIterable base argument
      | .error fault => .error (.malformed fault)
    else policy.resolveScalar shape
  | shape => policy.resolveScalar shape

end Policy
end ClassProfile
