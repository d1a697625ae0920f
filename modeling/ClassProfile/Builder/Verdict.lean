import ClassProfile.Accessor.PropertyName
import ClassProfile.Builder.Diagnostic
import ClassProfile.Builder.Supplied
import ClassProfile.Log

/-! Verdicts: what becomes of each accessor. A malformed type is noticed before a
repeated name, and a malformed accessor claims no name. Properties, diagnostics
and the log are all read off the list of verdicts. -/
namespace ClassProfile

/-- What descriptions are built with: a policy, and the name of the property of an
accessor that states none. -/
structure Builder where
  policy : Policy := .standard
  nameProperty : String → String := propertyName

/-- What becomes of an accessor. -/
inductive Verdict where
  | malformed (property : String) (fault : Malformed)
  | duplicate (property accessor : String) (failures : List Shape.Irreducible)
  | described (property : Property) (failures : List Shape.Irreducible)
  | rejected (fault : ElementFault)

namespace Builder

def propertyNameOf (builder : Builder) (accessor : Accessor) : String :=
  accessor.propertyName?.getD (builder.nameProperty accessor.name)

/-- What becomes of an accessor when the given names are taken. -/
def verdict (builder : Builder) (taken : List String) (accessor : Accessor) : Verdict :=
  let name := builder.propertyNameOf accessor
  match builder.policy.resolve accessor.returnType with
  | .error (.malformed fault) => .malformed name fault
  | .error (.element fault) => .rejected fault
  | .ok resolution =>
    if taken.contains name then .duplicate name accessor.name resolution.failures
    else .described ⟨name, resolution.type, accessor.failures⟩ resolution.failures

end Builder

namespace Verdict

def property? : Verdict → Option Property
  | described property _ => some property
  | _ => none

/-- The name taken by the accessor. -/
def claimed (verdict : Verdict) : List String :=
  (verdict.property?.map Property.name).toList

def diagnostic? (policy : Policy) : Verdict → Option Diagnostic
  | malformed property fault => some (.malformed property fault)
  | duplicate property accessor _ => some (.duplicate property accessor)
  | described property _ =>
    if property.type.isOpaque then some (.imprecise property.name policy.fallback.name) else none
  | rejected _ => none

def log (policy : Policy) : Verdict → List Event
  | malformed property fault => [.skipped property fault]
  | duplicate property accessor failures =>
    policy.fallbackEvents failures ++ [.ignored accessor property]
  | described property failures =>
    policy.fallbackEvents failures ++
      if property.type.isOpaque then [.imprecise property.name policy.fallback.name] else []
  | rejected _ => []

/-- The fault of a type that no description admits. -/
def fault? : Verdict → Option ElementFault
  | rejected fault => some fault
  | _ => none

end Verdict

/-- What becomes of each of a list of accessors, the given names being taken. -/
def Builder.verdicts (builder : Builder) (taken : List String) : List Accessor → List Verdict
  | [] => []
  | accessor :: rest =>
    let verdict := builder.verdict taken accessor
    verdict :: builder.verdicts (verdict.claimed ++ taken) rest

end ClassProfile
