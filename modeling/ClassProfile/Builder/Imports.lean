import ClassProfile.Builder.Verdict

/-! Imports: the types that generated code writes out. An array and an iterable
stand for their elements, any other type for all that is written in it. Primitive
and ambient types and arrays need no import, whichever mark the first identity of
a name carries. -/
namespace ClassProfile

/-- The types that code for a property of a declared type writes out. -/
def Policy.writtenTypes (policy : Policy) (shape : Shape) : Except Malformed (List Identity) :=
  match shape with
  | .array element => .ok element.written
  | .generic base arguments =>
    if policy.isIterable base then
      match firstArgument base arguments with
      | .ok (.array element) => .ok element.written
      | .ok argument => .ok argument.written
      | .error fault => .error fault
    else .ok shape.written
  | shape => .ok shape.written

def Policy.needsImport (policy : Policy) (type : Identity) : Bool :=
  !(type.isPrimitive || type.isArray || policy.isAmbient type)

namespace Builder

/-- The types that an accessor brings in, none if it is malformed. -/
def candidates (builder : Builder) (accessor : Accessor) : List Identity :=
  match builder.policy.writtenTypes accessor.returnType with
  | .ok types => types ++ accessor.failures
  | .error _ => []

def malformed? (builder : Builder) (accessor : Accessor) : Option Diagnostic :=
  match builder.policy.writtenTypes accessor.returnType with
  | .ok _ => none
  | .error fault => some (.malformed (builder.propertyNameOf accessor) fault)

/-- The imports of a list of accessors, in order; of identities of one name the
first counts. -/
def importsOf (builder : Builder) (accessors : List Accessor) : List Identity :=
  sortedBy Identity.name
    ((distinctBy Identity.name (accessors.flatMap builder.candidates)).filter
      builder.policy.needsImport)

def importDiagnostics (builder : Builder) (accessors : List Accessor) : List Diagnostic :=
  accessors.filterMap builder.malformed?

end Builder
end ClassProfile
