import ClassProfile.Builder.Imports

/-! Building descriptions. The accessors supplied are examined before anything is
done; after that a build describes what it can and reports the rest. -/
namespace ClassProfile

/-- Why nothing is built. -/
inductive BuildFault where
  | contract (fault : ContractFault)
  | element (fault : ElementFault)
  | repeatedNames (fault : RepeatedNames)
  deriving DecidableEq

/-- An outcome and what was recorded on the way. -/
structure Logged (α : Type) where
  outcome : Except BuildFault α
  log : List Event

/-- Described properties and what is reported of them. -/
structure DescribedProperties where
  properties : List Property
  diagnostics : List Diagnostic

/-- Imports and what is reported on the way. -/
structure CollectedImports where
  imports : List Identity
  diagnostics : List Diagnostic

/-- A description and what is reported of its properties. -/
structure Built where
  description : ClassDescription
  diagnostics : List Diagnostic

/-- The reports of properties that are described with less precision or dropped as
duplicates. -/
def Built.warnings (built : Built) : List Diagnostic :=
  built.diagnostics.filter fun diagnostic => !diagnostic.isError

def Built.errors (built : Built) : List Diagnostic := built.diagnostics.filter Diagnostic.isError

namespace Builder

def propertiesOf (builder : Builder) (accessors : List Accessor) : List Property :=
  sortedBy Property.name ((builder.verdicts [] accessors).filterMap Verdict.property?)

def diagnosticsOf (builder : Builder) (accessors : List Accessor) : List Diagnostic :=
  (builder.verdicts [] accessors).filterMap (Verdict.diagnostic? builder.policy)

def logOf (builder : Builder) (accessors : List Accessor) : List Event :=
  (builder.verdicts [] accessors).flatMap (Verdict.log builder.policy)

/-- The properties of accessors, sorted by name; the first accessor of a name wins. -/
def describeProperties (builder : Builder) (supplied : Supplied) : Logged DescribedProperties :=
  match supplied.accessors with
  | .error fault => ⟨.error (.contract fault), []⟩
  | .ok accessors =>
    let log := builder.logOf accessors
    match (builder.verdicts [] accessors).findSome? Verdict.fault? with
    | some fault => ⟨.error (.element fault), log⟩
    | none => ⟨.ok ⟨builder.propertiesOf accessors, builder.diagnosticsOf accessors⟩, log⟩

/-- The types that code for the accessors must import, sorted by name. -/
def collectImports (builder : Builder) (supplied : Supplied) : Logged CollectedImports :=
  match supplied.accessors with
  | .error fault => ⟨.error (.contract fault), []⟩
  | .ok accessors =>
    ⟨.ok ⟨builder.importsOf accessors, builder.importDiagnostics accessors⟩, []⟩

/-- The description of a class from its accessors. The reports of the imports are
among those of the properties and are not repeated. -/
def build (builder : Builder) (subject : Identity) (supplied : Supplied) : Logged Built :=
  let described := builder.describeProperties supplied
  match described.outcome with
  | .error fault => ⟨.error fault, described.log⟩
  | .ok found =>
    let collected := builder.collectImports supplied
    let log := described.log ++ collected.log
    match collected.outcome with
    | .error fault => ⟨.error fault, log⟩
    | .ok needed =>
      match ClassDescription.ofParts subject found.properties needed.imports with
      | .error fault => ⟨.error (.repeatedNames fault), log⟩
      | .ok description =>
        let finished := Event.described subject.name description.properties.length
          description.imports.length found.diagnostics.length
        ⟨.ok ⟨description, found.diagnostics⟩, log ++ [finished]⟩

end Builder
end ClassProfile
