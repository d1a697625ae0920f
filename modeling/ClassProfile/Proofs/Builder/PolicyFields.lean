import ClassProfile.Proofs.Builder.Isolation
import ClassProfile.Proofs.Resolution.Fallback
import Mathlib.Data.List.Basic

/-! What each part of a policy decides. Ambient namespaces take imports away and do nothing
else. The fallback gets into the types of properties and into warnings. A container that
is listed counts where it stands at the top of a declared type, and nowhere below. -/
namespace ClassProfile

namespace Policy

/-- The policy with further ambient namespaces. -/
def addingAmbient (policy : Policy) (namespaces : List String) : Policy :=
  { policy with ambientNamespaces := policy.ambientNamespaces ++ namespaces }

/-- The policy with another container. -/
def addingIterable (policy : Policy) (name : String) : Policy :=
  { policy with iterableTypes := name :: policy.iterableTypes }

variable {policy p q : Policy} {shape : Shape} {name : String}

/-! ### What a resolution looks at -/

theorem reduction_congr (same : p.fallback = q.fallback) :
    p.reduction shape = q.reduction shape := by
  fun_induction Shape.levels shape with
  | case1 element ih => rw [reduction, reduction, ih]
  | case2 shape notArray => rw [reduction.eq_2 _ _ notArray, reduction.eq_2 _ _ notArray, same]

/-- Of a policy, a resolution looks at the fallback and at whether the top of the type is
iterable. -/
theorem resolve_congr (fallback : p.fallback = q.fallback)
    (top : ∀ base arguments, shape = .generic base arguments →
      p.isIterable base = q.isIterable base) : p.resolve shape = q.resolve shape := by
  have scalar (whole : Shape) : p.resolveScalar whole = q.resolveScalar whole := by
    rw [resolveScalar, resolveScalar, reduction_congr fallback]
  cases shape with
  | array element =>
    rw [resolve, resolve, resolveArray, resolveArray, reduction_congr fallback,
      reduction_congr fallback]
  | generic base arguments =>
    rw [resolve, resolve, top base arguments rfl, scalar]
    split
    · cases firstArgument base arguments with
      | error fault => rfl
      | ok argument => simp only [resolveIterable_eq, reduction_congr fallback]
    · rfl
  | _ => exact scalar _

theorem writtenTypes_congr (top : ∀ base arguments, shape = .generic base arguments →
      p.isIterable base = q.isIterable base) : p.writtenTypes shape = q.writtenTypes shape := by
  cases shape with
  | generic base arguments => rw [writtenTypes, writtenTypes, top base arguments rfl]
  | _ => rfl

/-- A container that is added is not noticed unless it stands at the top. -/
theorem isIterable_addingIterable (other : ∀ base arguments,
      shape = .generic base arguments → base.name ≠ name) (base : Identity)
    (arguments : List Shape) (top : shape = .generic base arguments) :
    (policy.addingIterable name).isIterable base = policy.isIterable base := by
  simp [isIterable, addingIterable, other base arguments top]

theorem resolve_addingIterable (other : ∀ base arguments,
      shape = .generic base arguments → base.name ≠ name) :
    (policy.addingIterable name).resolve shape = policy.resolve shape :=
  resolve_congr rfl (isIterable_addingIterable other)

theorem writtenTypes_addingIterable (policy : Policy) (other : ∀ base arguments,
      shape = .generic base arguments → base.name ≠ name) :
    (policy.addingIterable name).writtenTypes shape = policy.writtenTypes shape :=
  writtenTypes_congr (isIterable_addingIterable other)

theorem resolve_addingAmbient (policy : Policy) (namespaces : List String) (shape : Shape) :
    (policy.addingAmbient namespaces).resolve shape = policy.resolve shape :=
  resolve_congr rfl fun _ _ _ => rfl

theorem needsImport_addingAmbient (policy : Policy) (namespaces : List String) (type : Identity) :
    (policy.addingAmbient namespaces).needsImport type =
      (policy.needsImport type && !namespaces.contains (type.namespaceName?.getD "")) := by
  simp only [needsImport, isAmbient, addingAmbient, List.contains_append]
  cases type.isPrimitive <;> cases type.isArray <;> simp

end Policy

/-- What a property has besides its type. -/
def Property.outline (property : Property) : String × List Identity :=
  (property.name, property.failures)

/-- The builder under another policy. -/
def Builder.under (builder : Builder) (policy : Policy) : Builder := { builder with policy }

namespace Builder

variable {builder : Builder} {policy : Policy} {accessor : Accessor}

theorem verdicts_under (resolve : ∀ shape, policy.resolve shape = builder.policy.resolve shape)
    (taken : List String) (accessors : List Accessor) :
    (builder.under policy).verdicts taken accessors = builder.verdicts taken accessors := by
  have judged (taken : List String) (accessor : Accessor) :
      (builder.under policy).verdict taken accessor = builder.verdict taken accessor := by
    unfold verdict
    rw [show (builder.under policy).policy = policy from rfl, resolve]
    rfl
  induction accessors generalizing taken with
  | nil => rfl
  | cons accessor rest ih => rw [verdicts, verdicts, judged, ih]

/-! ### Ambient namespaces -/

theorem verdicts_addingAmbient (builder : Builder) (namespaces taken : List String)
    (accessors : List Accessor) :
    (builder.under (builder.policy.addingAmbient namespaces)).verdicts taken accessors =
      builder.verdicts taken accessors :=
  verdicts_under (builder.policy.resolve_addingAmbient namespaces) taken accessors

theorem importsOf_addingAmbient (builder : Builder) (namespaces : List String)
    (accessors : List Accessor) :
    (builder.under (builder.policy.addingAmbient namespaces)).importsOf accessors =
      (builder.importsOf accessors).filter fun type =>
        !namespaces.contains (type.namespaceName?.getD "") := by
  have candidates : (builder.under (builder.policy.addingAmbient namespaces)).candidates =
      builder.candidates := rfl
  have needed : (builder.under (builder.policy.addingAmbient namespaces)).policy.needsImport =
      fun type => builder.policy.needsImport type &&
        !namespaces.contains (type.namespaceName?.getD "") :=
    funext (builder.policy.needsImport_addingAmbient namespaces)
  apply (importsOf_ascending _ accessors).eq_of_mem_iff
    ((builder.importsOf_ascending accessors).filter _)
  intro type
  rw [importsOf, importsOf, candidates, needed]
  simp only [mem_sortedBy, List.mem_filter, Bool.and_eq_true, and_assoc]

theorem propertiesOf_addingAmbient (builder : Builder) (namespaces : List String)
    (accessors : List Accessor) :
    (builder.under (builder.policy.addingAmbient namespaces)).propertiesOf accessors =
      builder.propertiesOf accessors := by
  rw [propertiesOf, propertiesOf, verdicts_addingAmbient]

theorem diagnosticsOf_addingAmbient (builder : Builder) (namespaces : List String)
    (accessors : List Accessor) :
    (builder.under (builder.policy.addingAmbient namespaces)).diagnosticsOf accessors =
      builder.diagnosticsOf accessors := by
  rw [diagnosticsOf, diagnosticsOf, verdicts_addingAmbient]
  rfl

/-! ### The fallback -/

theorem resolves_withFallback (builder : Builder) (fallback : Identity) (accessor : Accessor) :
    (builder.under (builder.policy.withFallback fallback)).resolves accessor =
      builder.resolves accessor := by
  rw [Bool.eq_iff_iff, resolves_iff_not_malforms, resolves_iff_not_malforms]
  exact Iff.rfl

theorem kept_withFallback (builder : Builder) (fallback : Identity) (accessors : List Accessor) :
    (builder.under (builder.policy.withFallback fallback)).kept accessors =
      builder.kept accessors := by
  rw [kept, kept, List.filter_congr fun accessor _ =>
    builder.resolves_withFallback fallback accessor]
  rfl

theorem importsOf_withFallback (builder : Builder) (fallback : Identity)
    (accessors : List Accessor) :
    (builder.under (builder.policy.withFallback fallback)).importsOf accessors =
      builder.importsOf accessors := rfl

/-- The errors are what the imports report, and these do not know of a fallback. -/
theorem errors_withFallback (builder : Builder) (fallback : Identity)
    (accessors : List Accessor) :
    ((builder.under (builder.policy.withFallback fallback)).diagnosticsOf accessors).filter
        Diagnostic.isError =
      (builder.diagnosticsOf accessors).filter Diagnostic.isError := by
  calc ((builder.under (builder.policy.withFallback fallback)).diagnosticsOf accessors).filter
          Diagnostic.isError
    _ = (builder.under (builder.policy.withFallback fallback)).importDiagnostics accessors :=
      filter_isError_verdicts _ [] accessors
    _ = builder.importDiagnostics accessors := rfl
    _ = (builder.diagnosticsOf accessors).filter Diagnostic.isError :=
      (builder.filter_isError_verdicts [] accessors).symm

/-- But for the types, properties are known without resolving anything. -/
theorem map_propertiesOf (builder : Builder) (accessors : List Accessor) :
    (builder.propertiesOf accessors).map Property.outline =
      sortedBy Prod.fst ((builder.kept accessors).map fun accessor =>
        (builder.propertyNameOf accessor, accessor.failures)) := by
  have keys (property : Property) : property.outline.1 = property.name := rfl
  rw [propertiesOf_eq, map_sortedBy _ keys, List.map_filterMap]
  refine congrArg _ (List.filterMap_eq_map_iff_forall_eq_some.mpr ?_)
  intro accessor isKept
  obtain ⟨-, resolves⟩ := List.mem_filter.mp (mem_of_mem_distinctBy isKept)
  obtain ⟨resolution, resolved⟩ := resolves_iff.mp resolves
  rw [property?_eq_some_iff.mpr ⟨resolution, resolved, rfl⟩]
  rfl

theorem outlines_withFallback (builder : Builder) (fallback : Identity)
    (accessors : List Accessor) :
    ((builder.under (builder.policy.withFallback fallback)).propertiesOf accessors).map
        Property.outline =
      (builder.propertiesOf accessors).map Property.outline := by
  rw [map_propertiesOf, map_propertiesOf, kept_withFallback]
  rfl

/-! ### Containers -/

section Containers

variable {name : String} (other : ∀ base arguments,
  accessor.returnType = .generic base arguments → base.name ≠ name)

include other

theorem candidates_addingIterable :
    (builder.under (builder.policy.addingIterable name)).candidates accessor =
      builder.candidates accessor := by
  unfold candidates
  rw [← builder.policy.writtenTypes_addingIterable other]
  rfl

theorem malformed?_addingIterable :
    (builder.under (builder.policy.addingIterable name)).malformed? accessor =
      builder.malformed? accessor := by
  unfold malformed?
  rw [← builder.policy.writtenTypes_addingIterable other]
  rfl

theorem collectImports_addingIterable :
    (builder.under (builder.policy.addingIterable name)).collectImports
        (.ofAccessors [accessor]) =
      builder.collectImports (.ofAccessors [accessor]) := by
  rw [collectImports_ofAccessors, collectImports_ofAccessors, importsOf, importsOf,
    List.flatMap_singleton, List.flatMap_singleton, candidates_addingIterable other,
    importDiagnostics, importDiagnostics, List.filterMap_cons, List.filterMap_cons,
    malformed?_addingIterable other]
  rfl

end Containers

/-- Each part of a policy has an effect of its own and no other. Further ambient namespaces
leave a build its properties, warnings and errors, and take the imports away that are in
them. Another fallback leaves it the imports and errors, and the properties all but their
types. Another container changes nothing for an accessor whose return type is not itself
of that container, wherever else in the type it stands. -/
theorem build_separates_policy (builder : Builder) (subject : Identity)
    (accessors : List Accessor) :
    ∃ built, (builder.build subject (.ofAccessors accessors)).outcome = .ok built ∧
      (∀ namespaces, ∃ other,
        ((builder.under (builder.policy.addingAmbient namespaces)).build subject
          (.ofAccessors accessors)).outcome = .ok other ∧
        other.description.properties = built.description.properties ∧
        other.warnings = built.warnings ∧ other.errors = built.errors ∧
        other.description.imports = built.description.imports.filter fun type =>
          !namespaces.contains (type.namespaceName?.getD "")) ∧
      (∀ fallback, ∃ other,
        ((builder.under (builder.policy.withFallback fallback)).build subject
          (.ofAccessors accessors)).outcome = .ok other ∧
        other.description.imports = built.description.imports ∧
        other.description.properties.map Property.outline =
          built.description.properties.map Property.outline ∧
        other.errors = built.errors) ∧
      ∀ name accessor, (∀ base arguments,
          accessor.returnType = .generic base arguments → base.name ≠ name) →
        (builder.policy.addingIterable name).resolve accessor.returnType =
          builder.policy.resolve accessor.returnType ∧
        (builder.under (builder.policy.addingIterable name)).candidates accessor =
          builder.candidates accessor ∧
        (builder.under (builder.policy.addingIterable name)).collectImports
            (.ofAccessors [accessor]) =
          builder.collectImports (.ofAccessors [accessor]) := by
  refine ⟨_, builder.build_ofAccessors subject accessors, ?_, ?_, ?_⟩
  · intro namespaces
    have reports := builder.diagnosticsOf_addingAmbient namespaces accessors
    exact ⟨_, build_ofAccessors _ subject accessors,
      builder.propertiesOf_addingAmbient namespaces accessors, congrArg (List.filter _) reports,
      congrArg (List.filter _) reports, builder.importsOf_addingAmbient namespaces accessors⟩
  · intro fallback
    exact ⟨_, build_ofAccessors _ subject accessors,
      builder.importsOf_withFallback fallback accessors,
      builder.outlines_withFallback fallback accessors,
      builder.errors_withFallback fallback accessors⟩
  · intro name accessor other
    exact ⟨Policy.resolve_addingIterable other, candidates_addingIterable other,
      collectImports_addingIterable other⟩

/-- A container that no policy lists, inside of one that is listed. -/
def parcels : Accessor :=
  ⟨"getParcels", .generic (.named "java.util.List")
    [.generic (.named "acme.Box") [.scalar (.named "acme.Gift")]], [.named "acme.Lost"], none⟩

theorem build_separates_policy_parcels :
    (∀ base arguments,
      parcels.returnType = .generic base arguments → base.name ≠ "acme.Box") ∧
    (Policy.standard.addingIterable "acme.Box").resolve parcels.returnType =
      Policy.standard.resolve parcels.returnType ∧
    (under {} (Policy.standard.addingIterable "acme.Box")).candidates parcels =
      [.named "acme.Box", .named "acme.Gift", .named "acme.Lost"] := by
  have other : ∀ base arguments,
      parcels.returnType = .generic base arguments → base.name ≠ "acme.Box" := by
    rintro base arguments ⟨⟩
    decide
  obtain ⟨built, -, -, -, containers⟩ := build_separates_policy {} (.named "acme.Ship") [parcels]
  obtain ⟨resolved, candidates, -⟩ := containers "acme.Box" parcels other
  exact ⟨other, resolved, candidates⟩

end Builder
end ClassProfile
