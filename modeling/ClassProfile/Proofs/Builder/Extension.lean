import ClassProfile.Proofs.Builder.Outcome

/-! Accessors that are scanned after others. Neither pass goes back on what it has found:
later accessors add properties of new names, reports at the end and imports, and change
none of those before. An import keeps the very identity that stands for its name, even
if a later accessor brings in another one of that name. -/
namespace ClassProfile
namespace Builder

variable {builder : Builder} {scanned further : List Accessor}

/-! ### Properties -/

theorem verdicts_append (builder : Builder) (taken : List String)
    (scanned further : List Accessor) :
    ∃ known, builder.verdicts taken (scanned ++ further) =
      builder.verdicts taken scanned ++ builder.verdicts known further := by
  induction scanned generalizing taken with
  | nil => exact ⟨taken, rfl⟩
  | cons accessor rest ih =>
    obtain ⟨known, split⟩ := ih ((builder.verdict taken accessor).claimed ++ taken)
    refine ⟨known, ?_⟩
    rw [List.cons_append, verdicts, verdicts, split, List.cons_append]

theorem diagnosticsOf_append (builder : Builder) (scanned further : List Accessor) :
    builder.diagnosticsOf scanned <+: builder.diagnosticsOf (scanned ++ further) := by
  obtain ⟨known, split⟩ := builder.verdicts_append [] scanned further
  rw [diagnosticsOf, diagnosticsOf, split, List.filterMap_append]
  exact List.prefix_append _ _

/-- The names of the properties that the accessors yield. -/
def yielded (builder : Builder) (accessors : List Accessor) : List String :=
  (accessors.filter builder.resolves).map builder.propertyNameOf

theorem mem_yielded_iff {name : String} : name ∈ builder.yielded scanned ↔
    name ∈ (builder.propertiesOf scanned).map Property.name := by
  rw [List.mem_map, exists_mem_propertiesOf_iff, yielded]
  simp only [yields_iff, List.mem_map, List.mem_filter, and_assoc]

theorem kept_append (builder : Builder) (scanned further : List Accessor) :
    builder.kept (scanned ++ further) = builder.kept scanned ++
      (builder.kept further).filter (builder.untaken (builder.yielded scanned)) := by
  rw [kept, List.filter_append, distinctBy_append, kept, kept]
  refine congrArg _ (List.filter_congr ?_)
  intro accessor _
  rw [untaken, Bool.eq_iff_iff]
  simp [yielded]

theorem filterMap_property?_untaken (builder : Builder) (accessors scanned : List Accessor) :
    (accessors.filter (builder.untaken (builder.yielded scanned))).filterMap builder.property? =
      (accessors.filterMap builder.property?).filter fun property =>
        property.name ∉ (builder.propertiesOf scanned).map Property.name := by
  rw [List.filterMap_filter, List.filter_filterMap]
  congr 1
  funext accessor
  cases described : builder.property? accessor with
  | none => simp
  | some property =>
    have named := (property?_eq_some_iff.mp described).name
    simp [← mem_yielded_iff, untaken, named, Option.filter]

/-- The properties that are added are those of the later accessors with names that no
earlier one yields. -/
theorem propertiesOf_append (builder : Builder) (scanned further : List Accessor) :
    (builder.propertiesOf (scanned ++ further)).Perm
      (builder.propertiesOf scanned ++ (builder.propertiesOf further).filter fun property =>
        property.name ∉ (builder.propertiesOf scanned).map Property.name) := by
  have sorted (accessors : List Accessor) : (builder.propertiesOf accessors).Perm
      ((builder.kept accessors).filterMap builder.property?) := by
    rw [propertiesOf_eq]
    exact sortedBy_perm _ _
  refine (sorted _).trans ?_
  rw [kept_append, List.filterMap_append, filterMap_property?_untaken]
  exact ((sorted scanned).append ((sorted further).filter _)).symm

/-! ### Imports -/

theorem importsOf_append (builder : Builder) (scanned further : List Accessor) :
    builder.importsOf scanned ⊆ builder.importsOf (scanned ++ further) := by
  intro type imported
  rw [importsOf, mem_sortedBy, List.mem_filter] at imported ⊢
  obtain ⟨first, needed⟩ := imported
  rw [List.flatMap_append, distinctBy_append]
  exact ⟨List.mem_append_left _ first, needed⟩

/-- Accessors scanned after others disturb nothing. Every property stays as it is, and the
ones that are added are those of the later accessors alone that have new names. The
earlier reports come first. Every import stays, as the same identity, and the reports of
the imports follow one another. -/
theorem scanning_further_keeps (builder : Builder) (scanned further : List Accessor) :
    ∃ first second whole firstImports secondImports wholeImports,
      (builder.describeProperties (.ofAccessors scanned)).outcome = .ok first ∧
      (builder.describeProperties (.ofAccessors further)).outcome = .ok second ∧
      (builder.describeProperties (.ofAccessors (scanned ++ further))).outcome = .ok whole ∧
      (builder.collectImports (.ofAccessors scanned)).outcome = .ok firstImports ∧
      (builder.collectImports (.ofAccessors further)).outcome = .ok secondImports ∧
      (builder.collectImports (.ofAccessors (scanned ++ further))).outcome = .ok wholeImports ∧
      first.properties ⊆ whole.properties ∧
      whole.properties.Perm (first.properties ++ second.properties.filter fun property =>
        property.name ∉ first.properties.map Property.name) ∧
      first.diagnostics <+: whole.diagnostics ∧
      firstImports.imports ⊆ wholeImports.imports ∧
      wholeImports.diagnostics = firstImports.diagnostics ++ secondImports.diagnostics := by
  have added := builder.propertiesOf_append scanned further
  simp only [describeProperties_ofAccessors, collectImports_ofAccessors]
  refine ⟨_, _, _, _, _, _, rfl, rfl, rfl, rfl, rfl, rfl, ?_, added,
    builder.diagnosticsOf_append scanned further, builder.importsOf_append scanned further,
    List.filterMap_append⟩
  intro property described
  exact added.mem_iff.mpr (List.mem_append_left _ described)

end Builder
end ClassProfile
