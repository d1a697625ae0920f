import ClassProfile.Proofs.Builder.Outcome

/-! Malformed accessors next to all others. Both passes find the same ones and report them
alike. To the rest of a build they are as good as absent: they bring in no types, no
failures and no name. -/
namespace ClassProfile

def Verdict.isMalformed : Verdict → Bool
  | malformed _ _ => true
  | _ => false

theorem Verdict.filterMap_property?_filter (verdicts : List Verdict) :
    (verdicts.filter fun verdict => !verdict.isMalformed).filterMap property? =
      verdicts.filterMap property? := by
  rw [List.filterMap_filter]
  congr 1
  funext verdict
  cases verdict <;> rfl

theorem Verdict.filterMap_diagnostic?_filter (policy : Policy) (verdicts : List Verdict) :
    (verdicts.filter fun verdict => !verdict.isMalformed).filterMap (diagnostic? policy) =
      (verdicts.filterMap (diagnostic? policy)).filter fun diagnostic => !diagnostic.isError := by
  rw [List.filterMap_filter, List.filter_filterMap]
  congr 1
  funext verdict
  cases verdict with
  | malformed property fault => rfl
  | duplicate property accessor failures => rfl
  | described property failures =>
    change diagnostic? policy (described property failures) = _
    rw [diagnostic?]
    split <;> rfl
  | rejected fault => rfl

namespace Builder

/-- The accessors without the malformed ones. -/
def wellFormed (builder : Builder) (accessors : List Accessor) : List Accessor :=
  accessors.filter fun accessor => ¬builder.policy.Malforms accessor.returnType

variable {builder : Builder} {accessors rest : List Accessor} {accessor : Accessor}

theorem wellFormed_eq (builder : Builder) (accessors : List Accessor) :
    builder.wellFormed accessors = accessors.filter builder.resolves := by
  apply List.filter_congr
  intro accessor _
  rw [Bool.eq_iff_iff, decide_eq_true_eq, resolves_iff_not_malforms]

theorem kept_eq (builder : Builder) (accessors : List Accessor) :
    builder.kept accessors =
      distinctBy builder.propertyNameOf (builder.wellFormed accessors) := by
  rw [kept, wellFormed_eq]

theorem wellFormed_cons_of_resolves (resolves : builder.resolves accessor = true) :
    builder.wellFormed (accessor :: rest) = accessor :: builder.wellFormed rest := by
  rw [wellFormed_eq, wellFormed_eq, List.filter_cons_of_pos resolves]

theorem wellFormed_cons_of_malformed (malformed : builder.resolves accessor = false) :
    builder.wellFormed (accessor :: rest) = builder.wellFormed rest := by
  rw [wellFormed_eq, wellFormed_eq, List.filter_cons_of_neg (Bool.eq_false_iff.mp malformed)]

/-- A malformed accessor claims no name, so the others are judged as without it. -/
theorem verdicts_wellFormed (builder : Builder) (taken : List String)
    (accessors : List Accessor) :
    builder.verdicts taken (builder.wellFormed accessors) =
      (builder.verdicts taken accessors).filter fun verdict => !verdict.isMalformed := by
  induction accessors generalizing taken with
  | nil => rfl
  | cons accessor rest ih =>
    rw [verdicts]
    obtain ⟨fault, failed, same⟩ | ⟨resolution, resolved, judged⟩ :=
      builder.verdict_cases taken accessor
    · rw [wellFormed_cons_of_malformed (resolves_of_malformed failed), same]
      exact ih taken
    · have passed : (builder.verdict taken accessor).isMalformed = false := by
        obtain ⟨-, same⟩ | ⟨-, same⟩ := judged
        all_goals
          rw [same]
          rfl
      rw [wellFormed_cons_of_resolves (resolves_iff.mpr ⟨resolution, resolved⟩), verdicts, ih]
      exact (List.filter_cons_of_pos (by rw [passed]; rfl)).symm

theorem propertiesOf_wellFormed (builder : Builder) (accessors : List Accessor) :
    builder.propertiesOf (builder.wellFormed accessors) = builder.propertiesOf accessors := by
  rw [propertiesOf, propertiesOf, verdicts_wellFormed, Verdict.filterMap_property?_filter]

theorem diagnosticsOf_wellFormed (builder : Builder) (accessors : List Accessor) :
    builder.diagnosticsOf (builder.wellFormed accessors) =
      (builder.diagnosticsOf accessors).filter fun diagnostic => !diagnostic.isError := by
  rw [diagnosticsOf, diagnosticsOf, verdicts_wellFormed, Verdict.filterMap_diagnostic?_filter]

theorem candidates_of_malforms (malforms : builder.policy.Malforms accessor.returnType) :
    builder.candidates accessor = [] := by
  rw [List.eq_nil_iff_forall_not_mem]
  intro type candidate
  exact (mem_candidates_iff.mp candidate).1 malforms

theorem flatMap_candidates_wellFormed (builder : Builder) (accessors : List Accessor) :
    (builder.wellFormed accessors).flatMap builder.candidates =
      accessors.flatMap builder.candidates := by
  induction accessors with
  | nil => rfl
  | cons accessor rest ih =>
    rw [List.flatMap_cons, ← ih]
    by_cases malforms : builder.policy.Malforms accessor.returnType
    · have malformed : builder.resolves accessor = false := by
        rw [Bool.eq_false_iff]
        exact fun resolves => resolves_iff_not_malforms.mp resolves malforms
      rw [wellFormed_cons_of_malformed malformed, candidates_of_malforms malforms, List.nil_append]
    · rw [wellFormed_cons_of_resolves (resolves_iff_not_malforms.mpr malforms), List.flatMap_cons]

theorem importsOf_wellFormed (builder : Builder) (accessors : List Accessor) :
    builder.importsOf (builder.wellFormed accessors) = builder.importsOf accessors := by
  rw [importsOf, importsOf, flatMap_candidates_wellFormed]

/-- The one pass finds an accessor malformed where the other reports an error. -/
theorem filter_diagnostic?_verdict (builder : Builder) (taken : List String)
    (accessor : Accessor) :
    ((builder.verdict taken accessor).diagnostic? builder.policy).filter Diagnostic.isError =
      builder.malformed? accessor := by
  rw [malformed?, Policy.writtenTypes_eq]
  obtain ⟨fault, failed, same⟩ | ⟨resolution, resolved, judged⟩ :=
    builder.verdict_cases taken accessor
  · rw [same, Policy.part_of_malformed failed]
    rfl
  · obtain ⟨part, found, -⟩ := Policy.settles_of_resolve resolved
    rw [found]
    obtain ⟨-, same⟩ | ⟨-, same⟩ := judged
    · rw [same]
      rfl
    · rw [same, Verdict.diagnostic?]
      split <;> rfl

theorem filter_isError_verdicts (builder : Builder) (taken : List String)
    (accessors : List Accessor) :
    ((builder.verdicts taken accessors).filterMap (Verdict.diagnostic? builder.policy)).filter
      Diagnostic.isError = builder.importDiagnostics accessors := by
  rw [List.filter_filterMap, importDiagnostics]
  induction accessors generalizing taken with
  | nil => rfl
  | cons accessor rest ih =>
    rw [verdicts, List.filterMap_cons, List.filterMap_cons, ih, filter_diagnostic?_verdict]

/-- Both passes report the same malformed accessors, in the same words and order. A build
without these accessors has the same description, down to the identity that stands for
each imported name, and the same warnings; nothing but the errors is gone. -/
theorem build_isolates_malformed (builder : Builder) (subject : Identity)
    (accessors : List Accessor) :
    ∃ described collected whole reduced,
      (builder.describeProperties (.ofAccessors accessors)).outcome = .ok described ∧
      (builder.collectImports (.ofAccessors accessors)).outcome = .ok collected ∧
      collected.diagnostics = described.diagnostics.filter Diagnostic.isError ∧
      (builder.build subject (.ofAccessors accessors)).outcome = .ok whole ∧
      (builder.build subject (.ofAccessors (builder.wellFormed accessors))).outcome =
        .ok reduced ∧
      reduced.description = whole.description ∧
      reduced.warnings = whole.warnings ∧
      whole.errors = collected.diagnostics ∧
      reduced.errors = [] := by
  refine ⟨⟨builder.propertiesOf accessors, builder.diagnosticsOf accessors⟩,
    ⟨builder.importsOf accessors, builder.importDiagnostics accessors⟩, _, _, ?_, ?_, ?_,
    builder.build_ofAccessors subject accessors,
    builder.build_ofAccessors subject (builder.wellFormed accessors), ?_, ?_, ?_, ?_⟩
  · rw [describeProperties_ofAccessors]
  · rw [collectImports_ofAccessors]
  · exact (builder.filter_isError_verdicts [] accessors).symm
  · rw [propertiesOf_wellFormed, importsOf_wellFormed]
  · rw [Built.warnings, Built.warnings, diagnosticsOf_wellFormed, List.filter_filter]
    simp only [Bool.and_self]
  · exact builder.filter_isError_verdicts [] accessors
  · rw [Built.errors, diagnosticsOf_wellFormed, List.filter_eq_nil_iff]
    intro diagnostic member
    have warning := (List.mem_filter.mp member).2
    simpa using warning

end Builder
end ClassProfile
