import ClassProfile.Proofs.Builder.Outcome
import Mathlib.Data.List.Basic

/-! What a build reports. Every accessor is accounted for once: it is reported as
malformed or as a duplicate, or its property is described, and then reported if it is
imprecise. The log tells of the same matters in the same order. The pass over the
imports meets the malformed accessors again and records nothing. -/
namespace ClassProfile

/-- The record is for more than debugging. -/
def Event.isNotable (event : Event) : Bool := event.level != .debug

namespace Diagnostic

/-- A property has an accessor already. -/
def isDuplicate : Diagnostic → Bool
  | malformed _ _ => false
  | duplicate _ _ => true
  | imprecise _ _ => false

/-- The record that goes with what is reported. -/
def record : Diagnostic → Event
  | malformed property fault => .skipped property fault
  | duplicate property accessor => .ignored accessor property
  | imprecise property fallback => .imprecise property fallback

/-- An accessor that is left out is worth a warning. -/
theorem level_record (diagnostic : Diagnostic) : diagnostic.record.level =
    if diagnostic.isError || diagnostic.isDuplicate then .warning else .info := by
  cases diagnostic <;> rfl

end Diagnostic

theorem Built.countP_isDuplicate_warnings (built : Built) :
    built.warnings.countP Diagnostic.isDuplicate =
      built.diagnostics.countP Diagnostic.isDuplicate := by
  rw [warnings, List.countP_filter]
  -- A duplicate is never an error, so no duplicate is lost among the warnings.
  congr 1
  funext diagnostic
  cases diagnostic <;> rfl

theorem Policy.filter_fallbackEvents (policy : Policy) (failures : List Shape.Irreducible) :
    (policy.fallbackEvents failures).filter Event.isNotable = [] := by
  rw [List.filter_eq_nil_iff]
  intro event member
  obtain ⟨failure, -, rfl⟩ := List.mem_map.mp member
  exact Bool.false_ne_true

theorem Verdict.filter_log (policy : Policy) (verdict : Verdict) :
    (verdict.log policy).filter Event.isNotable =
      ((verdict.diagnostic? policy).map Diagnostic.record).toList := by
  cases verdict with
  | malformed property fault => rfl
  -- The parts replaced by the fallback are recorded for debugging only, here and below.
  | duplicate property accessor failures =>
    rw [log, List.filter_append, Policy.filter_fallbackEvents]
    rfl
  | described property failures =>
    rw [log, List.filter_append, Policy.filter_fallbackEvents, diagnostic?]
    split <;> rfl
  | rejected fault => rfl

/-- A verdict describes a property, reports an error or reports a duplicate, and only
one of these. -/
theorem Verdict.accounted (policy : Policy) {verdict : Verdict}
    (admitted : verdict.fault? = none) :
    verdict.property?.toList.length +
      (verdict.diagnostic? policy).toList.countP Diagnostic.isError +
      (verdict.diagnostic? policy).toList.countP Diagnostic.isDuplicate = 1 := by
  cases verdict with
  | malformed property fault => rfl
  | duplicate property accessor failures => rfl
  | described property failures =>
    rw [diagnostic?]
    split <;> rfl
  | rejected fault => contradiction

theorem Verdict.length_accounted (policy : Policy) {verdicts : List Verdict}
    (admitted : verdicts.findSome? Verdict.fault? = none) :
    (verdicts.filterMap Verdict.property?).length +
        (verdicts.filterMap (Verdict.diagnostic? policy)).countP Diagnostic.isError +
        (verdicts.filterMap (Verdict.diagnostic? policy)).countP Diagnostic.isDuplicate =
      verdicts.length := by
  rw [List.filterMap_eq_flatMap_toList, List.filterMap_eq_flatMap_toList]
  induction verdicts with
  | nil => rfl
  | cons verdict rest ih =>
    rw [List.findSome?_eq_none_iff, List.forall_mem_cons] at admitted
    have first := Verdict.accounted policy admitted.1
    have later := ih (List.findSome?_eq_none_iff.mpr admitted.2)
    simp only [List.flatMap_cons, List.length_append, List.countP_append, List.length_cons]
    omega

namespace Builder

/-- What is reported of an accessor with these before it. -/
inductive Reports (builder : Builder) (before : List Accessor) (accessor : Accessor) :
    List Diagnostic → Prop where
  | malformed (failed : builder.policy.resolve accessor.returnType = .error (.malformed fault)) :
      Reports builder before accessor [.malformed (builder.propertyNameOf accessor) fault]
  | duplicate (resolved : builder.policy.resolve accessor.returnType = .ok resolution)
      (known : ∃ earlier ∈ before, builder.yields (builder.propertyNameOf accessor) earlier) :
      Reports builder before accessor
        [.duplicate (builder.propertyNameOf accessor) accessor.name]
  | imprecise (resolved : builder.policy.resolve accessor.returnType = .ok resolution)
      (new : ¬∃ earlier ∈ before, builder.yields (builder.propertyNameOf accessor) earlier)
      (vague : resolution.type.isOpaque = true) :
      Reports builder before accessor
        [.imprecise (builder.propertyNameOf accessor) builder.policy.fallback.name]
  | precise (resolved : builder.policy.resolve accessor.returnType = .ok resolution)
      (new : ¬∃ earlier ∈ before, builder.yields (builder.propertyNameOf accessor) earlier)
      (clear : resolution.type.isOpaque = false) : Reports builder before accessor []

/-- What is reported of one accessor after another, when some come before them all. -/
inductive Accounts (builder : Builder) :
    List Accessor → List Accessor → List Diagnostic → Prop where
  | nil : Accounts builder before [] []
  | cons (first : builder.Reports before accessor found)
      (rest : Accounts builder (before ++ [accessor]) later reports) :
      Accounts builder before (accessor :: later) (found ++ reports)

/-- The names taken are those of the properties that these accessors yield. -/
def Tracks (builder : Builder) (before : List Accessor) (taken : List String) : Prop :=
  ∀ name, name ∈ taken ↔ ∃ earlier ∈ before, builder.yields name earlier

variable {builder : Builder} {before accessors : List Accessor} {accessor : Accessor}
  {taken : List String}

theorem Tracks.nil : builder.Tracks [] [] := by simp [Tracks]

theorem Tracks.step (tracks : builder.Tracks before taken) (accessor : Accessor) :
    builder.Tracks (before ++ [accessor])
      ((builder.verdict taken accessor).claimed ++ taken) := by
  intro name
  have grown : (∃ earlier ∈ before ++ [accessor], builder.yields name earlier) ↔
      name ∈ taken ∨ builder.yields name accessor := by
    rw [tracks name]
    simp only [List.mem_append, List.mem_singleton, or_and_right, exists_or, exists_eq_left]
  rw [grown, List.mem_append, or_comm, yields_iff]
  -- A name is claimed by the first accessor that yields it; a later one finds it taken.
  obtain ⟨fault, failed, same⟩ | ⟨resolution, resolved, ⟨known, same⟩ | ⟨new, same⟩⟩ :=
    builder.verdict_cases taken accessor
  · rw [same, resolves_of_malformed failed]
    simp [Verdict.claimed, Verdict.property?]
  · rw [same, resolves_iff.mpr ⟨resolution, resolved⟩]
    simp only [Verdict.claimed, Verdict.property?, Option.map_none, Option.toList_none,
      List.not_mem_nil, or_false, true_and]
    constructor
    · exact .inl
    · rintro (taken | rfl)
      · exact taken
      · exact known
  · rw [same, resolves_iff.mpr ⟨resolution, resolved⟩]
    simp [Verdict.claimed, Verdict.property?, eq_comm]

theorem reports_iff (tracks : builder.Tracks before taken) {found : List Diagnostic} :
    builder.Reports before accessor found ↔
      found = ((builder.verdict taken accessor).diagnostic? builder.policy).toList := by
  constructor
  · intro reports
    cases reports with
    | malformed failed =>
      rw [verdict_of_malformed taken failed]
      rfl
    | duplicate resolved known =>
      rw [verdict_of_known resolved ((tracks _).mpr known)]
      rfl
    | imprecise resolved new vague =>
      rw [verdict_of_new resolved (mt (tracks _).mp new), Verdict.diagnostic?, if_pos vague]
      rfl
    | precise resolved new clear =>
      rw [verdict_of_new resolved (mt (tracks _).mp new), Verdict.diagnostic?,
        if_neg (Bool.eq_false_iff.mp clear)]
      rfl
  · rintro rfl
    obtain ⟨fault, failed, same⟩ | ⟨resolution, resolved, ⟨known, same⟩ | ⟨new, same⟩⟩ :=
      builder.verdict_cases taken accessor
    · rw [same]
      exact .malformed failed
    · rw [same]
      exact .duplicate resolved ((tracks _).mp known)
    · have unyielded := mt (tracks _).mpr new
      rw [same, Verdict.diagnostic?]
      cases vague : resolution.type.isOpaque with
      | true => exact .imprecise resolved unyielded vague
      | false => exact .precise resolved unyielded vague

/-- The reports on a list of accessors are those of its verdicts, and no others. -/
theorem accounts_iff (tracks : builder.Tracks before taken) {reports : List Diagnostic} :
    builder.Accounts before accessors reports ↔ reports =
      (builder.verdicts taken accessors).filterMap (Verdict.diagnostic? builder.policy) := by
  -- The relation goes by the accessors before, the verdicts by the names taken. What is
  -- carried along is that the one keeps track of the other.
  induction accessors generalizing before taken reports with
  | nil =>
    constructor
    · rintro ⟨⟩
      rfl
    · rintro rfl
      exact .nil
  | cons accessor rest ih =>
    have step := tracks.step accessor
    rw [verdicts, List.filterMap_eq_flatMap_toList, List.flatMap_cons,
      ← List.filterMap_eq_flatMap_toList]
    constructor
    · rintro (_ | ⟨first, later⟩)
      rw [(reports_iff tracks).mp first, (ih step).mp later]
    · rintro rfl
      exact .cons ((reports_iff tracks).mpr rfl) ((ih step).mpr rfl)

theorem length_verdicts (builder : Builder) (taken : List String) (accessors : List Accessor) :
    (builder.verdicts taken accessors).length = accessors.length := by
  induction accessors generalizing taken with
  | nil => rfl
  | cons accessor rest ih => rw [verdicts, List.length_cons, ih, List.length_cons]

theorem accounts_diagnosticsOf {reports : List Diagnostic} :
    builder.Accounts [] accessors reports ↔ reports = builder.diagnosticsOf accessors :=
  accounts_iff Tracks.nil

/-- The notable records of the properties are those that go with the reports. -/
theorem filter_logOf (builder : Builder) (accessors : List Accessor) :
    (builder.logOf accessors).filter Event.isNotable =
      (builder.diagnosticsOf accessors).map Diagnostic.record := by
  rw [logOf, diagnosticsOf, List.filter_flatMap, List.map_filterMap,
    List.filterMap_eq_flatMap_toList]
  simp only [Verdict.filter_log]

theorem length_propertiesOf (builder : Builder) (accessors : List Accessor) :
    (builder.propertiesOf accessors).length +
      (builder.diagnosticsOf accessors).countP Diagnostic.isError +
      (builder.diagnosticsOf accessors).countP Diagnostic.isDuplicate = accessors.length := by
  rw [propertiesOf, (sortedBy_perm _ _).length_eq, diagnosticsOf, Verdict.length_accounted,
    length_verdicts]
  exact findSome?_fault?_verdicts builder [] accessors

/-- Every accessor is accounted for. The diagnostics of a build are those of the properties
and are what is reported of one accessor after another. Together with the properties, the
errors and the duplicates come to as many as there are accessors. What is recorded above
debugging goes with the diagnostics, one for one and in order, and comes of the properties
alone. -/
theorem build_accounts (builder : Builder) (subject : Identity) (accessors : List Accessor) :
    ∃ built, (builder.build subject (.ofAccessors accessors)).outcome = .ok built ∧
      (∃ described,
        (builder.describeProperties (.ofAccessors accessors)).outcome = .ok described ∧
          described.diagnostics = built.diagnostics) ∧
      (∀ reports, builder.Accounts [] accessors reports ↔ reports = built.diagnostics) ∧
      built.warnings = built.diagnostics.filter (fun diagnostic => !diagnostic.isError) ∧
      built.errors = built.diagnostics.filter Diagnostic.isError ∧
      built.description.properties.length + built.errors.length +
        built.warnings.countP Diagnostic.isDuplicate = accessors.length ∧
      (builder.build subject (.ofAccessors accessors)).log.filter Event.isNotable =
        built.diagnostics.map Diagnostic.record ∧
      (∀ diagnostic : Diagnostic, diagnostic.record.level =
        if diagnostic.isError || diagnostic.isDuplicate then .warning else .info) ∧
      (builder.collectImports (.ofAccessors accessors)).log = [] := by
  refine ⟨_, builder.build_ofAccessors subject accessors,
    ⟨⟨builder.propertiesOf accessors, builder.diagnosticsOf accessors⟩, ?_, rfl⟩,
    fun _ => accounts_diagnosticsOf, rfl, rfl, ?_, ?_,
    Diagnostic.level_record, ?_⟩
  · rw [describeProperties_ofAccessors]
  · rw [Built.countP_isDuplicate_warnings, Built.errors, ← List.countP_eq_length_filter]
    exact builder.length_propertiesOf accessors
  · rw [log_build_ofAccessors, List.filter_append, filter_logOf]
    exact List.append_nil _
  · rw [collectImports_ofAccessors]

end Builder
end ClassProfile
