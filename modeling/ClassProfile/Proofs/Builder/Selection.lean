import ClassProfile.Builder.Build
import ClassProfile.Proofs.Builder.Supplied
import ClassProfile.Proofs.Keyed
import ClassProfile.Proofs.Resolution

/-! Which accessors are described. Of the accessors that yield a property of some name
the first is kept. A malformed accessor yields none, so it takes no name from those
after it. The properties are those of the accessors kept, in the order of their names. -/
namespace ClassProfile
namespace Builder

/-- The property is what the accessor is described as: its resolved type and its
failures as they are declared. -/
def Describes (builder : Builder) (accessor : Accessor) (property : Property) : Prop :=
  ∃ resolution, builder.policy.resolve accessor.returnType = .ok resolution ∧
    property = ⟨builder.propertyNameOf accessor, resolution.type, accessor.failures⟩

def resolves (builder : Builder) (accessor : Accessor) : Bool :=
  (builder.policy.resolve accessor.returnType).isOk

/-- The accessor is well-formed, and its property has the name. -/
def yields (builder : Builder) (name : String) (accessor : Accessor) : Bool :=
  builder.resolves accessor && builder.propertyNameOf accessor == name

/-- The accessors without the malformed ones and without those whose property an
earlier one yields. -/
def kept (builder : Builder) (accessors : List Accessor) : List Accessor :=
  distinctBy builder.propertyNameOf (accessors.filter builder.resolves)

/-- The property that an accessor yields. -/
def property? (builder : Builder) (accessor : Accessor) : Option Property :=
  match builder.policy.resolve accessor.returnType with
  | .ok resolution =>
    some ⟨builder.propertyNameOf accessor, resolution.type, accessor.failures⟩
  | .error _ => none

variable {builder : Builder} {accessors after rest : List Accessor}
  {accessor : Accessor} {taken : List String} {property : Property}
  {resolution : Resolution} {fault : Malformed}

theorem Describes.name (describes : builder.Describes accessor property) :
    property.name = builder.propertyNameOf accessor := by
  obtain ⟨resolution, -, rfl⟩ := describes
  rfl

theorem property?_eq_some_iff :
    builder.property? accessor = some property ↔ builder.Describes accessor property := by
  unfold property? Describes
  cases builder.policy.resolve accessor.returnType with
  | error fault => simp
  | ok resolution => simp [eq_comm]

theorem resolves_iff : builder.resolves accessor = true ↔
    ∃ resolution, builder.policy.resolve accessor.returnType = .ok resolution := by
  unfold resolves
  cases builder.policy.resolve accessor.returnType with
  | error fault => simp [Except.isOk, Except.toBool]
  | ok resolution => simp [Except.isOk, Except.toBool]

theorem resolves_of_malformed
    (failed : builder.policy.resolve accessor.returnType = .error (.malformed fault)) :
    builder.resolves accessor = false := by
  rw [resolves, failed]
  rfl

theorem resolves_iff_not_malforms : builder.resolves accessor = true ↔
    ¬builder.policy.Malforms accessor.returnType := by
  rw [resolves_iff, Policy.not_malforms_iff]
  constructor
  · rintro ⟨resolution, resolved⟩
    obtain ⟨part, found, -⟩ := Policy.settles_of_resolve resolved
    exact ⟨part, found⟩
  · rintro ⟨part, found⟩
    obtain ⟨resolution, resolved, -⟩ := Policy.resolve_of_part found
    exact ⟨resolution, resolved⟩

theorem yields_iff {name : String} : builder.yields name accessor = true ↔
    builder.resolves accessor = true ∧ builder.propertyNameOf accessor = name := by
  rw [yields, Bool.and_eq_true, beq_iff_eq]

/-! ### What is kept -/

theorem mem_kept_iff : accessor ∈ builder.kept accessors ↔
    accessors.find? (builder.yields (builder.propertyNameOf accessor)) = some accessor := by
  rw [kept, mem_distinctBy_iff, List.find?_filter]
  simp only [Bool.decide_and, Bool.decide_eq_true]
  rfl

theorem mem_of_mem_kept (isKept : accessor ∈ builder.kept accessors) : accessor ∈ accessors :=
  (List.mem_filter.mp (mem_of_mem_distinctBy isKept)).1

theorem kept_append_malformed (before : List Accessor)
    (malformed : builder.resolves accessor = false) :
    builder.kept (before ++ accessor :: after) = builder.kept (before ++ after) := by
  rw [kept, kept, List.filter_append, List.filter_append,
    List.filter_cons_of_neg (by simp [malformed])]

theorem kept_cons_of_resolves (resolves : builder.resolves accessor = true) :
    builder.kept (accessor :: rest) = accessor :: (builder.kept rest).filter fun later =>
      builder.propertyNameOf later != builder.propertyNameOf accessor := by
  rw [kept, List.filter_cons_of_pos resolves, distinctBy, kept]

theorem kept_kept (builder : Builder) (accessors : List Accessor) :
    builder.kept (builder.kept accessors) = builder.kept accessors := by
  have resolving : (builder.kept accessors).filter builder.resolves = builder.kept accessors := by
    apply List.filter_eq_self.mpr
    intro accessor isKept
    exact (List.mem_filter.mp (mem_of_mem_distinctBy isKept)).2
  rw [kept, resolving]
  exact distinctBy_of_nodup (distinctBy_nodup _ _)

theorem kept_properties_nodup (builder : Builder) (accessors : List Accessor) :
    (((builder.kept accessors).filterMap builder.property?).map Property.name).Nodup := by
  have distinct := distinctBy_nodup builder.propertyNameOf (accessors.filter builder.resolves)
  rw [List.Nodup, List.pairwise_map] at distinct ⊢
  rw [List.pairwise_filterMap]
  refine distinct.imp ?_
  intro first second different property described other otherDescribed
  rw [(property?_eq_some_iff.mp described).name, (property?_eq_some_iff.mp otherDescribed).name]
  exact different

/-! ### Verdicts -/

theorem verdict_of_malformed (taken : List String)
    (failed : builder.policy.resolve accessor.returnType = .error (.malformed fault)) :
    builder.verdict taken accessor = .malformed (builder.propertyNameOf accessor) fault := by
  simp only [verdict, failed]

theorem verdict_of_known
    (resolved : builder.policy.resolve accessor.returnType = .ok resolution)
    (known : builder.propertyNameOf accessor ∈ taken) : builder.verdict taken accessor =
      .duplicate (builder.propertyNameOf accessor) accessor.name resolution.failures := by
  simp only [verdict, resolved, List.contains_iff_mem.mpr known, if_true]

theorem verdict_of_new
    (resolved : builder.policy.resolve accessor.returnType = .ok resolution)
    (new : builder.propertyNameOf accessor ∉ taken) : builder.verdict taken accessor =
      .described ⟨builder.propertyNameOf accessor, resolution.type, accessor.failures⟩
        resolution.failures := by
  have untaken : ¬taken.contains (builder.propertyNameOf accessor) = true :=
    fun contains => new (List.contains_iff_mem.mp contains)
  simp only [verdict, resolved, if_neg untaken]

/-- A malformed accessor is reported, one with a name that is taken is dropped, and any
other is described; none is rejected. -/
theorem verdict_cases (builder : Builder) (taken : List String) (accessor : Accessor) :
    (∃ fault, builder.policy.resolve accessor.returnType = .error (.malformed fault) ∧
      builder.verdict taken accessor = .malformed (builder.propertyNameOf accessor) fault) ∨
    ∃ resolution, builder.policy.resolve accessor.returnType = .ok resolution ∧
      (builder.propertyNameOf accessor ∈ taken ∧ builder.verdict taken accessor =
          .duplicate (builder.propertyNameOf accessor) accessor.name resolution.failures ∨
        builder.propertyNameOf accessor ∉ taken ∧ builder.verdict taken accessor =
          .described ⟨builder.propertyNameOf accessor, resolution.type, accessor.failures⟩
            resolution.failures) := by
  cases found : builder.policy.part accessor.returnType with
  | error fault =>
    have failed := Policy.resolve_of_malformed found
    exact .inl ⟨fault, failed, verdict_of_malformed taken failed⟩
  | ok part =>
    obtain ⟨resolution, resolved, -⟩ := Policy.resolve_of_part found
    refine .inr ⟨resolution, resolved, ?_⟩
    by_cases known : builder.propertyNameOf accessor ∈ taken
    · exact .inl ⟨known, verdict_of_known resolved known⟩
    · exact .inr ⟨known, verdict_of_new resolved known⟩

theorem fault?_verdict (builder : Builder) (taken : List String) (accessor : Accessor) :
    (builder.verdict taken accessor).fault? = none := by
  obtain ⟨fault, -, same⟩ | ⟨resolution, -, ⟨-, same⟩ | ⟨-, same⟩⟩ :=
    builder.verdict_cases taken accessor
  all_goals
    rw [same]
    rfl

theorem findSome?_fault?_verdicts (builder : Builder) (taken : List String)
    (accessors : List Accessor) :
    (builder.verdicts taken accessors).findSome? Verdict.fault? = none := by
  induction accessors generalizing taken with
  | nil => rfl
  | cons accessor rest ih => rw [verdicts, List.findSome?_cons, fault?_verdict, ih]

/-- The property name of the accessor is not among those taken. -/
def untaken (builder : Builder) (taken : List String) (accessor : Accessor) : Bool :=
  !taken.contains (builder.propertyNameOf accessor)

theorem filter_kept_cons_of_known (resolves : builder.resolves accessor = true)
    (known : builder.propertyNameOf accessor ∈ taken) :
    (builder.kept (accessor :: rest)).filter (builder.untaken taken) =
      (builder.kept rest).filter (builder.untaken taken) := by
  rw [kept_cons_of_resolves resolves, List.filter_cons_of_neg (by simpa [untaken] using known),
    List.filter_filter]
  apply List.filter_congr
  intro later _
  by_cases same : builder.propertyNameOf later = builder.propertyNameOf accessor
  · simp [untaken, same, known]
  · simp [same]

theorem filter_kept_cons_of_new (resolves : builder.resolves accessor = true)
    (new : builder.propertyNameOf accessor ∉ taken) :
    (builder.kept (accessor :: rest)).filter (builder.untaken taken) = accessor ::
      (builder.kept rest).filter (builder.untaken (builder.propertyNameOf accessor :: taken)) := by
  rw [kept_cons_of_resolves resolves, List.filter_cons_of_pos (by simpa [untaken] using new),
    List.filter_filter]
  -- The name just taken rules out the same accessors as thinning does.
  refine congrArg (accessor :: ·) (List.filter_congr ?_)
  intro later _
  by_cases same : builder.propertyNameOf later = builder.propertyNameOf accessor
  · simp [untaken, same]
  · simp [untaken, same]

/-- To judge one accessor after another by the names taken before it comes to keeping the
first of each name that was not taken at the start. -/
theorem filterMap_property?_verdicts (builder : Builder) (taken : List String)
    (accessors : List Accessor) :
    (builder.verdicts taken accessors).filterMap Verdict.property? =
      ((builder.kept accessors).filter (builder.untaken taken)).filterMap
        builder.property? := by
  -- A described accessor adds to the names that the rest finds taken.
  induction accessors generalizing taken with
  | nil => rfl
  | cons accessor rest ih =>
    rw [verdicts, List.filterMap_cons, ih]
    obtain ⟨fault, failed, verdict⟩ | ⟨resolution, resolved, ⟨known, verdict⟩ | ⟨new, verdict⟩⟩ :=
      builder.verdict_cases taken accessor
    · have skipped : builder.kept (accessor :: rest) = builder.kept rest :=
        kept_append_malformed [] (resolves_of_malformed failed)
      rw [verdict, skipped]
      rfl
    · have resolves := resolves_iff.mpr ⟨resolution, resolved⟩
      rw [verdict, filter_kept_cons_of_known resolves known]
      rfl
    · have resolves := resolves_iff.mpr ⟨resolution, resolved⟩
      have described : builder.property? accessor =
          some ⟨builder.propertyNameOf accessor, resolution.type, accessor.failures⟩ :=
        property?_eq_some_iff.mpr ⟨resolution, resolved, rfl⟩
      rw [verdict, filter_kept_cons_of_new resolves new, List.filterMap_cons, described]
      rfl

/-! ### Properties -/

theorem propertiesOf_eq (builder : Builder) (accessors : List Accessor) :
    builder.propertiesOf accessors =
      sortedBy Property.name ((builder.kept accessors).filterMap builder.property?) := by
  have allUntaken : (builder.kept accessors).filter (builder.untaken []) =
      builder.kept accessors := List.filter_eq_self.mpr fun _ _ => rfl
  rw [propertiesOf, filterMap_property?_verdicts, allUntaken]

theorem propertiesOf_ascending (builder : Builder) (accessors : List Accessor) :
    Ascending Property.name (builder.propertiesOf accessors) := by
  rw [propertiesOf_eq]
  exact sortedBy_ascending (builder.kept_properties_nodup accessors)

theorem mem_propertiesOf_iff : property ∈ builder.propertiesOf accessors ↔ ∃ accessor,
    accessors.find? (builder.yields property.name) = some accessor ∧
      builder.Describes accessor property := by
  rw [propertiesOf_eq, mem_sortedBy, List.mem_filterMap]
  constructor
  · rintro ⟨accessor, isKept, described⟩
    have describes := property?_eq_some_iff.mp described
    refine ⟨accessor, ?_, describes⟩
    rw [describes.name]
    exact mem_kept_iff.mp isKept
  · rintro ⟨accessor, first, describes⟩
    rw [describes.name] at first
    exact ⟨accessor, mem_kept_iff.mpr first, property?_eq_some_iff.mpr describes⟩

theorem describes_of_mem_propertiesOf (member : property ∈ builder.propertiesOf accessors) :
    ∃ accessor ∈ accessors, builder.Describes accessor property := by
  obtain ⟨accessor, first, describes⟩ := mem_propertiesOf_iff.mp member
  exact ⟨accessor, List.mem_of_find?_eq_some first, describes⟩

theorem exists_mem_propertiesOf_iff {name : String} :
    (∃ property ∈ builder.propertiesOf accessors, property.name = name) ↔
      ∃ accessor ∈ accessors, builder.yields name accessor = true := by
  rw [← List.find?_isSome, Option.isSome_iff_exists]
  constructor
  · rintro ⟨property, member, rfl⟩
    obtain ⟨accessor, first, -⟩ := mem_propertiesOf_iff.mp member
    exact ⟨accessor, first⟩
  · rintro ⟨accessor, first⟩
    obtain ⟨resolves, rfl⟩ := yields_iff.mp (List.find?_some first)
    obtain ⟨resolution, resolved⟩ := resolves_iff.mp resolves
    exact ⟨_, mem_propertiesOf_iff.mpr ⟨accessor, first, resolution, resolved, rfl⟩, rfl⟩

theorem describeProperties_ofAccessors (builder : Builder) (accessors : List Accessor) :
    builder.describeProperties (.ofAccessors accessors) =
      ⟨.ok ⟨builder.propertiesOf accessors, builder.diagnosticsOf accessors⟩,
        builder.logOf accessors⟩ := by
  rw [describeProperties, Supplied.accessors_ofAccessors]
  simp only [findSome?_fault?_verdicts]

/-- Every list of accessors is described. The properties ascend by name, and a name is
among them exactly if a well-formed accessor yields it. The property of a name is what
the first such accessor is described as, and a malformed accessor may as well be absent. -/
theorem describeProperties_keeps_first (builder : Builder) (accessors : List Accessor) :
    ∃ described,
      (builder.describeProperties (.ofAccessors accessors)).outcome = .ok described ∧
      Ascending Property.name described.properties ∧
      (∀ name, (∃ property ∈ described.properties, property.name = name) ↔
        ∃ accessor ∈ accessors, builder.yields name accessor = true) ∧
      (∀ property, property ∈ described.properties ↔ ∃ accessor,
        accessors.find? (builder.yields property.name) = some accessor ∧
          builder.Describes accessor property) ∧
      ∀ before malformed after fault, accessors = before ++ malformed :: after →
        builder.policy.resolve malformed.returnType = .error (.malformed fault) →
        ∃ without,
          (builder.describeProperties (.ofAccessors (before ++ after))).outcome = .ok without ∧
            without.properties = described.properties := by
  refine ⟨⟨builder.propertiesOf accessors, builder.diagnosticsOf accessors⟩, ?_,
    builder.propertiesOf_ascending accessors, fun _ => exists_mem_propertiesOf_iff,
    fun _ => mem_propertiesOf_iff, ?_⟩
  · rw [describeProperties_ofAccessors]
  · rintro before malformed after fault rfl failed
    refine ⟨⟨builder.propertiesOf (before ++ after), builder.diagnosticsOf (before ++ after)⟩,
      ?_, ?_⟩
    · rw [describeProperties_ofAccessors]
    · rw [propertiesOf_eq, propertiesOf_eq,
        kept_append_malformed before (resolves_of_malformed failed)]

/-- A malformed getter, another of that property name, and a third that comes too late. -/
def cargo : List Accessor :=
  [⟨"getItems", .generic (.named "java.util.Set") [], [.named "acme.Lost"], none⟩,
   ⟨"fetchItems", .array (.scalar (.named "acme.Crate")),
     [.named "acme.Jam", .named "acme.Delay", .named "acme.Jam"], some "items"⟩,
   ⟨"isItems", .scalar (.named "boolean"), [], none⟩]

theorem describeProperties_keeps_first_cargo : ∃ described,
    (describeProperties {} (.ofAccessors cargo)).outcome = .ok described ∧
    ⟨"items", ⟨.array (.named "acme.Crate"), true, false, some (.named "acme.Crate"), false⟩,
      [.named "acme.Jam", .named "acme.Delay", .named "acme.Jam"]⟩ ∈ described.properties ∧
    ∃ without, (describeProperties {} (.ofAccessors (cargo.drop 1))).outcome = .ok without ∧
      without.properties = described.properties := by
  obtain ⟨described, outcome, -, -, exactly, withoutMalformed⟩ :=
    describeProperties_keeps_first {} cargo
  refine ⟨described, outcome, (exactly _).mpr ?_, ?_⟩
  · exact ⟨_, rfl, _, rfl, rfl⟩
  · exact withoutMalformed [] _ _ ⟨.named "java.util.Set"⟩ rfl rfl

end Builder
end ClassProfile
