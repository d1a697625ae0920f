import ClassProfile.Proofs.Builder.Outcome
import ClassProfile.Proofs.Notation.Acceptance

/-! The two passes agree on what generated code needs: whatever a property names can
be written, being primitive, ambient or imported. The exception is an opaque
property, which may name the fallback of the policy. -/
namespace ClassProfile

/-- The types that accessors mention are no arrays, and those of one name agree on
being primitive. -/
structure Plain (accessors : List Accessor) : Prop where
  bare : ∀ accessor ∈ accessors, ∀ type, accessor.Mentions type → type.isArray = false
  alike : ∀ first ∈ accessors, ∀ second ∈ accessors, ∀ i j, first.Mentions i →
    second.Mentions j → i.name = j.name → i.isPrimitive = j.isPrimitive

/-- The return types of the accessors are read from texts, under any type variables, and
their failures are known by name. -/
def FromNotation (accessors : List Accessor) : Prop :=
  ∀ accessor ∈ accessors,
    (∃ typeVariables text, Notation.read typeVariables text = .ok accessor.returnType) ∧
      ∀ failure ∈ accessor.failures, ∃ name, failure = .named name

theorem FromNotation.named {accessors : List Accessor} (read : FromNotation accessors)
    {accessor : Accessor} (member : accessor ∈ accessors) {type : Identity}
    (mentions : accessor.Mentions type) : ∃ name, type = .named name := by
  obtain ⟨⟨typeVariables, text, returns⟩, failures⟩ := read accessor member
  obtain occurs | failure := mentions
  · exact Notation.named_of_read returns occurs
  · exact failures type failure

theorem FromNotation.plain {accessors : List Accessor} (read : FromNotation accessors) :
    Plain accessors where
  bare accessor member type mentions := by
    obtain ⟨name, rfl⟩ := read.named member mentions
    rfl
  alike first firstMember second secondMember i j mentionsI mentionsJ same := by
    obtain ⟨iName, rfl⟩ := read.named firstMember mentionsI
    obtain ⟨jName, rfl⟩ := read.named secondMember mentionsJ
    obtain rfl : iName = jName := same
    rfl

namespace Plain

variable {accessors : List Accessor} {first second : Accessor} {i j : Identity}

theorem consistent (plain : Plain accessors) : Consistent accessors := by
  intro first firstMember second secondMember i j mentionsI mentionsJ same
  constructor
  · exact plain.alike first firstMember second secondMember i j mentionsI mentionsJ same
  · rw [plain.bare first firstMember i mentionsI, plain.bare second secondMember j mentionsJ]

/-- Where types are plain, those of one name are one. -/
theorem eq_of_sameName (plain : Plain accessors) (firstMember : first ∈ accessors)
    (secondMember : second ∈ accessors) (mentionsI : first.Mentions i)
    (mentionsJ : second.Mentions j) (same : i.name = j.name) : i = j := by
  apply Identity.eq_of_not_isArray same
  · exact plain.alike first firstMember second secondMember i j mentionsI mentionsJ same
  · exact plain.bare first firstMember i mentionsI
  · exact plain.bare second secondMember j mentionsJ

end Plain

/-- Code with these imports can name the type: it is primitive, ambient or imported. -/
def Policy.Covers (policy : Policy) (imports : List Identity) (type : Identity) : Prop :=
  type.isPrimitive = true ∨ policy.isAmbient type = true ∨ type ∈ imports

namespace Builder

variable {builder : Builder} {accessors : List Accessor} {accessor : Accessor}

/-- Every type that a well-formed accessor brings in is covered. -/
theorem covers_of_mem_candidates (plain : Plain accessors) (member : accessor ∈ accessors)
    {type : Identity} (candidate : type ∈ builder.candidates accessor) :
    builder.policy.Covers (builder.importsOf accessors) type := by
  have mentions : accessor.Mentions type := mentions_of_mem_candidates candidate
  have bare : type.isArray = false := plain.bare accessor member type mentions
  cases primitive : type.isPrimitive with
  | true => exact .inl primitive
  | false =>
    cases ambient : builder.policy.isAmbient type with
    | true => exact .inr (.inl ambient)
    | false =>
      have named : type.name ∈ (builder.importsOf accessors).map Identity.name :=
        (name_mem_importsOf_iff plain.consistent).mpr ⟨accessor, member, type, candidate, rfl,
          Policy.needsImport_iff.mpr ⟨primitive, bare, ambient⟩⟩
      -- The import of that name may come from another accessor; being plain makes it the same.
      obtain ⟨kept, imported, same⟩ := List.mem_map.mp named
      obtain ⟨other, otherMember, keptCandidate⟩ := exists_candidate_of_mem_importsOf imported
      obtain rfl : kept = type := plain.eq_of_sameName otherMember member
        (mentions_of_mem_candidates keptCandidate) mentions same
      exact .inr (.inr imported)

theorem covers_failure (plain : Plain accessors) (member : accessor ∈ accessors)
    {property : Property} (describes : builder.Describes accessor property) {failure : Identity}
    (declared : failure ∈ property.failures) :
    builder.policy.Covers (builder.importsOf accessors) failure := by
  obtain ⟨resolution, resolved, rfl⟩ := describes
  obtain ⟨part, found, -⟩ := Policy.settles_of_resolve resolved
  apply covers_of_mem_candidates plain member
  exact mem_candidates_iff.mpr ⟨Policy.not_malforms_iff.mpr ⟨part, found⟩, .inl declared⟩

/-- What a property names is covered below its array levels, or it is the fallback below
such levels and the property is opaque. -/
theorem covers_deciding (plain : Plain accessors) (member : accessor ∈ accessors)
    {property : Property} (describes : builder.Describes accessor property) :
    property.type.isOpaque = false ∧
        builder.policy.Covers (builder.importsOf accessors) property.type.deciding.innermost ∨
      property.type.isOpaque = true ∧
        ∃ levels, property.type.deciding = builder.policy.fallback.arrays levels := by
  obtain ⟨resolution, resolved, rfl⟩ := describes
  obtain ⟨part, found, settles⟩ := Policy.settles_of_resolve resolved
  cases named : part.identity? with
  | none =>
    refine .inr ⟨by rw [settles.isOpaque, named, Option.isNone_none], part.levels, ?_⟩
    rw [settles.deciding, (Policy.reduction_of_unnamed named).1]
  | some identity =>
    refine .inl ⟨by rw [settles.isOpaque, named, Option.isNone_some], ?_⟩
    obtain ⟨type, occurs, same⟩ := Shape.occurs_of_identity? named
    have contributes : builder.policy.Contributes type accessor.returnType :=
      Policy.contributes_iff.mpr ⟨part, found, occurs⟩
    have bare : type.isArray = false :=
      plain.bare accessor member type (.inl contributes.occurs)
    rw [settles.deciding, Policy.reduction_of_identity? named, ← same,
      Identity.innermost_of_isArray bare]
    apply covers_of_mem_candidates plain member
    exact mem_candidates_iff.mpr ⟨Policy.not_malforms_iff.mpr ⟨part, found⟩, .inr contributes⟩

/-- Whatever accessors read from texts mention is plain. Where accessors are plain, a build
describes them, and code with the imports of the description can name every failure of
a property and, unless it is opaque, the element or else the base of its type. What it
cannot name is the fallback, in an opaque property. -/
theorem build_covers (builder : Builder) (subject : Identity) (accessors : List Accessor) :
    (FromNotation accessors → Plain accessors) ∧
    (Plain accessors → ∃ built,
      (builder.build subject (.ofAccessors accessors)).outcome = .ok built ∧
      ∀ property ∈ built.description.properties,
        (∀ failure ∈ property.failures,
          builder.policy.Covers built.description.imports failure) ∧
        (property.type.isOpaque = false →
          builder.policy.Covers built.description.imports property.type.deciding.innermost) ∧
        (¬builder.policy.Covers built.description.imports property.type.deciding.innermost →
          property.type.isOpaque = true ∧
            ∃ levels, property.type.deciding = builder.policy.fallback.arrays levels)) := by
  refine ⟨FromNotation.plain, ?_⟩
  intro plain
  refine ⟨_, builder.build_ofAccessors subject accessors, ?_⟩
  intro property member
  obtain ⟨accessor, accessorMember, describes⟩ := describes_of_mem_propertiesOf member
  refine ⟨fun failure declared => covers_failure plain accessorMember describes declared, ?_⟩
  obtain ⟨precise, covers⟩ | ⟨opaqueType, fallback⟩ :=
    covers_deciding plain accessorMember describes
  · exact ⟨fun _ => covers, fun uncovered => absurd covers uncovered⟩
  · refine ⟨?_, fun _ => ⟨opaqueType, fallback⟩⟩
    rw [opaqueType]
    intro precise
    contradiction

/-- A wildcard, an iterable of arrays and an array of a type variable. -/
def quay : List Accessor :=
  [⟨"getCrates", .generic (.named "java.util.List")
      [.wildcard (some (.array (.array (.scalar (.named "acme.Crate"))))) none],
      [.named "java.io.IOException"], none⟩,
   ⟨"getOwner", .array (.typeVariable "T"), [.named "acme.Unowned"], none⟩]

theorem fromNotation_quay : FromNotation quay := by
  intro accessor member
  obtain rfl | rfl : accessor = _ ∨ accessor = _ := by simpa [quay] using member
  · exact ⟨⟨[], "java.util.List<? extends acme.Crate[][]>", by with_unfolding_all rfl⟩,
      List.forall_mem_singleton.mpr ⟨_, rfl⟩⟩
  · exact ⟨⟨["T"], "T[]", by with_unfolding_all rfl⟩, List.forall_mem_singleton.mpr ⟨_, rfl⟩⟩

/-- A builder under whose policy cargo stands for what is not known, a type that no import is
made for. -/
def wharf : Builder where
  policy := { Policy.standard with fallback := .named "acme.Cargo" }

def crates : Property where
  name := "crates"
  type := ⟨.named "java.util.List", true, true, some (.array (.named "acme.Crate")), false⟩
  failures := [.named "java.io.IOException"]

def owner : Property where
  name := "owner"
  type := ⟨.array (.named "acme.Cargo"), true, false, some (.named "acme.Cargo"), true⟩
  failures := [.named "acme.Unowned"]

theorem build_covers_quay :
    FromNotation quay ∧ Plain quay ∧ ∃ built,
      (wharf.build (.named "acme.Quay") (.ofAccessors quay)).outcome = .ok built ∧
      (crates ∈ built.description.properties ∧ crates.type.isOpaque = false ∧
        crates.type.deciding.innermost = .named "acme.Crate" ∧
        wharf.policy.Covers built.description.imports (.named "acme.Crate") ∧
        wharf.policy.Covers built.description.imports (.named "java.io.IOException")) ∧
      owner ∈ built.description.properties ∧ owner.type.isOpaque = true ∧
        owner.type.deciding.innermost = .named "acme.Cargo" ∧
        ¬wharf.policy.Covers built.description.imports (.named "acme.Cargo") ∧
        wharf.policy.Covers built.description.imports (.named "acme.Unowned") := by
  obtain ⟨ofNotation, covers⟩ := build_covers wharf (.named "acme.Quay") quay
  have plain : Plain quay := ofNotation fromNotation_quay
  obtain ⟨built, outcome, covered⟩ := covers plain
  obtain rfl := Except.ok.inj (outcome.symm.trans (build_ofAccessors wharf _ quay))
  have described : (wharf.verdicts [] quay).filterMap Verdict.property? = [crates, owner] := by
    decide
  have cratesMember : crates ∈ wharf.propertiesOf quay :=
    mem_sortedBy.mpr (described ▸ List.mem_cons_self)
  have ownerMember : owner ∈ wharf.propertiesOf quay :=
    mem_sortedBy.mpr (described ▸ List.mem_cons_of_mem _ List.mem_cons_self)
  obtain ⟨cratesFailures, cratesNamed, -⟩ := covered crates cratesMember
  obtain ⟨ownerFailures, -⟩ := covered owner ownerMember
  have absent : "acme.Cargo" ∉ (wharf.importsOf quay).map Identity.name :=
    mt mem_names_importsOf_iff.mp (by decide +kernel)
  refine ⟨fromNotation_quay, plain, _, outcome, ⟨cratesMember, rfl, rfl, cratesNamed rfl, ?_⟩,
    ownerMember, rfl, rfl, ?_, ?_⟩
  · exact cratesFailures _ List.mem_cons_self
  · rintro (primitive | ambient | imported)
    · contradiction
    · exact absurd ambient (by decide)
    · exact absent (List.mem_map_of_mem imported)
  · exact ownerFailures _ List.mem_cons_self

end Builder
end ClassProfile
