import ClassProfile.Builder.Build
import ClassProfile.Proofs.Builder.Supplied
import ClassProfile.Proofs.Keyed
import ClassProfile.Proofs.Resolution

/-! The imports of a list of accessors. A declared type contributes what occurs in
the part that its property is about, and a malformed accessor contributes nothing.
The first identity of a name decides whether the name is imported, so the imports
are exact only where identities of one name are alike. -/
namespace ClassProfile

namespace Accessor

/-- A type is mentioned by an accessor, in its return type or as a failure. -/
def Mentions (accessor : Accessor) (type : Identity) : Prop :=
  accessor.returnType.Occurs type ∨ type ∈ accessor.failures

/-- The types mentioned by an accessor. -/
def mentioned (accessor : Accessor) : List Identity :=
  accessor.returnType.written ++ accessor.failures

theorem mem_mentioned_iff {accessor : Accessor} {type : Identity} :
    type ∈ accessor.mentioned ↔ accessor.Mentions type := by
  rw [mentioned, List.mem_append, Shape.mem_written_iff, Mentions]

end Accessor

/-- Identities of one name that the accessors mention agree on being primitive and on
being arrays. -/
def Consistent (accessors : List Accessor) : Prop :=
  ∀ first ∈ accessors, ∀ second ∈ accessors, ∀ i j, first.Mentions i → second.Mentions j →
    i.name = j.name → i.isPrimitive = j.isPrimitive ∧ i.isArray = j.isArray

theorem consistent_iff {accessors : List Accessor} : Consistent accessors ↔
    ∀ i ∈ accessors.flatMap Accessor.mentioned, ∀ j ∈ accessors.flatMap Accessor.mentioned,
      i.name = j.name → i.isPrimitive = j.isPrimitive ∧ i.isArray = j.isArray := by
  simp only [List.mem_flatMap, Accessor.mem_mentioned_iff]
  constructor
  · rintro consistent i ⟨first, firstMember, mentionsI⟩ j ⟨second, secondMember, mentionsJ⟩
    exact consistent first firstMember second secondMember i j mentionsI mentionsJ
  · intro alike first firstMember second secondMember i j mentionsI mentionsJ
    exact alike i ⟨first, firstMember, mentionsI⟩ j ⟨second, secondMember, mentionsJ⟩

instance (accessors : List Accessor) : Decidable (Consistent accessors) :=
  decidable_of_iff _ consistent_iff.symm

namespace Policy

/-- A type is contributed by a declared type: an array stands for its element, an
iterable for its first argument below all outer wildcards with an upper bound, and
any other type for itself. -/
inductive Contributes (policy : Policy) (type : Identity) : Shape → Prop where
  | array (inside : Shape.Occurs type element) : Contributes policy type (.array element)
  | iterable (iterable : policy.isIterable base = true) (unwraps : Shape.Unwraps first argument)
      (inside : argument.Occurs type) : Contributes policy type (.generic base (first :: rest))
  | other (notArray : ∀ element, shape ≠ .array element)
      (notIterable : ∀ base arguments, shape = .generic base arguments →
        policy.isIterable base = false)
      (inside : shape.Occurs type) : Contributes policy type shape

variable {policy : Policy} {type : Identity} {shape : Shape}

theorem writtenTypes_eq (policy : Policy) (shape : Shape) :
    policy.writtenTypes shape = (policy.part shape).map Shape.written := by
  cases shape with
  | generic base arguments =>
    simp only [writtenTypes, part]
    split
    · cases firstArgument base arguments with
      | error fault => rfl
      | ok argument => cases argument <;> rfl
    · rfl
  | _ => rfl

theorem contributes_iff :
    policy.Contributes type shape ↔ ∃ part, policy.part shape = .ok part ∧ part.Occurs type := by
  constructor
  · intro contributes
    cases contributes with
    | array inside => exact ⟨_, rfl, inside⟩
    | @iterable base first argument rest iterable unwraps inside =>
      obtain rfl := unwraps.unwrapped_eq
      exact ⟨_, part_iterable iterable, Shape.occurs_element_iff.mpr inside⟩
    | other notArray notIterable inside =>
      exact ⟨shape, (HasPart.whole notArray notIterable).part_eq, inside⟩
  · rintro ⟨part, found, inside⟩
    cases part_eq_ok_iff.mp found with
    | array => exact .array inside
    | @iterable base first rest iterable =>
      exact .iterable iterable (Shape.unwraps_unwrapped first)
        (Shape.occurs_element_iff.mp inside)
    | whole notArray notIterable => exact .other notArray notIterable inside

theorem Contributes.occurs (contributes : policy.Contributes type shape) : shape.Occurs type := by
  cases contributes with
  | array inside => exact .array inside
  | iterable iterable unwraps inside => exact .argument List.mem_cons_self (unwraps.occurs inside)
  | other notArray notIterable inside => exact inside

theorem needsImport_iff : policy.needsImport type = true ↔
    type.isPrimitive = false ∧ type.isArray = false ∧ policy.isAmbient type = false := by
  simp [needsImport, and_assoc]

/-- Whether a type needs an import shows in its name and in its two marks. -/
theorem needsImport_congr {i j : Identity} (name : i.name = j.name)
    (marks : i.isPrimitive = j.isPrimitive ∧ i.isArray = j.isArray) :
    policy.needsImport i = policy.needsImport j := by
  obtain ⟨primitive, array⟩ := marks
  cases iArray : i.isArray with
  | true => simp [needsImport, iArray, ← array]
  | false => rw [Identity.eq_of_not_isArray name primitive iArray (array.symm.trans iArray)]

end Policy

namespace Builder

/-- The first type of a name that an accessor brings in. -/
def brings? (builder : Builder) (name : String) (accessor : Accessor) : Option Identity :=
  (builder.candidates accessor).find? fun type => type.name == name

/-- A name is imported: the first type of the name that any accessor brings in needs it. -/
def importsName (builder : Builder) (accessors : List Accessor) (name : String) : Bool :=
  (accessors.findSome? (builder.brings? name)).any builder.policy.needsImport

variable {builder : Builder} {accessors others : List Accessor} {accessor : Accessor}
  {name : String} {type : Identity}

theorem mem_candidates_iff :
    type ∈ builder.candidates accessor ↔ ¬builder.policy.Malforms accessor.returnType ∧
      (type ∈ accessor.failures ∨ builder.policy.Contributes type accessor.returnType) := by
  rw [candidates, Policy.writtenTypes_eq, Policy.not_malforms_iff, Policy.contributes_iff]
  cases builder.policy.part accessor.returnType with
  | error fault => simp [Except.map]
  | ok part => simp [Except.map, Shape.mem_written_iff, or_comm]

theorem mentions_of_mem_candidates
    (candidate : type ∈ builder.candidates accessor) : accessor.Mentions type := by
  obtain ⟨-, failure | contributes⟩ := mem_candidates_iff.mp candidate
  · exact .inr failure
  · exact .inl contributes.occurs

theorem collectImports_ofAccessors (builder : Builder) (accessors : List Accessor) :
    builder.collectImports (.ofAccessors accessors) =
      ⟨.ok ⟨builder.importsOf accessors, builder.importDiagnostics accessors⟩, []⟩ := by
  rw [collectImports, Supplied.accessors_ofAccessors]

theorem exists_candidate_of_mem_importsOf
    (imported : type ∈ builder.importsOf accessors) :
    ∃ accessor ∈ accessors, type ∈ builder.candidates accessor := by
  have thinned := (List.mem_filter.mp (mem_sortedBy.mp imported)).1
  exact List.mem_flatMap.mp (mem_of_mem_distinctBy thinned)

theorem importsOf_ascending (builder : Builder) (accessors : List Accessor) :
    Ascending Identity.name (builder.importsOf accessors) := by
  apply sortedBy_ascending
  exact (distinctBy_nodup _ _).sublist (List.filter_sublist.map Identity.name)

theorem of_brings?_eq_some (brought : builder.brings? name accessor = some type) :
    type ∈ builder.candidates accessor ∧ type.name = name := by
  have found : (builder.candidates accessor).find? (fun type => type.name == name) = some type :=
    brought
  have named := List.find?_some found
  exact ⟨List.mem_of_find?_eq_some found, eq_of_beq named⟩

theorem mem_names_importsOf_iff :
    name ∈ (builder.importsOf accessors).map Identity.name ↔
      builder.importsName accessors name = true := by
  simp only [importsOf, List.mem_map, mem_sortedBy, List.mem_filter, mem_distinctBy_iff,
    List.find?_flatMap]
  constructor
  · rintro ⟨type, ⟨first, needed⟩, rfl⟩
    have first : accessors.findSome? (builder.brings? type.name) = some type := first
    rw [importsName, first]
    exact needed
  · intro imported
    obtain ⟨type, first, needed⟩ := (Option.any_eq_true _ _).mp imported
    obtain ⟨accessor, -, brought⟩ := List.exists_of_findSome?_eq_some first
    obtain ⟨-, rfl⟩ := of_brings?_eq_some brought
    exact ⟨type, ⟨first, needed⟩, rfl⟩

theorem needsImport_of_mem_importsOf (imported : type ∈ builder.importsOf accessors) :
    builder.policy.needsImport type = true :=
  (List.mem_filter.mp (mem_sortedBy.mp imported)).2

theorem mem_importsOf_iff_name (needed : builder.policy.needsImport type = true) :
    type ∈ builder.importsOf accessors ↔
      type.name ∈ (builder.importsOf accessors).map Identity.name := by
  constructor
  · exact List.mem_map_of_mem
  · intro named
    obtain ⟨other, imported, same⟩ := List.mem_map.mp named
    obtain ⟨primitive, array, -⟩ := Policy.needsImport_iff.mp needed
    obtain ⟨otherPrimitive, otherArray, -⟩ :=
      Policy.needsImport_iff.mp (needsImport_of_mem_importsOf imported)
    rwa [← Identity.eq_of_not_isArray same (otherPrimitive.trans primitive.symm) otherArray array]

/-- No two types of one name need an import, so imports are known by their names. -/
theorem importsOf_eq_iff : builder.importsOf accessors = builder.importsOf others ↔
    ∀ name, name ∈ (builder.importsOf accessors).map Identity.name ↔
      name ∈ (builder.importsOf others).map Identity.name := by
  constructor
  · intro same name
    rw [same]
  · intro same
    apply (builder.importsOf_ascending accessors).eq_of_mem_iff (builder.importsOf_ascending others)
    intro type
    cases needed : builder.policy.needsImport type with
    | true => rw [mem_importsOf_iff_name needed, mem_importsOf_iff_name needed, same]
    | false =>
      have absent {list : List Accessor} : type ∉ builder.importsOf list := by
        intro imported
        rw [needsImport_of_mem_importsOf imported] at needed
        contradiction
      exact iff_of_false absent absent

/-- The first type of a name decides for all, so it takes consistency for any type of the
name to decide. -/
theorem name_mem_importsOf_iff (consistent : Consistent accessors) {name : String} :
    name ∈ (builder.importsOf accessors).map Identity.name ↔
      ∃ accessor ∈ accessors, ∃ type ∈ builder.candidates accessor,
        type.name = name ∧ builder.policy.needsImport type = true := by
  rw [mem_names_importsOf_iff]
  constructor
  · intro imported
    obtain ⟨type, first, needed⟩ := (Option.any_eq_true _ _).mp imported
    obtain ⟨accessor, member, brought⟩ := List.exists_of_findSome?_eq_some first
    obtain ⟨candidate, named⟩ := of_brings?_eq_some brought
    exact ⟨accessor, member, type, candidate, named, needed⟩
  · rintro ⟨accessor, member, type, candidate, rfl, needed⟩
    cases found : accessors.findSome? (builder.brings? type.name) with
    | none =>
      have nothing := List.findSome?_eq_none_iff.mp found accessor member
      have different := List.find?_eq_none.mp nothing type candidate
      simp at different
    | some first =>
      obtain ⟨other, otherMember, brought⟩ := List.exists_of_findSome?_eq_some found
      obtain ⟨firstCandidate, same⟩ := of_brings?_eq_some brought
      have alike := consistent other otherMember accessor member first type
        (mentions_of_mem_candidates firstCandidate) (mentions_of_mem_candidates candidate) same
      rw [importsName, found]
      exact (Policy.needsImport_congr same alike).trans needed

/-- The imports are exactly the types written out: they ascend by name, and a name is
among them exactly if a type of that name, which is not primitive, not an array and not
ambient, is a failure of a well-formed accessor or is contributed by its return type. -/
theorem collectImports_exact (builder : Builder) (accessors : List Accessor)
    (consistent : Consistent accessors) :
    ∃ collected,
      (builder.collectImports (.ofAccessors accessors)).outcome = .ok collected ∧
      Ascending Identity.name collected.imports ∧
      ∀ name, (∃ type ∈ collected.imports, type.name = name) ↔
        ∃ accessor ∈ accessors, ¬builder.policy.Malforms accessor.returnType ∧
          ∃ type, type.name = name ∧ type.isPrimitive = false ∧ type.isArray = false ∧
            builder.policy.isAmbient type = false ∧
            (type ∈ accessor.failures ∨
              builder.policy.Contributes type accessor.returnType) := by
  refine ⟨⟨builder.importsOf accessors, builder.importDiagnostics accessors⟩, ?_,
    importsOf_ascending builder accessors, ?_⟩
  · rw [collectImports_ofAccessors]
  intro name
  rw [← List.mem_map, name_mem_importsOf_iff consistent]
  constructor
  · rintro ⟨accessor, member, type, candidate, same, needed⟩
    obtain ⟨wellFormed, source⟩ := mem_candidates_iff.mp candidate
    obtain ⟨primitive, array, ambient⟩ := Policy.needsImport_iff.mp needed
    exact ⟨accessor, member, wellFormed, type, same, primitive, array, ambient, source⟩
  · rintro ⟨accessor, member, wellFormed, type, same, primitive, array, ambient, source⟩
    exact ⟨accessor, member, type, mem_candidates_iff.mpr ⟨wellFormed, source⟩, same,
      Policy.needsImport_iff.mpr ⟨primitive, array, ambient⟩⟩

/-- An iterable seen through a wildcard, with an argument that does not count; arrays of
arrays; a malformed accessor; and an iterable that counts for being nested. -/
def harbour : List Accessor :=
  [⟨"getRoutes", .generic (.named "java.util.List")
      [.wildcard (some (.generic (.named "java.util.Map")
        [.scalar (.named "acme.Port"), .array (.scalar (.named "acme.Wharf"))])) none,
       .scalar (.named "acme.Unused")], [.named "java.io.IOException"], none⟩,
   ⟨"getHolds", .array (.array (.scalar (.named "acme.Hold"))), [], none⟩,
   ⟨"getRaw", .generic (.named "java.util.Set") [], [.named "acme.Lost"], none⟩,
   ⟨"getBerths", .generic (.named "acme.Berths")
      [.wildcard none (some (.generic (.named "java.util.List") [.typeVariable "T"]))], [], none⟩,
   ⟨"isOpen", .scalar (.named "boolean"), [.named "java.io.IOException"], none⟩]

theorem collectImports_exact_harbour :
    Consistent harbour ∧ ∃ collected,
      (collectImports {} (.ofAccessors harbour)).outcome = .ok collected ∧
      Ascending Identity.name collected.imports ∧
      (∃ type ∈ collected.imports, type.name = "acme.Wharf") ∧
      ∃ type ∈ collected.imports, type.name = "java.util.List" := by
  have consistent : Consistent harbour := by decide
  obtain ⟨collected, outcome, ascending, exactly⟩ := collectImports_exact {} harbour consistent
  refine ⟨consistent, collected, outcome, ascending, (exactly _).mpr ?_, (exactly _).mpr ?_⟩
  · refine ⟨_, .head _, ?_, .named "acme.Wharf", rfl, by decide, rfl, by decide, .inr ?_⟩
    · rintro ⟨base, same, -⟩
      simp at same
    · exact .iterable (by decide) (.bound (.bare nofun))
        (.argument (.tail _ (.head _)) (.array .scalar))
  · refine ⟨_, .tail _ (.tail _ (.tail _ (.head _))), ?_, .named "java.util.List", rfl, by decide,
      rfl, by decide, .inr ?_⟩
    · rintro ⟨base, same, -⟩
      simp at same
    · refine .other nofun ?_ (.argument (.head _) (.lower .base))
      rintro _ _ ⟨⟩
      decide

end Builder
end ClassProfile
