import ClassProfile.Proofs.Builder.Outcome

/-! What a build owes to accessors that it does not describe. Without them its properties
are the same. The imports are not minimal: a duplicate brings in its types although no
property names them, and it may decide for a name that a property needs. They are the
same exactly if no name that a duplicate brings in is decided otherwise without it. -/
namespace ClassProfile
namespace Builder

variable {builder : Builder} {accessors : List Accessor} {accessor : Accessor}
  {name : String} {type : Identity}

theorem resolves_of_mem_candidates (candidate : type ∈ builder.candidates accessor) :
    builder.resolves accessor = true := by
  obtain ⟨wellFormed, -⟩ := mem_candidates_iff.mp candidate
  exact resolves_iff_not_malforms.mpr wellFormed

/-- The first accessor that brings in a name is first also among those kept, if it is
one of them. -/
theorem findSome?_kept {before after : List Accessor}
    (isKept : accessor ∈ builder.kept (before ++ accessor :: after))
    (brought : builder.brings? name accessor = some type)
    (nothing : ∀ earlier ∈ before, builder.brings? name earlier = none) :
    (builder.kept (before ++ accessor :: after)).findSome? (builder.brings? name) =
      some type := by
  have resolves := resolves_of_mem_candidates (of_brings?_eq_some brought).1
  rw [kept, List.filter_append, List.filter_cons_of_pos resolves] at isKept ⊢
  -- No earlier accessor is the same one: it would have brought in the name already.
  have new : accessor ∉ before.filter builder.resolves := by
    intro member
    rw [nothing accessor (List.mem_filter.mp member).1] at brought
    contradiction
  obtain ⟨front, back, split, subset⟩ := distinctBy_split new isKept
  refine List.findSome?_eq_some_iff.mpr ⟨front, accessor, back, split, brought, ?_⟩
  exact fun earlier member => nothing earlier (List.mem_filter.mp (subset member)).1

theorem importsOf_kept_eq_iff :
    builder.importsOf (builder.kept accessors) = builder.importsOf accessors ↔
      ∀ accessor ∈ accessors, accessor ∉ builder.kept accessors →
        ∀ type ∈ builder.candidates accessor,
          builder.importsName (builder.kept accessors) type.name =
            builder.importsName accessors type.name := by
  simp only [importsOf_eq_iff, mem_names_importsOf_iff, ← Bool.eq_iff_iff]
  constructor
  · exact fun same _ _ _ type _ => same type.name
  · intro same name
    cases found : accessors.findSome? (builder.brings? name) with
    | none =>
      have keptNothing : (builder.kept accessors).findSome? (builder.brings? name) = none := by
        rw [List.findSome?_eq_none_iff] at found ⊢
        exact fun accessor isKept => found accessor (mem_of_mem_kept isKept)
      rw [importsName, importsName, found, keptNothing]
    | some type =>
      obtain ⟨before, accessor, after, rfl, brought, nothing⟩ :=
        List.findSome?_eq_some_iff.mp found
      -- Only a name that is first brought in by an accessor not kept may be decided anew.
      by_cases isKept : accessor ∈ builder.kept (before ++ accessor :: after)
      · rw [importsName, importsName, found, findSome?_kept isKept brought nothing]
      · obtain ⟨candidate, rfl⟩ := of_brings?_eq_some brought
        exact same accessor (List.mem_append_right _ List.mem_cons_self) isKept type candidate

theorem consistent_kept (consistent : Consistent accessors) :
    Consistent (builder.kept accessors) :=
  fun first firstKept second secondKept =>
    consistent first (mem_of_mem_kept firstKept) second (mem_of_mem_kept secondKept)

/-- Where types of one name are alike, it is enough that what needs an import is brought
in under its name by an accessor that is kept. -/
theorem importsOf_kept_eq_iff_of_consistent (consistent : Consistent accessors) :
    builder.importsOf (builder.kept accessors) = builder.importsOf accessors ↔
      ∀ accessor ∈ accessors, ∀ type ∈ builder.candidates accessor,
        builder.policy.needsImport type = true →
          ∃ other ∈ builder.kept accessors, ∃ like ∈ builder.candidates other,
            like.name = type.name := by
  simp only [importsOf_eq_iff, name_mem_importsOf_iff consistent,
    name_mem_importsOf_iff (consistent_kept consistent)]
  constructor
  · intro same accessor member type candidate needed
    obtain ⟨other, isKept, like, brought, named, -⟩ :=
      (same type.name).mpr ⟨accessor, member, type, candidate, rfl, needed⟩
    exact ⟨other, isKept, like, brought, named⟩
  · intro covered name
    constructor
    · rintro ⟨accessor, isKept, type, candidate, named, needed⟩
      exact ⟨accessor, mem_of_mem_kept isKept, type, candidate, named, needed⟩
    · rintro ⟨accessor, member, type, candidate, rfl, needed⟩
      obtain ⟨other, isKept, like, brought, named⟩ := covered accessor member type candidate needed
      have alike := consistent other (mem_of_mem_kept isKept) accessor member like type
        (mentions_of_mem_candidates brought) (mentions_of_mem_candidates candidate) named
      exact ⟨other, isKept, like, brought, named,
        (Policy.needsImport_congr named alike).trans needed⟩

theorem propertiesOf_kept (builder : Builder) (accessors : List Accessor) :
    builder.propertiesOf (builder.kept accessors) = builder.propertiesOf accessors := by
  rw [propertiesOf_eq, propertiesOf_eq, kept_kept]

/-- A build of the accessors that are kept describes the same properties. The whole
description is the same exactly if every name that an accessor not kept brings in is
imported alike with it and without it. Where types of one name are alike, this is to say
that all that needs an import is brought in by an accessor that is kept. -/
theorem build_kept_eq_iff (builder : Builder) (subject : Identity) (accessors : List Accessor) :
    ∃ whole reduced,
      (builder.build subject (.ofAccessors accessors)).outcome = .ok whole ∧
      (builder.build subject (.ofAccessors (builder.kept accessors))).outcome = .ok reduced ∧
      reduced.description.properties = whole.description.properties ∧
      (reduced.description = whole.description ↔
        ∀ accessor ∈ accessors, accessor ∉ builder.kept accessors →
          ∀ type ∈ builder.candidates accessor,
            builder.importsName (builder.kept accessors) type.name =
              builder.importsName accessors type.name) ∧
      (Consistent accessors → (reduced.description = whole.description ↔
        ∀ accessor ∈ accessors, ∀ type ∈ builder.candidates accessor,
          builder.policy.needsImport type = true →
            ∃ other ∈ builder.kept accessors, ∃ like ∈ builder.candidates other,
              like.name = type.name)) := by
  have descriptions : ClassDescription.mk subject (builder.propertiesOf (builder.kept accessors))
        (builder.importsOf (builder.kept accessors)) =
      ⟨subject, builder.propertiesOf accessors, builder.importsOf accessors⟩ ↔
        builder.importsOf (builder.kept accessors) = builder.importsOf accessors := by
    rw [propertiesOf_kept, ClassDescription.mk.injEq, eq_self, eq_self, true_and, true_and]
  refine ⟨_, _, builder.build_ofAccessors subject accessors,
    builder.build_ofAccessors subject (builder.kept accessors),
    builder.propertiesOf_kept accessors, ?_, ?_⟩
  · exact descriptions.trans importsOf_kept_eq_iff
  · exact fun consistent => descriptions.trans (importsOf_kept_eq_iff_of_consistent consistent)

/-- A second getter whose type is brought in by the first one as well. -/
def partners : List Accessor :=
  [⟨"getOwner", .scalar (.named "acme.Guild"), [], none⟩,
   ⟨"isOwner", .generic (.named "java.util.List") [.scalar (.named "acme.Guild")], [], none⟩]

theorem build_kept_eq_partners : Consistent partners ∧ ∃ whole reduced,
    (build {} (.named "acme.Ship") (.ofAccessors partners)).outcome = .ok whole ∧
    (build {} (.named "acme.Ship") (.ofAccessors (kept {} partners))).outcome = .ok reduced ∧
    reduced.description = whole.description := by
  have consistent : Consistent partners := by decide
  obtain ⟨whole, reduced, built, builtKept, -, -, same⟩ :=
    build_kept_eq_iff {} (.named "acme.Ship") partners
  exact ⟨consistent, whole, reduced, built, builtKept,
    (same consistent).mpr (by decide +kernel)⟩

/-- Two getters of one property, of different types. -/
def rivals : List Accessor :=
  [⟨"getOwner", .scalar (.named "acme.Guild"), [], none⟩,
   ⟨"isOwner", .scalar (.named "acme.Crew"), [], none⟩]

/-- The second getter yields no property, and yet its type is imported. -/
theorem build_rivals_not_minimal :
    kept {} rivals = rivals.take 1 ∧ ∃ whole reduced,
      (build {} (.named "acme.Ship") (.ofAccessors rivals)).outcome = .ok whole ∧
      (build {} (.named "acme.Ship") (.ofAccessors (kept {} rivals))).outcome = .ok reduced ∧
      "acme.Crew" ∈ whole.description.imports.map Identity.name ∧
      "acme.Crew" ∉ reduced.description.imports.map Identity.name ∧
      reduced.description ≠ whole.description := by
  have imported : "acme.Crew" ∈ (importsOf {} rivals).map Identity.name :=
    mem_names_importsOf_iff.mpr (by decide +kernel)
  have absent : "acme.Crew" ∉ (importsOf {} (kept {} rivals)).map Identity.name :=
    mt mem_names_importsOf_iff.mp (by decide +kernel)
  refine ⟨rfl, _, _, build_ofAccessors _ _ _, build_ofAccessors _ _ _, imported, absent, ?_⟩
  intro same
  have sameImports : importsOf {} (kept {} rivals) = importsOf {} rivals :=
    congrArg ClassDescription.imports same
  rw [sameImports] at absent
  exact absent imported

end Builder
end ClassProfile
