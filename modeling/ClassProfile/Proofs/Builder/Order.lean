import ClassProfile.Proofs.Builder.Isolation

/-! The order of the accessors. Where no two well-formed accessors have one property name,
none of them is a duplicate, and the order decides nothing of the properties and only the
order of the reports. It may still decide what is imported: of the identities of one name
the first is looked at alone, and another may be marked otherwise. The imports are the
same in every order exactly if accessors that bring in one name agree that it is needed. -/
namespace ClassProfile
namespace Builder

/-- No two well-formed accessors have one property name. -/
def Unshared (builder : Builder) (accessors : List Accessor) : Prop :=
  ((builder.wellFormed accessors).map builder.propertyNameOf).Nodup

instance (builder : Builder) (accessors : List Accessor) :
    Decidable (builder.Unshared accessors) :=
  inferInstanceAs (Decidable (List.Nodup _))

/-- Accessors that bring in one name agree whether it needs an import, each by its first
identity of that name. -/
def Agreed (builder : Builder) (accessors : List Accessor) : Prop :=
  ∀ first ∈ accessors, ∀ second ∈ accessors, ∀ name i j,
    builder.brings? name first = some i → builder.brings? name second = some j →
      builder.policy.needsImport i = builder.policy.needsImport j

variable {builder : Builder} {accessors permuted rest : List Accessor} {accessor : Accessor}
  {taken : List String} {name : String}

/-! ### Properties and reports -/

theorem Unshared.kept (unshared : builder.Unshared accessors) :
    builder.kept accessors = builder.wellFormed accessors := by
  rw [kept_eq]
  exact distinctBy_of_nodup unshared

theorem wellFormed_perm (perm : permuted.Perm accessors) :
    (builder.wellFormed permuted).Perm (builder.wellFormed accessors) :=
  perm.filter _

theorem Unshared.perm (unshared : builder.Unshared accessors)
    (perm : permuted.Perm accessors) : builder.Unshared permuted :=
  ((wellFormed_perm perm).map builder.propertyNameOf).nodup_iff.mpr unshared

theorem propertiesOf_perm (unshared : builder.Unshared accessors)
    (perm : permuted.Perm accessors) :
    builder.propertiesOf permuted = builder.propertiesOf accessors := by
  have same : ((builder.kept permuted).filterMap builder.property?).Perm
      ((builder.kept accessors).filterMap builder.property?) := by
    rw [(unshared.perm perm).kept, unshared.kept]
    exact (wellFormed_perm perm).filterMap builder.property?
  apply (builder.propertiesOf_ascending permuted).eq_of_mem_iff
    (builder.propertiesOf_ascending accessors)
  intro property
  rw [propertiesOf_eq, propertiesOf_eq, mem_sortedBy, mem_sortedBy]
  exact same.mem_iff

/-- No accessor finds its name taken, so each is judged as if it stood alone. -/
theorem verdicts_of_unshared (unshared : builder.Unshared accessors)
    (untaken : ∀ accessor ∈ builder.wellFormed accessors,
      builder.propertyNameOf accessor ∉ taken) :
    builder.verdicts taken accessors = accessors.map (builder.verdict []) := by
  induction accessors generalizing taken with
  | nil => rfl
  | cons accessor rest ih =>
    rw [verdicts, List.map_cons]
    obtain ⟨fault, failed, same⟩ | ⟨resolution, resolved, judged⟩ :=
      builder.verdict_cases taken accessor
    · have skipped : builder.wellFormed (accessor :: rest) = builder.wellFormed rest :=
        wellFormed_cons_of_malformed (resolves_of_malformed failed)
      rw [Unshared, skipped] at unshared
      rw [skipped] at untaken
      rw [same, verdict_of_malformed [] failed]
      exact congrArg _ (ih unshared untaken)
    · have counted : builder.wellFormed (accessor :: rest) =
          accessor :: builder.wellFormed rest :=
        wellFormed_cons_of_resolves (resolves_iff.mpr ⟨resolution, resolved⟩)
      rw [Unshared, counted, List.map_cons, List.nodup_cons] at unshared
      obtain ⟨fresh, unsharedRest⟩ := unshared
      rw [counted, List.forall_mem_cons] at untaken
      obtain ⟨new, untakenRest⟩ := untaken
      rw [verdict_of_new resolved new, verdict_of_new resolved List.not_mem_nil]
      refine congrArg _ (ih unsharedRest ?_)
      intro later member known
      obtain (same : builder.propertyNameOf later = builder.propertyNameOf accessor) | known :=
        List.mem_cons.mp known
      · exact fresh (same ▸ List.mem_map_of_mem member)
      · exact untakenRest later member known

theorem diagnosticsOf_perm (unshared : builder.Unshared accessors)
    (perm : permuted.Perm accessors) :
    (builder.diagnosticsOf permuted).Perm (builder.diagnosticsOf accessors) := by
  have alone {list : List Accessor} (unshared : builder.Unshared list) :
      builder.verdicts [] list = list.map (builder.verdict []) :=
    verdicts_of_unshared unshared fun _ _ => List.not_mem_nil
  rw [diagnosticsOf, diagnosticsOf, alone unshared, alone (unshared.perm perm)]
  exact (perm.map _).filterMap _

/-! ### Imports -/

/-- Where accessors agree, any of them that brings in a name decides for it. -/
theorem Agreed.importsName_eq (agreed : builder.Agreed accessors) (name : String) :
    builder.importsName accessors name =
      accessors.any fun accessor =>
        (builder.brings? name accessor).any builder.policy.needsImport := by
  rw [importsName]
  cases found : accessors.findSome? (builder.brings? name) with
  | none =>
    have nothing := List.findSome?_eq_none_iff.mp found
    refine (List.any_eq_false.mpr ?_).symm
    intro accessor member
    rw [nothing accessor member]
    exact Bool.false_ne_true
  | some type =>
    obtain ⟨first, firstMember, brought⟩ := List.exists_of_findSome?_eq_some found
    rw [Option.any_some, Bool.eq_iff_iff, List.any_eq_true]
    constructor
    · intro needed
      exact ⟨first, firstMember, by rw [brought, Option.any_some, needed]⟩
    · rintro ⟨second, secondMember, needed⟩
      obtain ⟨other, otherBrought, otherNeeded⟩ := (Option.any_eq_true _ _).mp needed
      rw [agreed first firstMember second secondMember name type other brought otherBrought]
      exact otherNeeded

theorem Agreed.perm (agreed : builder.Agreed accessors) (perm : permuted.Perm accessors) :
    builder.Agreed permuted := by
  intro first firstMember second secondMember
  exact agreed first (perm.mem_iff.mp firstMember) second (perm.mem_iff.mp secondMember)

theorem importsName_of_brings? {type : Identity}
    (brought : builder.brings? name accessor = some type) :
    builder.importsName (accessor :: rest) name = builder.policy.needsImport type := by
  rw [importsName, List.findSome?_cons, brought, Option.any_some]

theorem names_importsOf_eq_iff :
    (builder.importsOf permuted).map Identity.name =
        (builder.importsOf accessors).map Identity.name ↔
      ∀ name, builder.importsName permuted name = builder.importsName accessors name := by
  have decided : builder.importsOf permuted = builder.importsOf accessors ↔
      ∀ name, builder.importsName permuted name = builder.importsName accessors name := by
    simp only [importsOf_eq_iff, mem_names_importsOf_iff, ← Bool.eq_iff_iff]
  rw [← decided]
  constructor
  · intro same
    rw [importsOf_eq_iff]
    intro name
    rw [same]
  · exact congrArg _

theorem names_importsOf_perm_iff :
    (∀ permuted, permuted.Perm accessors →
      (builder.importsOf permuted).map Identity.name =
        (builder.importsOf accessors).map Identity.name) ↔ builder.Agreed accessors := by
  simp only [names_importsOf_eq_iff]
  constructor
  · intro same first firstMember second secondMember name i j broughtI broughtJ
    -- Each of the two decides for the name when it is put first.
    have decides {accessor : Accessor} {type : Identity} (member : accessor ∈ accessors)
        (brought : builder.brings? name accessor = some type) :
        builder.policy.needsImport type = builder.importsName accessors name := by
      obtain ⟨before, after, rfl⟩ := List.append_of_mem member
      rw [← same _ List.perm_middle.symm name, importsName_of_brings? brought]
    rw [decides firstMember broughtI, decides secondMember broughtJ]
  · intro agreed permuted perm name
    rw [agreed.importsName_eq, (agreed.perm perm).importsName_eq]
    exact perm.any_eq

theorem agreed_of_consistent (consistent : Consistent accessors) : builder.Agreed accessors := by
  intro first firstMember second secondMember name i j broughtI broughtJ
  obtain ⟨candidateI, rfl⟩ := of_brings?_eq_some broughtI
  obtain ⟨candidateJ, same⟩ := of_brings?_eq_some broughtJ
  apply Policy.needsImport_congr same.symm
  exact consistent first firstMember second secondMember i j
    (mentions_of_mem_candidates candidateI) (mentions_of_mem_candidates candidateJ) same.symm

/-- Where no two well-formed accessors have one property name, a build of the accessors in
another order has the same properties, and its reports are the same in another order. The
imported names are the same in every order exactly if accessors that bring in one name
agree whether it needs an import; they do where identities of one name are marked alike. -/
theorem build_perm_iff (builder : Builder) (subject : Identity) (accessors : List Accessor) :
    ∃ built, (builder.build subject (.ofAccessors accessors)).outcome = .ok built ∧
      (builder.Unshared accessors → ∀ permuted, permuted.Perm accessors → ∃ other,
        (builder.build subject (.ofAccessors permuted)).outcome = .ok other ∧
          other.description.properties = built.description.properties ∧
          other.diagnostics.Perm built.diagnostics ∧
          other.warnings.Perm built.warnings ∧ other.errors.Perm built.errors) ∧
      ((∀ permuted, permuted.Perm accessors → ∃ other,
          (builder.build subject (.ofAccessors permuted)).outcome = .ok other ∧
            other.description.imports.map Identity.name =
              built.description.imports.map Identity.name) ↔ builder.Agreed accessors) ∧
      (Consistent accessors → builder.Agreed accessors) := by
  refine ⟨_, builder.build_ofAccessors subject accessors, ?_, ?_, agreed_of_consistent⟩
  · intro unshared permuted perm
    have reports := diagnosticsOf_perm unshared perm
    exact ⟨_, builder.build_ofAccessors subject permuted, propertiesOf_perm unshared perm,
      reports, reports.filter _, reports.filter _⟩
  · rw [← names_importsOf_perm_iff]
    constructor
    · intro same permuted perm
      obtain ⟨other, built, names⟩ := same permuted perm
      rw [build_ofAccessors] at built
      obtain rfl := Except.ok.inj built
      exact names
    · intro same permuted perm
      exact ⟨_, builder.build_ofAccessors subject permuted, same permuted perm⟩

/-- A malformed getter has the name of another one, and a type is both an element and a
failure. -/
def rigging : List Accessor :=
  [⟨"getSails", .generic (.named "java.util.List") [.scalar (.named "acme.Sail")],
      [.named "acme.Torn"], none⟩,
   ⟨"fetchSails", .generic (.named "java.util.Set") [], [.named "acme.Lost"], some "sails"⟩,
   ⟨"getYards", .array (.typeVariable "T"), [], none⟩,
   ⟨"isTorn", .scalar (.named "acme.Torn"), [.named "acme.Sail"], none⟩]

theorem build_perm_iff_rigging :
    Unshared {} rigging ∧ Consistent rigging ∧ rigging.reverse.Perm rigging ∧ ∃ built other,
      (build {} (.named "acme.Ship") (.ofAccessors rigging)).outcome = .ok built ∧
      (build {} (.named "acme.Ship") (.ofAccessors rigging.reverse)).outcome = .ok other ∧
      other.description.properties = built.description.properties ∧
      other.diagnostics.Perm built.diagnostics ∧
      other.description.imports.map Identity.name =
        built.description.imports.map Identity.name := by
  have unshared : Unshared {} rigging := by decide +kernel
  have consistent : Consistent rigging := by decide
  have perm : rigging.reverse.Perm rigging := List.reverse_perm rigging
  obtain ⟨built, outcome, described, imported, agreed⟩ :=
    build_perm_iff {} (.named "acme.Ship") rigging
  obtain ⟨other, otherOutcome, properties, reports, -⟩ := described unshared _ perm
  obtain ⟨same, sameOutcome, names⟩ := imported.mpr (agreed consistent) _ perm
  obtain rfl := Except.ok.inj (otherOutcome.symm.trans sameOutcome)
  exact ⟨unshared, consistent, perm, built, other, outcome, otherOutcome, properties, reports,
    names⟩

/-- Two getters of one type, which the second one marks as primitive. -/
def timbers : List Accessor :=
  [⟨"getHull", .scalar (.named "acme.Timber"), [], none⟩,
   ⟨"getMast", .scalar (.plain "acme.Timber" true), [], none⟩]

/-- The getters share no name, and yet the type is imported in one order only. -/
theorem build_timbers_depends_on_order :
    Unshared {} timbers ∧ timbers.reverse.Perm timbers ∧ ∃ built other,
      (build {} (.named "acme.Ship") (.ofAccessors timbers)).outcome = .ok built ∧
      (build {} (.named "acme.Ship") (.ofAccessors timbers.reverse)).outcome = .ok other ∧
      "acme.Timber" ∈ built.description.imports.map Identity.name ∧
      "acme.Timber" ∉ other.description.imports.map Identity.name := by
  have imported : "acme.Timber" ∈ (importsOf {} timbers).map Identity.name :=
    mem_names_importsOf_iff.mpr (by decide +kernel)
  have absent : "acme.Timber" ∉ (importsOf {} timbers.reverse).map Identity.name :=
    mt mem_names_importsOf_iff.mp (by decide +kernel)
  exact ⟨by decide +kernel, List.reverse_perm timbers, _, _, build_ofAccessors _ _ _,
    build_ofAccessors _ _ _, imported, absent⟩

end Builder
end ClassProfile
