import ClassProfile.Proofs.Builder.Imports
import ClassProfile.Proofs.Builder.Selection

/-! What a build comes to. Accessors supplied as the contract asks for them always
give a description. Its parts are what the two passes give: no type that the checks
of the model refuse is ever resolved, and no name is described twice. Nothing but a
breach of the contract makes a build fail, and then nothing has been recorded. -/
namespace ClassProfile
namespace Builder

theorem valid_described (builder : Builder) (subject : Identity) (accessors : List Accessor) :
    ClassDescription.Valid
      ⟨subject, builder.propertiesOf accessors, builder.importsOf accessors⟩ := by
  refine ⟨?_, builder.propertiesOf_ascending accessors, builder.importsOf_ascending accessors⟩
  intro property member
  obtain ⟨accessor, -, resolution, resolved, rfl⟩ := describes_of_mem_propertiesOf member
  obtain ⟨part, -, settles⟩ := Policy.settles_of_resolve resolved
  exact settles.valid

/-- A build of accessors has the outcome of its two passes, unchanged. -/
theorem build_ofAccessors (builder : Builder) (subject : Identity) (accessors : List Accessor) :
    (builder.build subject (.ofAccessors accessors)).outcome =
      .ok ⟨⟨subject, builder.propertiesOf accessors, builder.importsOf accessors⟩,
        builder.diagnosticsOf accessors⟩ := by
  have valid := builder.valid_described subject accessors
  simp only [build, describeProperties_ofAccessors, collectImports_ofAccessors, valid.ofParts_eq]

theorem log_build_ofAccessors (builder : Builder) (subject : Identity)
    (accessors : List Accessor) :
    (builder.build subject (.ofAccessors accessors)).log = builder.logOf accessors ++
      [.described subject.name (builder.propertiesOf accessors).length
        (builder.importsOf accessors).length (builder.diagnosticsOf accessors).length] := by
  have valid := builder.valid_described subject accessors
  simp only [build, describeProperties_ofAccessors, collectImports_ofAccessors, valid.ofParts_eq,
    List.append_nil]

theorem build_of_refused {builder : Builder} {subject : Identity} {supplied : Supplied}
    {breach : ContractFault} (refused : supplied.accessors = .error breach) :
    builder.build subject supplied = ⟨.error (.contract breach), []⟩ := by
  simp only [build, describeProperties, refused]

/-- A build fails exactly if the contract is breached. Then the fault is that breach, its
words name the sort of what is supplied or the first entry that is no accessor, and the
log is empty. Otherwise the result has what the two passes give, unchanged. -/
theorem build_fails_iff_breaches (builder : Builder) (subject : Identity) (supplied : Supplied) :
    ((∃ fault, (builder.build subject supplied).outcome = .error fault) ↔ supplied.Breaches) ∧
    (∀ fault, (builder.build subject supplied).outcome = .error fault →
      (builder.build subject supplied).log = [] ∧
        ∃ breach, fault = .contract breach ∧ supplied.Refused breach.message) ∧
    (∀ built, (builder.build subject supplied).outcome = .ok built →
      ∃ described collected,
        (builder.describeProperties supplied).outcome = .ok described ∧
        (builder.collectImports supplied).outcome = .ok collected ∧
        built.description = ⟨subject, described.properties, collected.imports⟩) := by
  obtain ⟨accessors, rfl, kept⟩ | ⟨breach, refused, words, breaches⟩ := supplied.cases_accessors
  · rw [build_ofAccessors, describeProperties_ofAccessors, collectImports_ofAccessors]
    refine ⟨⟨fun ⟨_, failed⟩ => ?_, fun breaches => absurd breaches kept⟩, ?_, ?_⟩
    · contradiction
    · intro fault failed
      contradiction
    · intro built done
      obtain rfl := Except.ok.inj done
      exact ⟨_, _, rfl, rfl, rfl⟩
  · rw [build_of_refused refused]
    refine ⟨⟨fun _ => breaches, fun _ => ⟨_, rfl⟩⟩, ?_, ?_⟩
    · intro fault failed
      obtain rfl := Except.error.inj failed
      exact ⟨rfl, breach, rfl, words⟩
    · intro built done
      contradiction

/-- An accessor, and two entries that are none. -/
def manifest : Supplied :=
  .list [.accessor ⟨"getName", .scalar (.named "acme.Name"), [], none⟩, .foreign .text,
    .foreign (.object "set")]

theorem build_fails_manifest : ∃ breach : ContractFault,
    (build {} (.named "acme.Ship") manifest).outcome = .error (.contract breach) ∧
    (build {} (.named "acme.Ship") manifest).log = [] ∧
    manifest.Refused breach.message ∧
    breach.message = "accessors[1] must be an AccessorDescriptor, got str" := by
  have failed : (build {} (.named "acme.Ship") manifest).outcome =
      .error (.contract (.notAccessor 1 .text)) := rfl
  obtain ⟨-, refused, -⟩ := build_fails_iff_breaches {} (.named "acme.Ship") manifest
  obtain ⟨unrecorded, breach, same, words⟩ := refused _ failed
  obtain rfl := BuildFault.contract.inj same
  exact ⟨_, failed, unrecorded, words, by decide⟩

end Builder
end ClassProfile
