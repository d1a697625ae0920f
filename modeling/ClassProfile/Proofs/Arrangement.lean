import ClassProfile.Proofs.Artifact.Admission
import ClassProfile.Proofs.Builder.Outcome

/-! What every description keeps to, wherever it comes from. Building, reading a record and
reading an artifact all put parts in order in one way: properties that share a name are
refused with the names that are shared, and of other parts nothing is lost or added. So a
property is found by its name exactly if it was given. -/
namespace ClassProfile
namespace ClassDescription

/-- The package hands out the description. -/
inductive Obtained : ClassDescription → Prop where
  | made {owner : Identity} {given : List Property} {needed : List Identity}
      (types : ∀ property ∈ given, property.type.Valid)
      (arranged : ofParts owner given needed = .ok description) : Obtained description
  | built {builder : Builder} {owner : Identity} {supplied : Supplied} {result : Built}
      (built : (builder.build owner supplied).outcome = .ok result) :
      Obtained result.description
  | validated {json : Json} (read : ofJson json = .ok description) : Obtained description
  | deserialized {text : String} (read : Artifact.deserialize text = .ok description) :
      Obtained description

/-- The names of a refusal are those that several of the properties have, in order. -/
structure Refuses (properties : List Property) (fault : RepeatedNames) : Prop where
  names : ∀ name, name ∈ fault.names ↔ 1 < (properties.map Property.name).count name
  ascending : Ascending id fault.names

/-- The description has just the given properties, and of each name that is given an import
the first identity. A property is found by its name if it is given, and else none is. -/
structure Arranges (subject : Identity) (properties : List Property) (imports : List Identity)
    (description : ClassDescription) : Prop where
  subject : description.subject = subject
  perm : description.properties.Perm properties
  names : ∀ name,
    name ∈ description.imports.map Identity.name ↔ name ∈ imports.map Identity.name
  first : ∀ identity, identity ∈ description.imports ↔
    imports.find? (fun other => other.name == identity.name) = some identity
  found : ∀ name property, description.property name = .ok property ↔
    property ∈ properties ∧ property.name = name
  missing : ∀ name fault, description.property name = .error fault ↔
    fault = ⟨name⟩ ∧ name ∉ properties.map Property.name

variable {subject : Identity} {properties : List Property} {imports : List Identity}
  {description : ClassDescription}

theorem valid_of_built {builder : Builder} {supplied : Supplied} {result : Built}
    (built : (builder.build subject supplied).outcome = .ok result) :
    result.description.Valid := by
  obtain ⟨accessors, rfl, -⟩ | ⟨breach, refused, -, -⟩ := supplied.cases_accessors
  · rw [Builder.build_ofAccessors] at built
    obtain rfl := Except.ok.inj built
    exact builder.valid_described subject accessors
  · rw [Builder.build_of_refused refused] at built
    contradiction

theorem Obtained.valid (obtained : Obtained description) : description.Valid := by
  cases obtained with
  | made types arranged => exact valid_of_ofParts types arranged
  | built built => exact valid_of_built built
  | validated read => exact valid_of_ofJson read
  | deserialized read => exact Artifact.valid_of_deserialize read

theorem ofParts_eq_error_iff {fault : RepeatedNames} :
    ofParts subject properties imports = .error fault ↔
      fault = ⟨repeated (properties.map Property.name)⟩ ∧
        ¬(properties.map Property.name).Nodup := by
  rw [← repeated_eq_nil_iff, ofParts, arrangedProperties]
  split
  · next distinct => simp [distinct, bind, Except.bind, pure, Except.pure]
  · next repeats =>
    simp only [bind, Except.bind, Except.error.injEq]
    exact ⟨fun same => ⟨same.symm, repeats⟩, fun refused => refused.1.symm⟩

theorem refuses_of_ofParts {fault : RepeatedNames}
    (failed : ofParts subject properties imports = .error fault) : Refuses properties fault := by
  obtain ⟨rfl, -⟩ := ofParts_eq_error_iff.mp failed
  exact ⟨fun name => mem_repeated_iff, sortedBy_ascending (distinctBy_nodup _ _)⟩

theorem mem_names_arrangedImports_iff {name : String} :
    name ∈ (arrangedImports imports).map Identity.name ↔ name ∈ imports.map Identity.name := by
  simp only [arrangedImports, List.mem_map, mem_sortedBy]
  constructor
  · rintro ⟨identity, kept, named⟩
    exact ⟨identity, mem_of_mem_distinctBy kept, named⟩
  · rintro ⟨identity, member, named⟩
    obtain ⟨kept, keptMember, same⟩ := exists_mem_distinctBy Identity.name member
    exact ⟨kept, keptMember, same.trans named⟩

theorem property_eq_error_iff {name : String} {fault : MissingProperty} :
    description.property name = .error fault ↔
      fault = ⟨name⟩ ∧ name ∉ description.properties.map Property.name := by
  rw [← find?_key_eq_none_iff, property, property?]
  cases description.properties.find? fun property => property.name == name with
  | some found => simp
  | none => simp [eq_comm]

theorem property_eq_ok_iff (nodup : (description.properties.map Property.name).Nodup)
    {name : String} {found : Property} :
    description.property name = .ok found ↔ found ∈ description.properties ∧ found.name = name := by
  rw [← find?_key_eq_some_iff nodup, property, property?]
  cases description.properties.find? fun property => property.name == name with
  | some other => simp
  | none => simp

theorem arranges_of_ofParts (arranged : ofParts subject properties imports = .ok description) :
    Arranges subject properties imports description := by
  obtain ⟨nodup, rfl⟩ := ofParts_eq_ok_iff.mp arranged
  have perm := sortedBy_perm Property.name properties
  have names := perm.map Property.name
  refine ⟨rfl, perm, fun name => mem_names_arrangedImports_iff, ?_, ?_, ?_⟩
  · intro identity
    rw [← mem_distinctBy_iff, arrangedImports, mem_sortedBy]
  · intro name property
    rw [property_eq_ok_iff (names.nodup_iff.mpr nodup), perm.mem_iff]
  · intro name fault
    rw [property_eq_error_iff, names.mem_iff]

/-- A record that is read gives parts, and these are arranged. -/
theorem exists_arranges_of_ofJson {json : Json} (read : ofJson json = .ok description) :
    ∃ subject properties imports, Gives json subject properties imports ∧
      Arranges subject properties imports description := by
  obtain ⟨subject, properties, imports, gives⟩ := exists_gives read
  rw [gives.ofJson_eq, mapError_eq_ok_iff] at read
  exact ⟨subject, properties, imports, gives, arranges_of_ofParts read⟩

/-- So does an artifact that is read. -/
theorem exists_arranges_of_deserialize {text : String}
    (read : Artifact.deserialize text = .ok description) :
    ∃ json subject properties imports, Json.read text = .ok json ∧
      Artifact.Gives json subject properties imports ∧
      Arranges subject properties imports description := by
  obtain ⟨json, found, held⟩ := Artifact.exists_descriptionOf_of_deserialize read
  obtain ⟨subject, properties, imports, gives⟩ := Artifact.exists_gives held
  rw [gives.descriptionOf_eq, mapError_eq_ok_iff] at held
  exact ⟨json, subject, properties, imports, found, gives, arranges_of_ofParts held⟩

/-- Every description that is handed out is valid, and one that is read is arranged from what its
record or artifact gives. Records and artifacts whose fields are in order come to what their
parts make; parts are refused exactly if two properties share a name, and then with the names
that are shared, and else are arranged. A text that is not read as JSON is refused for the reason.
Nothing is said of a text with half of a surrogate pair alone (`Json.Failure.unpaired`). -/
theorem obtained_valid_and_arranged :
    (∀ description, Obtained description → description.Valid) ∧
    (∀ json description, ofJson json = .ok description →
      ∃ subject properties imports, Gives json subject properties imports ∧
        Arranges subject properties imports description) ∧
    (∀ text description, Artifact.deserialize text = .ok description →
      ∃ json subject properties imports, Json.read text = .ok json ∧
        Artifact.Gives json subject properties imports ∧
        Arranges subject properties imports description) ∧
    (∀ text failure, Json.read text = .error failure → failure ≠ .unpaired →
      Artifact.deserialize text = .error (.unreadable failure)) ∧
    ∀ subject properties imports,
      (∀ json, Gives json subject properties imports →
        ofJson json = (ofParts subject properties imports).mapError repeatedIssues) ∧
      (∀ text json, Json.read text = .ok json → Artifact.checkVersion json = .ok () →
        Artifact.Gives json subject properties imports →
        Artifact.deserialize text = (ofParts subject properties imports).mapError
          fun fault => .invalid (repeatedIssues fault)) ∧
      ((∃ fault, ofParts subject properties imports = .error fault) ↔
        ¬(properties.map Property.name).Nodup) ∧
      (∀ fault, ofParts subject properties imports = .error fault → Refuses properties fault) ∧
      ∀ description, ofParts subject properties imports = .ok description →
        Arranges subject properties imports description := by
  refine ⟨fun _ obtained => obtained.valid, fun _ _ => exists_arranges_of_ofJson,
    fun _ _ => exists_arranges_of_deserialize,
    fun _ _ failed _ => Artifact.deserialize_of_failure failed, ?_⟩
  intro subject properties imports
  refine ⟨fun _ gives => gives.ofJson_eq, ?_, ?_, fun _ => refuses_of_ofParts,
    fun _ => arranges_of_ofParts⟩
  · intro text json read version gives
    rw [Artifact.deserialize_of_read read version, gives.descriptionOf_eq]
  · constructor
    · rintro ⟨fault, failed⟩
      exact (ofParts_eq_error_iff.mp failed).2
    · intro shared
      exact ⟨_, ofParts_eq_error_iff.mpr ⟨rfl, shared⟩⟩

/-- Whole numbers of these names. -/
def gauges (names : List String) : List Property :=
  names.map fun name => ⟨name, { base := .named "int" }, []⟩

theorem obtained_valid_and_arranged_gauges :
    (∃ description,
      ofJson (recordOf (.named "acme.Ship") (gauges ["depth", "beam"])
        [.named "acme.Yard", .named "acme.Crew", .plain "acme.Yard" true]) = .ok description ∧
      description.Valid ∧
      Arranges (.named "acme.Ship") (gauges ["depth", "beam"])
        [.named "acme.Yard", .named "acme.Crew", .plain "acme.Yard" true] description) ∧
    ∃ fault,
      ofJson (recordOf (.named "acme.Ship") (gauges ["depth", "beam", "depth"]) []) =
        .error (repeatedIssues fault) ∧
      Refuses (gauges ["depth", "beam", "depth"]) fault := by
  obtain ⟨valid, -, -, -, arranged⟩ := obtained_valid_and_arranged
  constructor
  · obtain ⟨read, -, fails, -, arranges⟩ := arranged (.named "acme.Ship")
      (gauges ["depth", "beam"]) [.named "acme.Yard", .named "acme.Crew", .plain "acme.Yard" true]
    have given := read _ (gives_recordOf (by decide))
    cases made : ofParts (.named "acme.Ship") (gauges ["depth", "beam"])
      [.named "acme.Yard", .named "acme.Crew", .plain "acme.Yard" true] with
    | error fault => exact absurd (by decide) (fails.mp ⟨fault, made⟩)
    | ok description =>
      rw [made] at given
      exact ⟨description, given, valid _ (.validated given), arranges _ made⟩
  · obtain ⟨read, -, fails, refuses, -⟩ := arranged (.named "acme.Ship")
      (gauges ["depth", "beam", "depth"]) []
    obtain ⟨fault, failed⟩ := fails.mpr (by decide)
    have given := read _ (gives_recordOf (by decide))
    rw [failed] at given
    exact ⟨fault, given, refuses fault failed⟩

end ClassDescription
end ClassProfile
