import ClassProfile.Proofs.Description
import ClassProfile.Proofs.Schema.Identity
import ClassProfile.Schema.Description

/-! Descriptions read from records. A record whose fields are each in order gives the parts
of a description, and is read as whatever these parts make. Its types have been examined,
so a description that is read is valid. -/
namespace ClassProfile

namespace Schema

/-- What is found in a record for a list that may be left out, and the values it holds. -/
inductive Lists (read : Json → Checked α) : Option Json → List α → Prop where
  | absent : Lists read none []
  | listed (each : List.Forall₂ (fun item value => read item = .ok value) items values) :
      Lists read (some (.array items)) values

variable {json : Json} {key : String} {read : Json → Checked α} {values : List α}

theorem Lists.exists_item {found : Option Json} (lists : Lists read found values) {value : α}
    (member : value ∈ values) : ∃ item, read item = .ok value := by
  cases lists with
  | absent => contradiction
  | listed each =>
    obtain ⟨item, -, read⟩ := exists_item_of_mem each member
    exact ⟨item, read⟩

/-- What is made of a list is made of the values it holds, and of no values if it is left out. -/
theorem Lists.defaulted_eq (finish : Checked (List α) → Checked (List β))
    (empty : finish (.ok []) = .ok []) (lists : Lists read (json.field? key) values) :
    defaulted key [] json (fun part _ => finish (each part fun item _ => read item)) =
      under (.field key) (finish (.ok values)) := by
  generalize found : json.field? key = field at lists
  cases lists with
  | absent => rw [defaulted_of_none found, empty, under]
  | listed each => rw [defaulted_of_some found, each_eq_ok_iff.mpr ⟨_, rfl, each⟩]

theorem exists_lists (finish : Checked (List α) → Checked (List β))
    (strict : ∀ issues, finish (.error issues) = .error issues) {result : List β}
    (passed : defaulted key [] json (fun part _ => finish (each part fun item _ => read item)) =
      .ok result) : ∃ values, Lists read (json.field? key) values := by
  cases found : json.field? key with
  | none => exact ⟨[], .absent⟩
  | some part =>
    rw [defaulted_of_some found, under_eq_ok_iff] at passed
    cases listed : each part fun item _ => read item with
    | error issues =>
      rw [listed, strict] at passed
      contradiction
    | ok values =>
      obtain ⟨items, rfl, each⟩ := each_eq_ok_iff.mp listed
      exact ⟨values, .listed each⟩

end Schema

open Schema

theorem TypeDescription.valid_of_examined {given type : TypeDescription}
    (passed : given.examined = .ok type) : type.Valid := by
  unfold examined at passed
  split at passed
  · next checked found =>
    obtain rfl := Except.ok.inj passed
    obtain ⟨valid, rfl⟩ := valid_of_checked found
    exact valid
  · contradiction

theorem TypeDescription.valid_of_ofJson {json : Json} {type : TypeDescription}
    (read : ofJson json = .ok type) : type.Valid := by
  obtain ⟨given, -, passed⟩ := bind_eq_ok_iff.mp read
  exact valid_of_examined passed

theorem TypeDescription.ofJson_toJson {type : TypeDescription} (valid : type.Valid) :
    ofJson type.toJson = .ok type := by
  rw [toJson, ofJson, record, required_of_some rfl, defaulted_of_some rfl, defaulted_of_some rfl,
    defaulted_of_some rfl, defaulted_of_some rfl, Identity.ofJson_toJson, Identity.nullable_toJson]
  change examined type = _
  rw [examined, checked_of_valid valid]

theorem Property.ofJson_toJson {property : Property} (valid : property.type.Valid) :
    ofJson property.toJson = .ok property := by
  rw [toJson, ofJson, record, required_of_some rfl, required_of_some rfl, defaulted_of_some rfl,
    TypeDescription.ofJson_toJson valid, each_map_eq_ok fun failure _ => failure.ofJson_toJson]
  rfl

theorem Property.valid_of_ofJson {json : Json} {property : Property}
    (read : ofJson json = .ok property) : property.type.Valid := by
  obtain ⟨-, whole⟩ := record_eq_ok_iff.mp read
  obtain ⟨_, failures, typed, -, same⟩ := also_eq_ok_iff.mp whole
  obtain ⟨_, type, named, typeFound, rfl⟩ := also_eq_ok_iff.mp typed
  obtain ⟨_, name, made, -, rfl⟩ := also_eq_ok_iff.mp named
  obtain rfl := Except.ok.inj made
  obtain rfl := same
  obtain ⟨part, -, typeRead⟩ := required_eq_ok_iff.mp typeFound
  exact TypeDescription.valid_of_ofJson typeRead

namespace ClassDescription

/-- The record gives these parts of a description, each of its fields being in order. -/
structure Gives (json : Json) (subject : Identity) (properties : List Property)
    (imports : List Identity) : Prop where
  subject : ∃ part, json.field? "subject_type" = some part ∧ Identity.ofJson part = .ok subject
  properties : Lists Property.ofJson (json.field? "properties") properties
  imports : Lists Identity.ofJson (json.field? "required_imports") imports

/-- The issues of a record whose properties share names. -/
def repeatedIssues (fault : RepeatedNames) : List Issue :=
  [⟨[.field "properties"], .repeatedNames fault⟩]

variable {json : Json} {subject : Identity} {properties : List Property}
  {imports : List Identity} {description : ClassDescription}

/-- The record of these parts, in this order. -/
def recordOf (subject : Identity) (properties : List Property) (imports : List Identity) : Json :=
  .object [("subject_type", subject.toJson), ("properties", .array (properties.map Property.toJson)),
    ("required_imports", .array (imports.map Identity.toJson))]

/-- Any lists may be given, in any order and with any repetitions. -/
theorem gives_recordOf (types : ∀ property ∈ properties, property.type.Valid) :
    Gives (recordOf subject properties imports) subject properties imports := by
  refine ⟨⟨subject.toJson, rfl, subject.ofJson_toJson⟩, .listed ?_, .listed ?_⟩
  · exact forall₂_map_iff.mpr fun property member => Property.ofJson_toJson (types property member)
  · exact forall₂_map_iff.mpr fun identity _ => identity.ofJson_toJson

/-- A record is read as the description that its parts make, or refused as they are. -/
theorem Gives.ofJson_eq (gives : Gives json subject properties imports) :
    ofJson json = (ofParts subject properties imports).mapError repeatedIssues := by
  obtain ⟨part, found, read⟩ := gives.subject
  cases json with
  | object fields =>
    have propertiesRead := gives.properties.defaulted_eq (· >>= examinedProperties) (by
      rw [bind_eq_ok_iff]
      exact ⟨[], rfl, by rw [examinedProperties, arrangedProperties_nil]⟩)
    have importsRead := gives.imports.defaulted_eq (·.map arrangedImports) (by
      rw [Except.map, arrangedImports_nil])
    rw [ofJson, record, required_of_some found, propertiesRead, importsRead, read]
    change also (.ok _) (also (under _ (examinedProperties properties)) _) = _
    rw [ofParts, examinedProperties]
    cases arrangedProperties properties with
    | error fault => rfl
    | ok arranged => rfl
  | _ => contradiction

theorem exists_gives (read : ofJson json = .ok description) :
    ∃ subject properties imports, Gives json subject properties imports := by
  obtain ⟨-, whole⟩ := record_eq_ok_iff.mp read
  obtain ⟨_, _, described, importsRead, -⟩ := also_eq_ok_iff.mp whole
  obtain ⟨_, _, named, propertiesRead, -⟩ := also_eq_ok_iff.mp described
  obtain ⟨_, subject, -, subjectRead, -⟩ := also_eq_ok_iff.mp named
  obtain ⟨imports, importsListed⟩ :=
    exists_lists (·.map arrangedImports) (fun _ => rfl) importsRead
  obtain ⟨properties, propertiesListed⟩ :=
    exists_lists (· >>= examinedProperties) (fun _ => rfl) propertiesRead
  exact ⟨subject, properties, imports, required_eq_ok_iff.mp subjectRead, propertiesListed,
    importsListed⟩

theorem valid_of_ofJson (read : ofJson json = .ok description) : description.Valid := by
  obtain ⟨subject, properties, imports, gives⟩ := exists_gives read
  have types : ∀ property ∈ properties, property.type.Valid := by
    intro property member
    obtain ⟨item, propertyRead⟩ := gives.properties.exists_item member
    exact Property.valid_of_ofJson propertyRead
  rw [gives.ofJson_eq, mapError_eq_ok_iff] at read
  exact valid_of_ofParts types read

end ClassDescription
end ClassProfile
