import ClassProfile.Artifact.Reading
import ClassProfile.Proofs.Schema.Description

/-! What an artifact is read as. A record with all its parts in order is read as the
description that these make, or refused as they are. A type that is read has passed the
checks of the model, and so every description that an artifact holds is valid. -/
namespace ClassProfile
namespace Artifact

theorem valid_eq_ok_iff {checked : Schema.Checked α} {value : α} :
    valid checked = .ok value ↔ checked = .ok value := by
  cases checked with
  | error issues => simp [valid]
  | ok found => simp [valid]

variable {json : Json} {text : String} {subject : Identity} {properties : List Property}
  {imports : List Identity}

theorem valid_of_typeOf {type : TypeDescription} (read : typeOf json = .ok type) : type.Valid := by
  rw [typeOf] at read
  obtain ⟨fields, -, read⟩ := bind_eq_ok_iff.mp read
  obtain ⟨part, -, read⟩ := bind_eq_ok_iff.mp read
  obtain ⟨base, -, read⟩ := bind_eq_ok_iff.mp read
  -- The element may be left out or be null; what is examined in the end is the same.
  split at read
  all_goals
    obtain ⟨element?, -, read⟩ := bind_eq_ok_iff.mp read
    obtain ⟨given, -, examined⟩ := bind_eq_ok_iff.mp read
    exact TypeDescription.valid_of_examined (valid_eq_ok_iff.mp examined)

theorem valid_of_propertyOf {property : Property} (read : propertyOf json = .ok property) :
    property.type.Valid := by
  rw [propertyOf] at read
  obtain ⟨name, -, read⟩ := bind_eq_ok_iff.mp read
  obtain ⟨part, -, read⟩ := bind_eq_ok_iff.mp read
  obtain ⟨type, typeRead, read⟩ := bind_eq_ok_iff.mp read
  obtain ⟨items, -, read⟩ := bind_eq_ok_iff.mp read
  obtain ⟨failures, -, read⟩ := bind_eq_ok_iff.mp read
  obtain ⟨named, -, rfl⟩ := map_eq_ok_iff.mp (valid_eq_ok_iff.mp read)
  exact valid_of_typeOf typeRead

/-- What is read of the items of a list, which a record may leave out. -/
def ReadsList (read : Json → Except Fault α) (key : String) (json : Json) (values : List α) :
    Prop :=
  ∃ items, itemsOf ((json.field? key).getD (.array [])) = .ok items ∧
    items.mapM read = .ok values

/-- The record gives these parts of a description, each of its fields being in order. -/
structure Gives (json : Json) (subject : Identity) (properties : List Property)
    (imports : List Identity) : Prop where
  subject : ∃ part, fieldOf "subject" json = .ok part ∧ identityOf part = .ok subject
  properties : ReadsList propertyOf "properties" json properties
  imports : ReadsList identityOf "imports" json imports

/-- A record is read as the description that its parts make, or refused as they are. -/
theorem Gives.descriptionOf_eq (gives : Gives json subject properties imports) :
    descriptionOf json = (ClassDescription.ofParts subject properties imports).mapError
      fun fault => .invalid (ClassDescription.repeatedIssues fault) := by
  obtain ⟨⟨part, found, subjectRead⟩, ⟨propertyItems, propertiesFound, propertiesRead⟩,
    ⟨importItems, importsFound, importsRead⟩⟩ := gives
  simp only [descriptionOf, found, subjectRead, propertiesFound, propertiesRead, importsFound,
    importsRead, bind, Except.bind]
  cases ClassDescription.ofParts subject properties imports with
  | error fault => rfl
  | ok description => rfl

theorem exists_gives {description : ClassDescription}
    (read : descriptionOf json = .ok description) :
    ∃ subject properties imports, Gives json subject properties imports := by
  rw [descriptionOf] at read
  obtain ⟨part, found, read⟩ := bind_eq_ok_iff.mp read
  obtain ⟨subject, subjectRead, read⟩ := bind_eq_ok_iff.mp read
  obtain ⟨propertyItems, propertiesFound, read⟩ := bind_eq_ok_iff.mp read
  obtain ⟨properties, propertiesRead, read⟩ := bind_eq_ok_iff.mp read
  obtain ⟨importItems, importsFound, read⟩ := bind_eq_ok_iff.mp read
  obtain ⟨imports, importsRead, -⟩ := bind_eq_ok_iff.mp read
  exact ⟨subject, properties, imports, ⟨part, found, subjectRead⟩,
    ⟨propertyItems, propertiesFound, propertiesRead⟩, ⟨importItems, importsFound, importsRead⟩⟩

theorem valid_of_descriptionOf {description : ClassDescription}
    (read : descriptionOf json = .ok description) : description.Valid := by
  obtain ⟨subject, properties, imports, gives⟩ := exists_gives read
  obtain ⟨items, -, propertiesRead⟩ := gives.properties
  have types : ∀ property ∈ properties, property.type.Valid := by
    intro property member
    obtain ⟨item, -, propertyRead⟩ := exists_item_of_mem (mapM_eq_ok_iff.mp propertiesRead) member
    exact valid_of_propertyOf propertyRead
  rw [gives.descriptionOf_eq, mapError_eq_ok_iff] at read
  exact ClassDescription.valid_of_ofParts types read

theorem deserialize_of_read (read : Json.read text = .ok json)
    (version : checkVersion json = .ok ()) : deserialize text = descriptionOf json := by
  simp only [deserialize, read, version, bind, Except.bind]

theorem deserialize_of_failure {failure : Json.Failure} (failed : Json.read text = .error failure) :
    deserialize text = .error (.unreadable failure) := by
  simp only [deserialize, failed]

theorem exists_descriptionOf_of_deserialize {description : ClassDescription}
    (read : deserialize text = .ok description) :
    ∃ json, Json.read text = .ok json ∧ descriptionOf json = .ok description := by
  rw [deserialize] at read
  split at read
  · contradiction
  · next json found =>
    obtain ⟨_, -, held⟩ := bind_eq_ok_iff.mp read
    exact ⟨json, found, held⟩

theorem valid_of_deserialize {description : ClassDescription}
    (read : deserialize text = .ok description) : description.Valid := by
  obtain ⟨_, -, held⟩ := exists_descriptionOf_of_deserialize read
  exact valid_of_descriptionOf held

end Artifact
end ClassProfile
