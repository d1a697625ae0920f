import ClassProfile.Artifact.Reading
import ClassProfile.Proofs.Description
import ClassProfile.Proofs.Json.KeyOrder

/-! Artifacts read back as what they were written from, with every mark and every
component in place, so no two descriptions share an artifact. What is read of a
record depends on the fields that are found in it alone, not on their order, and a
part that is left out for having its usual value is filled in with just that value. -/
namespace ClassProfile

namespace Artifact

open Json (Reordered ReadsAs mapM_of_reordered forall₂_readsAs)
open Json.Reordered (exists_of_rel leaf_of_rel list_of_rel)

/-- What is found in a record for a part that may be missing. -/
inductive Stands (read : Json → Except Fault α) : Option Json → Option α → Prop where
  | absent : Stands read none none
  | present : json ≠ .null → read json = .ok value → Stands read (some json) (some value)

/-- What is found in a record for a mark. -/
def mark (isSet : Bool) : Option Json := if isSet then some (.bool true) else none

@[simp] theorem lookup_markIf (key name : String) (isSet : Bool) :
    Json.lookup key (markIf name isSet) = if name = key then mark isSet else none := by
  cases isSet <;> simp [markIf, mark]

@[simp] theorem lookup_toList (key name : String) (write : α → Json) (part? : Option α) :
    Json.lookup key (part?.map fun part => (name, write part)).toList =
      if name = key then part?.map write else none := by
  cases part? <;> simp

theorem markOf_of_lookup {key : String} {fields : List (String × Json)} {isSet : Bool}
    (found : Json.lookup key fields = mark isSet) (field : String) :
    markOf key field fields = .ok isSet := by
  cases isSet <;> simp [markOf, found, mark, Schema.flag, Schema.under]

section
variable {fields : List (String × Json)}

theorem identityOf_of_fields (component? : Option Identity)
    (named : Json.lookup "name" fields = some (.string name))
    (primitive : Json.lookup "primitive" fields = mark isPrimitive)
    (component : Stands identityOf (Json.lookup "array_of" fields) component?) :
    identityOf (.object fields) = .ok (Identity.ofParts name isPrimitive component?) := by
  rw [identityOf]
  simp only [fieldOf, named, markOf_of_lookup primitive, Schema.text, Schema.under, Schema.also,
    Except.map, bind, Except.bind]
  generalize Json.lookup "array_of" fields = found at component
  cases component with
  | absent => rfl
  | @present json value notNull read =>
    cases json with
    | null => contradiction
    | _ => simp [read, valid]

theorem typeOf_of_fields (base : Json) {type : TypeDescription}
    (based : Json.lookup "base" fields = some base) (baseRead : identityOf base = .ok type.base)
    (array : Json.lookup "array" fields = mark type.isArray)
    (iterable : Json.lookup "iterable" fields = mark type.isIterable)
    (element : Stands identityOf (Json.lookup "element" fields) type.element?)
    (imprecise : Json.lookup "opaque" fields = mark type.isOpaque) (admitted : type.Valid) :
    typeOf (.object fields) = .ok type := by
  rw [typeOf]
  simp only [fieldsOf, fieldOf, based, baseRead, markOf_of_lookup array,
    markOf_of_lookup iterable, markOf_of_lookup imprecise, Schema.also,
    Except.map, bind, Except.bind]
  have examined : type.examined = .ok type := by
    rw [TypeDescription.examined, TypeDescription.checked_of_valid admitted]
  obtain ⟨base, isArray, isIterable, element?, isOpaque⟩ := type
  generalize Json.lookup "element" fields = found at element
  cases element with
  | absent => simp [valid, examined]
  | @present json value notNull read =>
    cases json with
    | null => contradiction
    | _ => simp [read, valid, examined]

theorem propertyOf_of_fields (type : Json) (failures : List Json) {property : Property}
    (named : Json.lookup "name" fields = some (.string property.name))
    (typed : Json.lookup "type" fields = some type) (typeRead : typeOf type = .ok property.type)
    (listed : (Json.lookup "failures" fields).getD (.array []) = .array failures)
    (failuresRead : failures.mapM identityOf = .ok property.failures) :
    propertyOf (.object fields) = .ok property := by
  rw [propertyOf]
  simp [fieldOf, named, typed, typeRead, Json.field?, listed, itemsOf, failuresRead, Schema.text,
    Schema.under, valid, Except.map, bind, Except.bind]

theorem descriptionOf_of_fields (subject : Json) (propertyItems importItems : List Json)
    {description : ClassDescription}
    (subjected : Json.lookup "subject" fields = some subject)
    (subjectRead : identityOf subject = .ok description.subject)
    (properties : (Json.lookup "properties" fields).getD (.array []) = .array propertyItems)
    (propertiesRead : propertyItems.mapM propertyOf = .ok readProperties)
    (imports : (Json.lookup "imports" fields).getD (.array []) = .array importItems)
    (importsRead : importItems.mapM identityOf = .ok readImports)
    (arranged : ClassDescription.ofParts description.subject readProperties readImports =
      .ok description) :
    descriptionOf (.object fields) = .ok description := by
  rw [descriptionOf]
  simp [fieldOf, subjected, subjectRead, Json.field?, properties, itemsOf, propertiesRead, imports,
    importsRead, arranged, bind, Except.bind]

end

theorem mark_of_rel {isSet : Bool} {found : Option Json}
    (rel : Option.Rel Reordered (mark isSet) found) : found = mark isSet := by
  cases isSet with
  | false =>
    cases rel
    rfl
  | true => exact leaf_of_rel rel trivial

theorem stands_of_rel {read : Json → Except Fault α} {write : α → Json} {part? : Option α}
    {found : Option Json} (notNull : ∀ part, write part ≠ .null)
    (back : ∀ part ∈ part?, ReadsAs read (write part) part)
    (rel : Option.Rel Reordered (part?.map write) found) : Stands read found part? := by
  cases part? with
  | none =>
    cases rel
    exact .absent
  | some part =>
    cases rel with
    | some reordered =>
      exact .present (mt reordered.null_iff.mp (notNull part)) (back part rfl _ reordered)

theorem identityRecord_ne_null (identity : Identity) : identityRecord identity ≠ .null := by
  cases identity <;> simp [identityRecord]

/-- An identity is read in any order of the keys, however deep its components go. -/
theorem readsAs_identityRecord (identity : Identity) :
    ReadsAs identityOf (identityRecord identity) identity := by
  induction identity with
  | plain name isPrimitive =>
    intro json reordered
    obtain ⟨moved, rfl, found⟩ := reordered.of_object (by cases isPrimitive <;> simp [markIf])
    apply identityOf_of_fields none
    · exact leaf_of_rel (by simpa using found "name") trivial
    · exact mark_of_rel (by simpa using found "primitive")
    · exact stands_of_rel identityRecord_ne_null (by simp) (by simpa using found "array_of")
  | ofArray name isPrimitive component ih =>
    intro json reordered
    obtain ⟨moved, rfl, found⟩ := reordered.of_object (by cases isPrimitive <;> simp [markIf])
    apply identityOf_of_fields (some component)
    · exact leaf_of_rel (by simpa using found "name") trivial
    · exact mark_of_rel (by simpa using found "primitive")
    · exact stands_of_rel identityRecord_ne_null (by simpa using ih)
        (by simpa using found "array_of")

theorem readsAs_typeRecord {type : TypeDescription} (valid : type.Valid) :
    ReadsAs typeOf (typeRecord type) type := by
  intro json reordered
  obtain ⟨moved, rfl, found⟩ := reordered.of_object (by
    cases type.isArray <;> cases type.isIterable <;> cases type.element? <;>
      cases type.isOpaque <;> simp [markIf])
  obtain ⟨base, based, baseReordered⟩ := exists_of_rel (identityRecord type.base)
    (by simpa using found "base")
  apply typeOf_of_fields base based
  · exact readsAs_identityRecord type.base base baseReordered
  · exact mark_of_rel (by simpa using found "array")
  · exact mark_of_rel (by simpa using found "iterable")
  · exact stands_of_rel identityRecord_ne_null (fun element _ => readsAs_identityRecord element)
      (by simpa using found "element")
  · exact mark_of_rel (by simpa using found "opaque")
  · exact valid

theorem readsAs_propertyRecord {property : Property} (valid : property.type.Valid) :
    ReadsAs propertyOf (propertyRecord property) property := by
  intro json reordered
  obtain ⟨moved, rfl, found⟩ := reordered.of_object (by split <;> simp)
  obtain ⟨type, typed, typeReordered⟩ := exists_of_rel (typeRecord property.type)
    (by have := found "type"; split at this <;> simpa using this)
  obtain ⟨failures, listed, failuresReordered⟩ := list_of_rel (found "failures")
    (property.failures.map identityRecord) (by
      split
      · next none => simp_all
      · simp)
  apply propertyOf_of_fields type failures
  · have named := found "name"
    split at named <;> exact leaf_of_rel (by simpa using named) trivial
  · exact typed
  · exact readsAs_typeRecord valid type typeReordered
  · exact listed
  · exact mapM_of_reordered (forall₂_readsAs fun failure _ => readsAs_identityRecord failure)
      failuresReordered

theorem descriptionOf_record {description : ClassDescription} (valid : description.Valid) :
    descriptionOf (record description) = .ok description := by
  rw [record]
  apply descriptionOf_of_fields (identityRecord description.subject)
    (description.properties.map propertyRecord) (description.imports.map identityRecord)
  · simp
  · exact readsAs_identityRecord description.subject _ .same
  · simp
  · exact mapM_map_eq_ok fun property member =>
      readsAs_propertyRecord (valid.types property member) _ .same
  · simp
  · exact mapM_map_eq_ok fun identity _ => readsAs_identityRecord identity _ .same
  · exact valid.ofParts_eq

theorem numberless_markIf (key : String) (isSet : Bool) :
    ∀ field ∈ markIf key isSet, field.2.Numberless := by
  intro field member
  unfold markIf at member
  split at member
  · obtain rfl := List.mem_singleton.mp member
    exact Json.numberless_bool true
  · contradiction

theorem numberless_identityRecord (identity : Identity) : (identityRecord identity).Numberless := by
  induction identity with
  | plain name isPrimitive =>
    apply Json.numberless_object
    intro field member
    obtain rfl | mark := List.mem_cons.mp member
    · exact Json.numberless_string name
    · exact numberless_markIf _ _ field mark
  | ofArray name isPrimitive component ih =>
    apply Json.numberless_object
    intro field member
    obtain first | last := List.mem_append.mp member
    · obtain rfl | mark := List.mem_cons.mp first
      · exact Json.numberless_string name
      · exact numberless_markIf _ _ field mark
    · obtain rfl := List.mem_singleton.mp last
      exact ih

theorem numberless_typeRecord (type : TypeDescription) : (typeRecord type).Numberless := by
  apply Json.numberless_object
  intro field member
  simp only [List.cons_append, List.mem_cons, List.mem_append] at member
  rcases member with rfl | ((array | iterable) | element) | imprecise
  · exact numberless_identityRecord type.base
  · exact numberless_markIf _ _ field array
  · exact numberless_markIf _ _ field iterable
  · obtain ⟨identity, _, rfl⟩ := Option.map_eq_some_iff.mp (Option.mem_toList.mp element)
    exact numberless_identityRecord identity
  · exact numberless_markIf _ _ field imprecise

theorem numberless_propertyRecord (property : Property) : (propertyRecord property).Numberless := by
  apply Json.numberless_object
  intro field member
  obtain first | last := List.mem_append.mp member
  · simp only [List.mem_cons, List.not_mem_nil, or_false] at first
    rcases first with rfl | rfl
    · exact Json.numberless_string property.name
    · exact numberless_typeRecord property.type
  · split at last
    · contradiction
    · obtain rfl := List.mem_singleton.mp last
      exact Json.numberless_map fun failure => numberless_identityRecord failure

theorem numberless_record (description : ClassDescription) : (record description).Numberless := by
  apply Json.numberless_object
  intro field member
  simp only [List.mem_cons, List.not_mem_nil, or_false] at member
  rcases member with rfl | rfl | rfl | rfl
  · exact Json.numberless_string version
  · exact numberless_identityRecord description.subject
  · exact Json.numberless_map fun property => numberless_propertyRecord property
  · exact Json.numberless_map fun identity => numberless_identityRecord identity

theorem checkVersion_record (description : ClassDescription) :
    checkVersion (record description) = .ok () := by
  simp [checkVersion, fieldsOf, record, bind, Except.bind]

theorem deserialize_of_valid {description : ClassDescription} (valid : description.Valid) :
    deserialize (serialize description) = .ok description := by
  rw [deserialize, serialize, Json.read_write (numberless_record description)]
  simp only [checkVersion_record, descriptionOf_record valid, bind, Except.bind]

/-- Every description that the checks of the model admit reads back from its
artifact, the same in all its parts; so no other has the same artifact. -/
theorem deserialize_serialize (description : ClassDescription)
    (admitted : description.Admitted) :
    deserialize (serialize description) = .ok description ∧
      ∀ other : ClassDescription, other.Admitted →
        serialize other = serialize description → other = description := by
  have read := deserialize_of_valid (ClassDescription.admitted_iff_valid.mp admitted)
  refine ⟨read, ?_⟩
  intro other otherAdmitted same
  have otherRead := deserialize_of_valid (ClassDescription.admitted_iff_valid.mp otherAdmitted)
  rw [same, read] at otherRead
  exact (Except.ok.inj otherRead).symm

/-- Arrays of arrays, an iterable of arrays, a primitive mark where no keyword is, and
text from beyond the first plane. -/
def crew : ClassDescription where
  subject := .named "com.acme.Crew\u00fc😀"
  properties := [
    ⟨"grid", ⟨.array (.array (.named "int")), true, false, some (.array (.named "int")), false⟩,
      []⟩,
    ⟨"mates", ⟨.named "java.util.List", true, true, some (.plain "com.acme.Mate" true), true⟩,
      [.named "java.io.IOException", .named "java.io.IOException"]⟩]
  imports := [.named "com.acme.Mate", .plain "java.io.IOException" true]

theorem deserialize_serialize_crew :
    crew.Admitted ∧ deserialize (serialize crew) = .ok crew ∧
      ∀ other : ClassDescription, other.Admitted → serialize other = serialize crew →
        other = crew :=
  have admitted : crew.Admitted :=
    ClassDescription.admitted_iff_valid.mpr ⟨by decide, by decide, by decide⟩
  ⟨admitted, deserialize_serialize crew admitted⟩

end Artifact
end ClassProfile
