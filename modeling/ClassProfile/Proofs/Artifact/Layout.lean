import ClassProfile.Proofs.Artifact.RoundTrip
import Mathlib.Data.List.Nodup
import Mathlib.Data.List.Perm.Basic
import Mathlib.Data.Set.List

/-! Artifacts laid out anew. The keys of a record may stand in any order, so may the
properties and the imports, and an import may be repeated: what is read is the description
that the artifact was written from, and writing it again restores the layout. The failures
of a property keep their order, which is part of the description. -/
namespace ClassProfile

variable {key : α → String} {items others : List α}

/-- Thinning and sorting restore a list with ascending keys from any arrangement of its
items, repetitions included. -/
theorem sortedBy_distinctBy_eq (ascending : Ascending key items)
    (same : ∀ item, item ∈ others ↔ item ∈ items) :
    sortedBy key (distinctBy key others) = items := by
  refine (sortedBy_ascending (distinctBy_nodup key others)).eq_of_mem_iff ascending ?_
  intro item
  rw [mem_sortedBy]
  constructor
  · intro kept
    exact (same item).mp (mem_of_mem_distinctBy kept)
  · intro member
    obtain ⟨kept, keptMember, sameKey⟩ := exists_mem_distinctBy key ((same item).mpr member)
    have keptHere := (same kept).mp (mem_of_mem_distinctBy keptMember)
    obtain rfl := List.inj_on_of_nodup_map ascending.nodup keptHere member sameKey
    exact keptMember

theorem ClassDescription.ofParts_eq_of_rearranged {description : ClassDescription}
    (valid : description.Valid) {properties : List Property} {imports : List Identity}
    (perm : properties.Perm description.properties)
    (same : ∀ identity, identity ∈ imports ↔ identity ∈ description.imports) :
    ofParts description.subject properties imports = .ok description := by
  have nodup : (properties.map Property.name).Nodup :=
    (perm.map Property.name).nodup_iff.mpr valid.properties.nodup
  have sorted := sortedBy_distinctBy_eq valid.properties fun property => perm.mem_iff
  rw [distinctBy_of_nodup nodup] at sorted
  refine ofParts_eq_ok_iff.mpr ⟨nodup, ?_⟩
  rw [sorted, arrangedImports, sortedBy_distinctBy_eq valid.imports same]

namespace Artifact

open Json (Reordered ReadsAs mapM_of_reordered forall₂_readsAs)
open Json.Reordered (exists_of_rel leaf_of_rel list_of_rel)

/-- The fields with other items for the properties and the imports. -/
def withLists (properties imports : List Json) (fields : List (String × Json)) :
    List (String × Json) :=
  fields.map fun (key, value) =>
    if key = "properties" then (key, .array properties)
    else if key = "imports" then (key, .array imports)
    else (key, value)

/-- A document laid out anew: its properties in any order, its imports in any order and with
any repetitions, and the keys of every record in any order. -/
inductive Relaid : Json → Json → Prop where
  | intro {fields : List (String × Json)} {properties imports moved given : List Json}
      (propertyList : Json.lookup "properties" fields = some (.array properties))
      (importList : Json.lookup "imports" fields = some (.array imports))
      (reordered : moved.Perm properties) (repeated : ∀ item, item ∈ given ↔ item ∈ imports)
      (keys : Reordered (.object (withLists moved given fields)) json) :
      Relaid (.object fields) json

theorem Relaid.numberless {document json : Json} (relaid : Relaid document json)
    (numberless : document.Numberless) : json.Numberless := by
  cases relaid with
  | intro propertyList importList reordered repeated keys =>
    have properties := numberless.of_field (Json.mem_of_lookup propertyList)
    have imports := numberless.of_field (Json.mem_of_lookup importList)
    apply keys.numberless
    apply Json.numberless_object
    intro field member
    obtain ⟨⟨key, value⟩, original, rfl⟩ := List.mem_map.mp member
    dsimp only
    split
    · exact Json.numberless_array fun item inside =>
        properties.of_item (reordered.mem_iff.mp inside)
    · split
      · exact Json.numberless_array fun item inside =>
          imports.of_item ((repeated item).mp inside)
      · exact numberless.of_field original

theorem identityRecord_injective : Function.Injective identityRecord := by
  intro identity other same
  have read := readsAs_identityRecord identity _ .same
  rw [same, readsAs_identityRecord other _ .same] at read
  exact (Except.ok.inj read).symm

/-- What is written of the given imports is written of identities that are just the imports. -/
theorem exists_identities {given : List Json} {imports : List Identity}
    (same : ∀ item, item ∈ given ↔ item ∈ imports.map identityRecord) :
    ∃ identities : List Identity, given = identities.map identityRecord ∧
      ∀ identity, identity ∈ identities ↔ identity ∈ imports := by
  have written : given ∈ Set.range (List.map identityRecord) := by
    rw [Set.range_list_map]
    intro item member
    obtain ⟨identity, _, rfl⟩ := List.mem_map.mp ((same item).mp member)
    exact ⟨identity, rfl⟩
  obtain ⟨identities, rfl⟩ := written
  refine ⟨identities, rfl, fun identity => ?_⟩
  have written := same (identityRecord identity)
  rwa [List.mem_map_of_injective identityRecord_injective,
    List.mem_map_of_injective identityRecord_injective] at written

theorem descriptionOf_of_relaid {description : ClassDescription} (valid : description.Valid)
    {json : Json} (relaid : Relaid (record description) json) :
    checkVersion json = .ok () ∧ descriptionOf json = .ok description := by
  rw [record] at relaid
  cases relaid with
  | @intro json _ properties imports moved given propertyList importList reordered repeated keys =>
    obtain rfl : properties = description.properties.map propertyRecord := by
      simpa using propertyList.symm
    obtain rfl : imports = description.imports.map identityRecord := by
      simpa using importList.symm
    obtain ⟨identities, rfl, sameImports⟩ := exists_identities repeated
    obtain ⟨readProperties, propertiesRead, perm⟩ := List.perm_comp_forall₂ reordered
      (forall₂_readsAs fun property member => readsAs_propertyRecord (valid.types property member))
    obtain ⟨fields, rfl, found⟩ := keys.of_object (by simp [withLists])
    obtain ⟨subject, subjected, subjectReordered⟩ := exists_of_rel
      (identityRecord description.subject) (by simpa [withLists] using found "subject")
    obtain ⟨propertyItems, propertiesListed, propertiesReordered⟩ :=
      list_of_rel (found "properties") moved (by simp [withLists])
    obtain ⟨importItems, importsListed, importsReordered⟩ :=
      list_of_rel (found "imports") (identities.map identityRecord) (by simp [withLists])
    constructor
    · have versioned : Json.lookup "v" fields = some (.string version) :=
        leaf_of_rel (by simpa [withLists] using found "v") trivial
      simp [checkVersion, fieldsOf, versioned, bind, Except.bind]
    · apply descriptionOf_of_fields subject propertyItems importItems subjected
      · exact readsAs_identityRecord description.subject subject subjectReordered
      · exact propertiesListed
      · exact mapM_of_reordered propertiesRead propertiesReordered
      · exact importsListed
      · exact mapM_of_reordered
          (forall₂_readsAs fun identity _ => readsAs_identityRecord identity) importsReordered
      · exact ClassDescription.ofParts_eq_of_rearranged valid perm sameImports

/-- Every layout of what is written of a description can be written too, and is read as that
description, whose artifact is the one it had. -/
theorem deserialize_relaid (description : ClassDescription) (admitted : description.Admitted) :
    ∃ document, Json.read (serialize description) = .ok document ∧
      ∀ json, Relaid document json →
        (∃ text, Json.read text = .ok json) ∧
        ∀ text, Json.read text = .ok json →
          deserialize text = .ok description ∧
          (deserialize text).map serialize = .ok (serialize description) := by
  have valid := ClassDescription.admitted_iff_valid.mp admitted
  have plain := numberless_record description
  refine ⟨record description, Json.read_write plain, fun json relaid => ⟨?_, ?_⟩⟩
  · exact ⟨json.write, Json.read_write (relaid.numberless plain)⟩
  · intro text read
    obtain ⟨version, held⟩ := descriptionOf_of_relaid valid relaid
    have found : deserialize text = .ok description := by
      simp only [deserialize, read, version, held, bind, Except.bind]
    exact ⟨found, by rw [found, Except.map]⟩

/-- Ships that sail together: an array, and a type marked primitive that is no keyword. -/
def convoy : ClassDescription where
  subject := .named "acme.Convoy"
  properties := [⟨"size", { base := .named "int" }, []⟩,
    ⟨"tail", { base := .plain "acme.Ship" true }, [.named "acme.Sunk", .named "acme.Lost"]⟩]
  imports := [.named "acme.Lost", .plain "acme.Ship" true]

/-- The document of the convoy from its end to its beginning, with one import given twice
and its mark before its name. -/
def convoyRelaid : Json :=
  .object [
    ("imports", .array [.object [("primitive", .bool true), ("name", .string "acme.Ship")],
      identityRecord (.named "acme.Lost"), identityRecord (.plain "acme.Ship" true)]),
    ("properties", .array (convoy.properties.reverse.map propertyRecord)),
    ("subject", identityRecord convoy.subject), ("v", .string version)]

theorem relaid_convoy : Relaid (record convoy) convoyRelaid := by
  let lost := identityRecord (.named "acme.Lost")
  let ship := identityRecord (.plain "acme.Ship" true)
  let markFirst : Json := .object [("primitive", .bool true), ("name", .string "acme.Ship")]
  let fields (imports : List Json) : List (String × Json) :=
    [("v", .string version), ("subject", identityRecord convoy.subject),
      ("properties", .array (convoy.properties.reverse.map propertyRecord)),
      ("imports", .array imports)]
  have repeated (item : Json) : item ∈ [ship, lost, ship] ↔ item ∈ [lost, ship] := by
    simp only [List.mem_cons, List.not_mem_nil, or_false]
    exact ⟨fun member => by tauto, fun member => by tauto⟩
  have swapped : Reordered ship markFirst :=
    .object [("name", .string "acme.Ship"), ("primitive", .bool true)] rfl
      (.cons .same (.cons .same .nil)) (.swap _ _ _)
  have imports : Reordered (.array [ship, lost, ship]) (.array [markFirst, lost, ship]) :=
    .array (.cons swapped (.cons .same (.cons .same .nil)))
  have keys : Reordered (.object (fields [ship, lost, ship])) convoyRelaid :=
    .object (fields [markFirst, lost, ship]) rfl
      (.cons .same (.cons .same (.cons .same (.cons imports .nil)))) (List.reverse_perm (fields _))
  exact .intro rfl rfl ((List.reverse_perm _).map _) repeated keys

theorem deserialize_relaid_convoy :
    convoy.Admitted ∧ Relaid (record convoy) convoyRelaid ∧
      ∃ text, Json.read text = .ok convoyRelaid ∧ deserialize text = .ok convoy ∧
        (deserialize text).map serialize = .ok (serialize convoy) := by
  have admitted : convoy.Admitted :=
    ClassDescription.admitted_iff_valid.mpr ⟨by decide, by decide, by decide⟩
  obtain ⟨document, read, layouts⟩ := deserialize_relaid convoy admitted
  obtain rfl : record convoy = document :=
    Except.ok.inj ((Json.read_write (numberless_record convoy)).symm.trans read)
  obtain ⟨⟨text, written⟩, back⟩ := layouts convoyRelaid relaid_convoy
  exact ⟨admitted, relaid_convoy, text, written, back text written⟩

end Artifact
end ClassProfile
