import ClassProfile.Proofs.Artifact.RoundTrip
import Mathlib.Data.List.Forall2

/-! Descriptions that are alike, and their artifacts. Likeness asks of two identities that
they have one name; an artifact holds their marks as well. So descriptions that are alike
have one artifact exactly if the identities agree in their marks wherever they stand. -/
namespace ClassProfile

namespace Identity

/-- The two agree in whatever is not looked at when identities are compared. -/
def SameMarks (i j : Identity) : Prop :=
  i.isPrimitive = j.isPrimitive ∧ i.component? = j.component?

instance (i j : Identity) : Decidable (i.SameMarks j) := inferInstanceAs (Decidable (_ ∧ _))

theorem eq_iff_name_marks {i j : Identity} : i = j ↔ i.name = j.name ∧ i.SameMarks j := by
  constructor
  · rintro rfl
    exact ⟨rfl, rfl, rfl⟩
  · rintro ⟨name, primitive, component⟩
    cases i with
    | plain iName iPrimitive =>
      cases j with
      | plain jName jPrimitive =>
        obtain rfl : iName = jName := name
        obtain rfl : iPrimitive = jPrimitive := primitive
        rfl
      | ofArray jName jPrimitive jComponent => contradiction
    | ofArray iName iPrimitive iComponent =>
      cases j with
      | plain jName jPrimitive => contradiction
      | ofArray jName jPrimitive jComponent =>
        obtain rfl : iName = jName := name
        obtain rfl : iPrimitive = jPrimitive := primitive
        obtain rfl : iComponent = jComponent := Option.some.inj component
        rfl

/-- Lists of identities with the same names are the same if the marks are. -/
theorem eq_iff_forall₂_marks {is js : List Identity} (names : is.map name = js.map name) :
    is = js ↔ List.Forall₂ SameMarks is js := by
  constructor
  · rintro rfl
    exact List.forall₂_same.mpr fun i _ => (eq_iff_name_marks.mp rfl).2
  · intro marks
    induction marks with
    | nil => rfl
    | cons same rest ih =>
      obtain ⟨name, names⟩ := List.cons.inj names
      rw [eq_iff_name_marks.mpr ⟨name, same⟩, ih names]

/-- Lists of identities with the same names are the same if a name is that of one identity. -/
theorem eq_of_names {is js : List Identity} (names : is.map name = js.map name)
    (known : ∀ i ∈ is, ∀ j ∈ js, i.name = j.name → i = j) : is = js := by
  induction is generalizing js with
  | nil => exact (List.map_eq_nil_iff.mp names.symm).symm
  | cons i is ih =>
    cases js with
    | nil => contradiction
    | cons j js =>
      obtain ⟨name, names⟩ := List.cons.inj names
      have first : i = j := known i List.mem_cons_self j List.mem_cons_self name
      have rest : is = js := by
        apply ih names
        intro i member j other
        exact known i (List.mem_cons_of_mem _ member) j (List.mem_cons_of_mem _ other)
      rw [first, rest]

/-- Lists that are the same and begin with the same names begin with the same identities. -/
theorem append_inj_of_names {is js is' js' : List Identity} (names : is.map name = js.map name)
    (same : is ++ is' = js ++ js') : is = js ∧ is' = js' := by
  have length : is.length = js.length := by simpa using congrArg List.length names
  exact List.append_inj same length

end Identity

namespace TypeDescription

/-- The identities that a type names, in the order in which they are written. -/
def identities (type : TypeDescription) : List Identity := type.base :: type.element?.toList

variable {s t : TypeDescription}

theorem names_of_alike (alike : s.alike t = true) :
    s.identities.map Identity.name = t.identities.map Identity.name := by
  simp only [TypeDescription.alike, Identity.sameName, Bool.and_eq_true, beq_iff_eq] at alike
  obtain ⟨⟨⟨⟨base, -⟩, -⟩, element⟩, -⟩ := alike
  rw [identities, identities, List.map_cons, List.map_cons, base, ← Option.toList_map,
    ← Option.toList_map, element]

theorem eq_of_alike (alike : s.alike t = true) (same : s.identities = t.identities) : s = t := by
  simp only [TypeDescription.alike, Bool.and_eq_true, beq_iff_eq] at alike
  obtain ⟨⟨⟨⟨-, array⟩, iterable⟩, -⟩, imprecise⟩ := alike
  obtain ⟨base, elements⟩ := List.cons.inj same
  have element : s.element? = t.element? := by simpa using congrArg List.head? elements
  cases s
  cases t
  simp_all

end TypeDescription

namespace Property

@[inherit_doc TypeDescription.identities]
def identities (property : Property) : List Identity :=
  property.type.identities ++ property.failures

variable {p q : Property}

theorem names_of_alike (alike : p.alike q = true) :
    p.identities.map Identity.name = q.identities.map Identity.name := by
  simp only [Property.alike, Bool.and_eq_true, beq_iff_eq] at alike
  obtain ⟨⟨-, type⟩, failures⟩ := alike
  rw [identities, identities, List.map_append, List.map_append,
    TypeDescription.names_of_alike type, failures]

theorem eq_of_alike (alike : p.alike q = true) (same : p.identities = q.identities) : p = q := by
  simp only [Property.alike, Bool.and_eq_true, beq_iff_eq] at alike
  obtain ⟨⟨name, typeAlike⟩, -⟩ := alike
  obtain ⟨types, failures⟩ :=
    Identity.append_inj_of_names (TypeDescription.names_of_alike typeAlike) same
  have type := TypeDescription.eq_of_alike typeAlike types
  cases p
  cases q
  simp_all

theorem names_of_forall₂_alike {ps qs : List Property}
    (alike : List.Forall₂ (fun p q => p.alike q = true) ps qs) :
    (ps.flatMap identities).map Identity.name = (qs.flatMap identities).map Identity.name := by
  induction alike with
  | nil => rfl
  | cons first rest ih =>
    rw [List.flatMap_cons, List.flatMap_cons, List.map_append, List.map_append,
      names_of_alike first, ih]

theorem eq_of_forall₂_alike {ps qs : List Property}
    (alike : List.Forall₂ (fun p q => p.alike q = true) ps qs)
    (same : ps.flatMap identities = qs.flatMap identities) : ps = qs := by
  induction alike with
  | nil => rfl
  | cons first rest ih =>
    rw [List.flatMap_cons, List.flatMap_cons] at same
    obtain ⟨firstSame, restSame⟩ := Identity.append_inj_of_names (names_of_alike first) same
    rw [eq_of_alike first firstSame, ih restSame]

end Property

namespace ClassDescription

@[inherit_doc TypeDescription.identities]
def identities (description : ClassDescription) : List Identity :=
  description.subject ::
    (description.properties.flatMap Property.identities ++ description.imports)

variable {c d : ClassDescription}

theorem alike_iff : c.alike d = true ↔ c.subject.name = d.subject.name ∧
    List.Forall₂ (fun p q => p.alike q = true) c.properties d.properties ∧
      c.imports.map Identity.name = d.imports.map Identity.name := by
  simp only [ClassDescription.alike, Identity.sameName, Bool.and_eq_true, beq_iff_eq,
    List.all_eq_true, List.forall₂_iff_zip, Prod.forall, and_assoc]

theorem names_of_alike (alike : c.alike d = true) :
    c.identities.map Identity.name = d.identities.map Identity.name := by
  obtain ⟨subject, properties, imports⟩ := alike_iff.mp alike
  rw [identities, identities, List.map_cons, List.map_cons, List.map_append, List.map_append,
    subject, Property.names_of_forall₂_alike properties, imports]

theorem eq_of_alike (alike : c.alike d = true) (same : c.identities = d.identities) : c = d := by
  obtain ⟨-, propertiesAlike, -⟩ := alike_iff.mp alike
  obtain ⟨subject, rest⟩ := List.cons.inj same
  obtain ⟨named, imports⟩ :=
    Identity.append_inj_of_names (Property.names_of_forall₂_alike propertiesAlike) rest
  have properties := Property.eq_of_forall₂_alike propertiesAlike named
  cases c
  cases d
  simp_all

end ClassDescription

namespace Artifact

theorem eq_of_serialize_eq {c d : ClassDescription} (validC : c.Valid) (validD : d.Valid)
    (same : serialize c = serialize d) : c = d := by
  have read := deserialize_of_valid validC
  rw [same, deserialize_of_valid validD] at read
  exact (Except.ok.inj read).symm

/-- Descriptions that are alike have one artifact exactly if, wherever an identity stands,
the two identities agree in their marks: the sign of a primitive type, and the component
with all its marks. They do if identities of one name are one in both. -/
theorem serialize_alike_iff (c d : ClassDescription) (admittedC : c.Admitted)
    (admittedD : d.Admitted) (alike : c.alike d = true) :
    (serialize c = serialize d ↔
      List.Forall₂ Identity.SameMarks c.identities d.identities) ∧
    ((∀ i ∈ c.identities, ∀ j ∈ d.identities, i.name = j.name → i = j) →
      serialize c = serialize d) := by
  have names := ClassDescription.names_of_alike alike
  have exactly : serialize c = serialize d ↔
      List.Forall₂ Identity.SameMarks c.identities d.identities := by
    rw [← Identity.eq_iff_forall₂_marks names]
    constructor
    · intro same
      have validC := ClassDescription.admitted_iff_valid.mp admittedC
      have validD := ClassDescription.admitted_iff_valid.mp admittedD
      rw [eq_of_serialize_eq validC validD same]
    · intro same
      rw [ClassDescription.eq_of_alike alike same]
  refine ⟨exactly, ?_⟩
  intro known
  rw [exactly, ← Identity.eq_iff_forall₂_marks names]
  exact Identity.eq_of_names names known

/-- The elements are known by the name of an array alone. -/
def fleetByName : ClassDescription where
  subject := .named "acme.Fleet"
  properties := [⟨"ships", ⟨.named "java.util.List", false, true, some (.named "acme.Ship[]"),
    false⟩, [.named "acme.Sunk"]⟩]
  imports := [.named "acme.Sunk"]

/-- The elements are known as arrays, and a failure is marked as primitive. -/
def fleetByParts : ClassDescription where
  subject := .named "acme.Fleet"
  properties := [⟨"ships", ⟨.named "java.util.List", false, true,
    some (.array (.named "acme.Ship")), false⟩, [.plain "acme.Sunk" true]⟩]
  imports := [.named "acme.Sunk"]

theorem serialize_alike_iff_fleet :
    fleetByName.Admitted ∧ fleetByParts.Admitted ∧ fleetByName.alike fleetByParts = true ∧
      ¬List.Forall₂ Identity.SameMarks fleetByName.identities fleetByParts.identities ∧
      serialize fleetByName ≠ serialize fleetByParts := by
  have byName : fleetByName.Admitted :=
    ClassDescription.admitted_iff_valid.mpr ⟨by decide, by decide, by decide⟩
  have byParts : fleetByParts.Admitted :=
    ClassDescription.admitted_iff_valid.mpr ⟨by decide, by decide, by decide⟩
  have alike : fleetByName.alike fleetByParts = true := by decide
  have marked : ¬List.Forall₂ Identity.SameMarks fleetByName.identities
    fleetByParts.identities := by decide
  obtain ⟨exactly, -⟩ := serialize_alike_iff fleetByName fleetByParts byName byParts alike
  exact ⟨byName, byParts, alike, marked, mt exactly.mp marked⟩

/-- A name of an array and the array of that name are alike, and yet a description of the one
has another artifact than a description of the other. -/
theorem serialize_ne_of_alike :
    ClassDescription.Admitted ⟨.named "acme.Ship[]", [], []⟩ ∧
      ClassDescription.Admitted ⟨.array (.named "acme.Ship"), [], []⟩ ∧
      ClassDescription.alike ⟨.named "acme.Ship[]", [], []⟩
        ⟨.array (.named "acme.Ship"), [], []⟩ = true ∧
      serialize ⟨.named "acme.Ship[]", [], []⟩ ≠
        serialize ⟨.array (.named "acme.Ship"), [], []⟩ := by
  have byName : ClassDescription.Valid ⟨.named "acme.Ship[]", [], []⟩ :=
    ⟨by decide, by decide, by decide⟩
  have byParts : ClassDescription.Valid ⟨.array (.named "acme.Ship"), [], []⟩ :=
    ⟨by decide, by decide, by decide⟩
  refine ⟨ClassDescription.admitted_iff_valid.mpr byName,
    ClassDescription.admitted_iff_valid.mpr byParts, by decide, ?_⟩
  intro same
  have equal := eq_of_serialize_eq byName byParts same
  exact absurd equal (by decide)

end Artifact
end ClassProfile
