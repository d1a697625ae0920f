import ClassProfile.Description
import ClassProfile.Proofs.Keyed

/-! What the checks of the model admit. A type is admitted when it has an element
exactly if it holds elements; a class is arranged when no two properties share a
name, and what comes out has its names in ascending order. -/
namespace ClassProfile

/-- The type has an element exactly when it holds elements. -/
def TypeDescription.Valid (type : TypeDescription) : Prop :=
  type.element?.isSome = type.isContainer

instance (type : TypeDescription) : Decidable type.Valid :=
  inferInstanceAs (Decidable (_ = _))

theorem TypeDescription.checked_of_valid {type : TypeDescription} (valid : type.Valid) :
    type.checked = .ok type := by
  unfold Valid at valid
  unfold checked
  split <;> simp_all

theorem TypeDescription.valid_of_checked {type result : TypeDescription}
    (passed : type.checked = .ok result) : type.Valid ∧ result = type := by
  unfold checked at passed
  split at passed
  · contradiction
  · contradiction
  · next outer element notMissing notUnexpected =>
    obtain rfl := Except.ok.inj passed
    refine ⟨?_, rfl⟩
    unfold Valid
    cases container : type.isContainer <;> cases found : type.element? <;> simp_all

theorem mem_repeated_iff {text : String} {texts : List String} :
    text ∈ repeated texts ↔ 1 < texts.count text := by
  rw [repeated, mem_sortedBy]
  constructor
  · intro member
    exact of_decide_eq_true (List.mem_filter.mp (mem_of_mem_distinctBy member)).2
  · intro often
    have member : text ∈ texts.filter fun text => decide (1 < texts.count text) :=
      List.mem_filter.mpr ⟨List.count_pos_iff.mp (by omega), decide_eq_true often⟩
    obtain ⟨kept, keptMember, same⟩ := exists_mem_distinctBy id member
    obtain rfl : kept = text := same
    exact keptMember

theorem arrangedProperties_nil : arrangedProperties [] = .ok [] := by
  simp [arrangedProperties, repeated, distinctBy, sortedBy]

theorem arrangedImports_nil : arrangedImports [] = [] := by
  simp [arrangedImports, distinctBy, sortedBy]

theorem repeated_eq_nil_iff {texts : List String} : repeated texts = [] ↔ texts.Nodup := by
  rw [List.eq_nil_iff_forall_not_mem, List.nodup_iff_count]
  simp only [mem_repeated_iff, Nat.not_lt]

namespace ClassDescription

/-- The types are valid, and the names ascend. -/
structure Valid (description : ClassDescription) : Prop where
  types : ∀ property ∈ description.properties, property.type.Valid
  properties : Ascending Property.name description.properties
  imports : Ascending Identity.name description.imports

/-- The checks of the model admit the description: its types have passed theirs, and
arranging some properties and imports has given it. -/
def Admitted (description : ClassDescription) : Prop :=
  ∃ properties imports,
    (∀ property ∈ properties, property.type.checked = .ok property.type) ∧
    ofParts description.subject properties imports = .ok description

theorem ofParts_eq_ok_iff {subject : Identity} {properties : List Property}
    {imports : List Identity} {description : ClassDescription} :
    ofParts subject properties imports = .ok description ↔
      (properties.map Property.name).Nodup ∧
        description = ⟨subject, sortedBy Property.name properties, arrangedImports imports⟩ := by
  rw [← repeated_eq_nil_iff, ofParts, arrangedProperties]
  split
  · next distinct => simp [distinct, bind, Except.bind, pure, Except.pure, eq_comm]
  · next repeats =>
    simp only [bind, Except.bind, reduceCtorEq, false_iff]
    rintro ⟨empty, -⟩
    exact repeats empty

theorem Valid.ofParts_eq {description : ClassDescription} (valid : description.Valid) :
    ofParts description.subject description.properties description.imports = .ok description := by
  refine ofParts_eq_ok_iff.mpr ⟨valid.properties.nodup, ?_⟩
  rw [arrangedImports, distinctBy_of_nodup valid.imports.nodup,
    sortedBy_of_ascending valid.properties, sortedBy_of_ascending valid.imports]

/-- Parts with valid types that are put in order make a valid description. -/
theorem valid_of_ofParts {subject : Identity} {properties : List Property}
    {imports : List Identity} {description : ClassDescription}
    (types : ∀ property ∈ properties, property.type.Valid)
    (arranged : ofParts subject properties imports = .ok description) : description.Valid := by
  obtain ⟨nodup, rfl⟩ := ofParts_eq_ok_iff.mp arranged
  refine ⟨?_, sortedBy_ascending nodup, sortedBy_ascending (distinctBy_nodup _ _)⟩
  intro property member
  exact types property (mem_sortedBy.mp member)

theorem admitted_iff_valid {description : ClassDescription} :
    description.Admitted ↔ description.Valid := by
  constructor
  · rintro ⟨properties, imports, checked, arranged⟩
    refine valid_of_ofParts ?_ arranged
    intro property member
    exact (TypeDescription.valid_of_checked (checked property member)).1
  · intro valid
    refine ⟨description.properties, description.imports, ?_, valid.ofParts_eq⟩
    exact fun property member => TypeDescription.checked_of_valid (valid.types property member)

end ClassDescription
end ClassProfile
