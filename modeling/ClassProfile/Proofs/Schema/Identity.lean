import ClassProfile.Proofs.Json.KeyOrder
import ClassProfile.Proofs.Schema.Field
import ClassProfile.Schema.Identity

/-! Identities read back from their written form, however deep their components go and in
whatever order the keys stand. -/
namespace ClassProfile
namespace Identity

open Schema
open Json (ReadsAs)
open Json.Reordered (exists_of_rel leaf_of_rel)

/-- The component of an array is read like any part that may be null. -/
theorem ofJson_eq (json : Json) : ofJson json = record json (
    (.ok ofParts : Checked _)
      |> also (required "qualified_name" json fun part _ => text part)
      |> also (defaulted "is_primitive" false json fun part _ => flag part)
      |> also (defaulted "array_of" none json fun part _ => nullable ofJson part)) := by
  rw [ofJson]
  congr 3
  funext part _
  cases part <;> rfl

theorem toJson_ne_null (identity : Identity) : identity.toJson ≠ .null := by
  cases identity <;> simp [toJson]

theorem readsAs_toJson (identity : Identity) : ReadsAs ofJson identity.toJson identity := by
  induction identity with
  | plain name isPrimitive =>
    intro json reordered
    have found := reordered.field?_rel (by simp)
    have named := leaf_of_rel (found "qualified_name") trivial
    have marked := leaf_of_rel (found "is_primitive") trivial
    have bare := leaf_of_rel (found "array_of") trivial
    obtain ⟨moved, rfl, -⟩ := reordered.of_object (by simp)
    rw [ofJson_eq, record, required_of_some named, defaulted_of_some marked,
      defaulted_of_some bare]
    rfl
  | ofArray name isPrimitive component ih =>
    intro json reordered
    have found := reordered.field?_rel (by simp)
    have named := leaf_of_rel (found "qualified_name") trivial
    have marked := leaf_of_rel (found "is_primitive") trivial
    obtain ⟨part, inside, partReordered⟩ := exists_of_rel _ (found "array_of")
    have notNull : part ≠ .null := mt partReordered.null_iff.mp component.toJson_ne_null
    obtain ⟨moved, rfl, -⟩ := reordered.of_object (by simp)
    rw [ofJson_eq, record, required_of_some named, defaulted_of_some marked,
      defaulted_of_some inside, nullable_of_ne_null notNull, ih part partReordered]
    rfl

@[simp] theorem ofJson_toJson (identity : Identity) : ofJson identity.toJson = .ok identity :=
  identity.readsAs_toJson _ .same

theorem nullable_toJson (identity? : Option Identity) :
    nullable ofJson ((identity?.map toJson).getD .null) = .ok identity? := by
  cases identity? with
  | none => rfl
  | some identity =>
    rw [Option.map_some, Option.getD_some, nullable_of_ne_null identity.toJson_ne_null,
      ofJson_toJson]
    rfl

end Identity
end ClassProfile
