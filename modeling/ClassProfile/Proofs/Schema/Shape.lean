import ClassProfile.Proofs.Schema.Identity
import ClassProfile.Schema.Shape

/-! Shapes read back from their written form. The sort that is written with a shape decides
how its other fields are read, so shapes of different sorts are never taken for one another,
and by induction over the parts nothing of a shape is lost: not the marks and components of
its identities, which comparing them would pass over. -/
namespace ClassProfile.Shape

open Schema
open Json (Reordered ReadsAs forall₂_of_reordered)
open Json.Reordered (exists_of_rel leaf_of_rel)

theorem ofWord?_eq_some_iff {word : String} {kind : Kind} :
    Kind.ofWord? word = some kind ↔ word = kind.word := by
  constructor
  · intro found
    have same := List.find?_some found
    exact (beq_iff_eq.mp same).symm
  · rintro rfl
    cases kind <;> decide

theorem statedKind_eq_ok_iff {json : Json} {kind : Kind} :
    statedKind json = .ok kind ↔ json.field? "kind" = some (.string kind.word) := by
  cases json with
  | object fields =>
    rw [statedKind, Json.field?]
    cases found : Json.lookup "kind" fields with
    | none => simp [fault]
    | some part =>
      cases part with
      | string word =>
        rw [Option.some.injEq, Json.string.injEq, ← ofWord?_eq_some_iff]
        cases named : Kind.ofWord? word <;> simp [named, fault]
      | _ => simp [fault]
  | _ => simp [statedKind, Json.field?, fault]

/-- The shape of a sort that has these fields. -/
def ofFields (json : Json) : Kind → Checked Shape
  | .scalar =>
    (.ok scalar : Checked _)
      |> also (required "type" json fun part _ => Identity.ofJson part)
  | .array =>
    (.ok array : Checked _)
      |> also (required "element" json fun part _ => ofJson part)
  | .generic =>
    (.ok generic : Checked _)
      |> also (required "base" json fun part _ => Identity.ofJson part)
      |> also (defaulted "arguments" [] json fun part _ => each part fun item _ => ofJson item)
  | .wildcard =>
    (.ok wildcard : Checked _)
      |> also (defaulted "upper_bound" none json fun part _ => nullable ofJson part)
      |> also (defaulted "lower_bound" none json fun part _ => nullable ofJson part)
  | .typeVariable =>
    (.ok typeVariable : Checked _)
      |> also (required "name" json fun part _ => text part)

/-- The stated sort decides which fields are read. -/
theorem ofJson_eq (json : Json) :
    ofJson json = statedKind json >>= fun kind => under (.kind kind) (ofFields json kind) := by
  rw [ofJson]
  cases statedKind json with
  | error issues => rfl
  | ok kind =>
    cases kind with
    | wildcard =>
      change under _ (also (defaulted _ _ _ _) (also (defaulted _ _ _ _) _)) =
        under _ (also (defaulted _ _ _ _) (also (defaulted _ _ _ _) _))
      congr 3
      · funext part _
        cases part <;> rfl
      · congr 1
        funext part _
        cases part <;> rfl
    | _ => rfl

theorem ofJson_eq_ok_iff {json : Json} {shape : Shape} : ofJson json = .ok shape ↔
    ∃ kind, json.field? "kind" = some (.string kind.word) ∧ ofFields json kind = .ok shape := by
  simp only [ofJson_eq, bind_eq_ok_iff, under_eq_ok_iff, statedKind_eq_ok_iff]

theorem kind_of_ofFields {json : Json} {kind : Kind} {shape : Shape}
    (read : ofFields json kind = .ok shape) : shape.kind = kind := by
  cases kind with
  | scalar | array | typeVariable =>
    rw [ofFields] at read
    obtain ⟨_, _, made, -, rfl⟩ := also_eq_ok_iff.mp read
    obtain rfl := Except.ok.inj made
    rfl
  | generic | wildcard =>
    rw [ofFields] at read
    obtain ⟨_, _, first, -, rfl⟩ := also_eq_ok_iff.mp read
    obtain ⟨_, _, made, -, rfl⟩ := also_eq_ok_iff.mp first
    obtain rfl := Except.ok.inj made
    rfl

theorem toJson_ne_null (shape : Shape) : shape.toJson ≠ .null := by
  cases shape <;> simp [toJson]

mutual

/-- A shape is read in any order of the keys, however deep its parts go. -/
theorem readsAs_toJson : (shape : Shape) → ReadsAs ofJson shape.toJson shape
  | .scalar type => by
    intro json reordered
    have found := reordered.field?_rel (by simp)
    obtain ⟨part, typed, partReordered⟩ := exists_of_rel _ (found "type")
    refine ofJson_eq_ok_iff.mpr ⟨.scalar, leaf_of_rel (found "kind") trivial, ?_⟩
    rw [ofFields, required_of_some typed, type.readsAs_toJson part partReordered]
    rfl
  | .array element => by
    intro json reordered
    have found := reordered.field?_rel (by simp)
    obtain ⟨part, inside, partReordered⟩ := exists_of_rel _ (found "element")
    refine ofJson_eq_ok_iff.mpr ⟨.array, leaf_of_rel (found "kind") trivial, ?_⟩
    rw [ofFields, required_of_some inside, readsAs_toJson element part partReordered]
    rfl
  | .generic base arguments => by
    intro json reordered
    have found := reordered.field?_rel (by simp)
    obtain ⟨part, based, partReordered⟩ := exists_of_rel _ (found "base")
    obtain ⟨list, listed, listReordered⟩ := exists_of_rel _ (found "arguments")
    obtain ⟨items, rfl, itemsReordered⟩ := listReordered.of_array
    have read : each (.array items) (fun item _ => ofJson item) = .ok arguments :=
      each_eq_ok_iff.mpr ⟨items, rfl,
        forall₂_of_reordered (forall₂_readsAs_listToJson arguments) itemsReordered⟩
    refine ofJson_eq_ok_iff.mpr ⟨.generic, leaf_of_rel (found "kind") trivial, ?_⟩
    rw [ofFields, required_of_some based, base.readsAs_toJson part partReordered,
      defaulted_of_some listed, read]
    rfl
  | .wildcard upper lower => by
    intro json reordered
    have found := reordered.field?_rel (by simp)
    obtain ⟨upperPart, above, upperReordered⟩ := exists_of_rel _ (found "upper_bound")
    obtain ⟨lowerPart, below, lowerReordered⟩ := exists_of_rel _ (found "lower_bound")
    refine ofJson_eq_ok_iff.mpr ⟨.wildcard, leaf_of_rel (found "kind") trivial, ?_⟩
    rw [ofFields, defaulted_of_some above, readsAs_boundToJson upper upperPart upperReordered,
      defaulted_of_some below, readsAs_boundToJson lower lowerPart lowerReordered]
    rfl
  | .typeVariable name => by
    intro json reordered
    have found := reordered.field?_rel (by simp)
    refine ofJson_eq_ok_iff.mpr ⟨.typeVariable, leaf_of_rel (found "kind") trivial, ?_⟩
    rw [ofFields, required_of_some (leaf_of_rel (found "name") trivial)]
    rfl

theorem forall₂_readsAs_listToJson :
    (shapes : List Shape) → List.Forall₂ (ReadsAs ofJson) (listToJson shapes) shapes
  | [] => .nil
  | shape :: rest => .cons (readsAs_toJson shape) (forall₂_readsAs_listToJson rest)

theorem readsAs_boundToJson :
    (bound : Option Shape) → ReadsAs (nullable ofJson) (boundToJson bound) bound
  | none => by
    intro json reordered
    rw [reordered.null_iff.mpr rfl]
    rfl
  | some shape => by
    intro json reordered
    have notNull : json ≠ .null := mt reordered.null_iff.mp shape.toJson_ne_null
    rw [nullable_of_ne_null notNull, readsAs_toJson shape json reordered]
    rfl

end

/-- What is written of a shape is read as that shape, also with its keys in another order, and
of no other shape is the same written. Whatever else is read as the shape states its sort. -/
theorem ofJson_inverts_writing (shape : Shape) :
    ofJson shape.toJson = .ok shape ∧
      (∀ json, Reordered shape.toJson json → ofJson json = .ok shape) ∧
      (∀ other : Shape, other.toJson = shape.toJson → other = shape) ∧
      ∀ json, ofJson json = .ok shape → json.field? "kind" = some (.string shape.kind.word) := by
  have read := shape.readsAs_toJson
  refine ⟨read _ .same, read, ?_, ?_⟩
  · intro other same
    have otherRead := other.readsAs_toJson _ .same
    rw [same, read _ .same] at otherRead
    exact (Except.ok.inj otherRead).symm
  · intro json found
    obtain ⟨kind, stated, fields⟩ := ofJson_eq_ok_iff.mp found
    rwa [kind_of_ofFields fields]

end ClassProfile.Shape
