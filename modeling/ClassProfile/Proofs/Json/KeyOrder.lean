import ClassProfile.Proofs.Json.RoundTrip
import ClassProfile.Proofs.Reading

/-! Fields of objects, and the order in which they stand. Where no key is repeated, what is
found under a key does not depend on that order; so two values that differ in it alone, at
any depth, are the same to whoever looks fields up by their keys. -/
namespace ClassProfile.Json

/-- The two values differ in the order of keys alone, in any object at any depth. -/
inductive Reordered : Json → Json → Prop where
  | same : Reordered json json
  | array (each : List.Forall₂ Reordered items others) :
      Reordered (.array items) (.array others)
  | object (others : List (String × Json)) (keys : others.map Prod.fst = fields.map Prod.fst)
      (values : List.Forall₂ Reordered (fields.map Prod.snd) (others.map Prod.snd))
      (perm : moved.Perm others) : Reordered (.object fields) (.object moved)

/-- The value is neither an array nor an object. -/
def IsLeaf : Json → Prop
  | .array _ | .object _ => False
  | _ => True

@[simp] theorem lookup_nil (key : String) : lookup key [] = none := rfl

@[simp] theorem lookup_cons (key name : String) (value : Json) (rest : List (String × Json)) :
    lookup key ((name, value) :: rest) =
      (lookup key rest).or (if name = key then some value else none) := by
  rw [lookup]
  split <;> simp [*]

@[simp] theorem lookup_append (key : String) (fields more : List (String × Json)) :
    lookup key (fields ++ more) = (lookup key more).or (lookup key fields) := by
  induction fields with
  | nil => simp
  | cons field rest ih => rw [List.cons_append, lookup_cons, lookup_cons, ih, Option.or_assoc]

variable {key : String} {fields others moved : List (String × Json)} {json other value : Json}

theorem lookup_eq_none (missing : key ∉ fields.map Prod.fst) : lookup key fields = none := by
  induction fields with
  | nil => rfl
  | cons field rest ih =>
    obtain ⟨name, value⟩ := field
    rw [List.map_cons, List.mem_cons, not_or] at missing
    rw [lookup_cons, ih missing.2, Option.none_or, if_neg (Ne.symm missing.1)]

theorem mem_of_lookup (found : lookup key fields = some value) : (key, value) ∈ fields := by
  induction fields with
  | nil => contradiction
  | cons field rest ih =>
    rw [lookup_cons, Option.or_eq_some_iff] at found
    obtain later | ⟨-, first⟩ := found
    · exact List.mem_cons_of_mem _ (ih later)
    · split at first
      · next same =>
        obtain rfl := Option.some.inj first
        obtain rfl := same
        exact List.mem_cons_self
      · contradiction

theorem lookup_eq_some_iff (distinct : (fields.map Prod.fst).Nodup) :
    lookup key fields = some value ↔ (key, value) ∈ fields := by
  induction fields with
  | nil => simp
  | cons field rest ih =>
    obtain ⟨name, first⟩ := field
    rw [List.map_cons, List.nodup_cons] at distinct
    rw [lookup_cons, List.mem_cons]
    by_cases same : name = key
    · subst same
      have absent : (name, value) ∉ rest := fun member =>
        distinct.1 (List.mem_map.mpr ⟨_, member, rfl⟩)
      simp [lookup_eq_none distinct.1, absent, eq_comm]
    · simp [same, Ne.symm same, ih distinct.2]

theorem lookup_perm (distinct : (fields.map Prod.fst).Nodup) (perm : moved.Perm fields)
    (key : String) : lookup key moved = lookup key fields := by
  have movedDistinct := (perm.map Prod.fst).nodup_iff.mpr distinct
  ext value
  rw [lookup_eq_some_iff distinct, lookup_eq_some_iff movedDistinct, perm.mem_iff]

namespace Reordered

theorem of_array {items : List Json} (reordered : Reordered (.array items) json) :
    ∃ others, json = .array others ∧ List.Forall₂ Reordered items others := by
  cases reordered with
  | same => exact ⟨items, rfl, List.forall₂_same.mpr fun _ _ => .same⟩
  | array each => exact ⟨_, rfl, each⟩

theorem lookup_rel (keys : others.map Prod.fst = fields.map Prod.fst)
    (values : List.Forall₂ Reordered (fields.map Prod.snd) (others.map Prod.snd)) (key : String) :
    Option.Rel Reordered (lookup key fields) (lookup key others) := by
  induction fields generalizing others with
  | nil =>
    obtain rfl := List.map_eq_nil_iff.mp keys
    exact .none
  | cons field fields ih =>
    cases others with
    | nil => contradiction
    | cons other others =>
      obtain ⟨name, value⟩ := field
      obtain ⟨_, otherValue⟩ := other
      obtain ⟨rfl, restKeys⟩ := List.cons.inj keys
      obtain ⟨first, restValues⟩ := List.forall₂_cons.mp values
      have rest := ih restKeys restValues
      rw [lookup_cons, lookup_cons]
      generalize lookup key fields = found at rest ⊢
      generalize lookup key others = otherFound at rest ⊢
      cases rest with
      | some later => exact .some later
      | none =>
        rw [Option.none_or, Option.none_or]
        split
        · exact .some first
        · exact .none

/-- Under each key the two objects hold nothing, or values that differ in the order of keys
alone. -/
theorem of_object (reordered : Reordered (.object fields) json)
    (distinct : (fields.map Prod.fst).Nodup) :
    ∃ moved, json = .object moved ∧
      ∀ key, Option.Rel Reordered (lookup key fields) (lookup key moved) := by
  cases reordered with
  | same => exact ⟨fields, rfl, lookup_rel rfl (List.forall₂_same.mpr fun _ _ => .same)⟩
  | object others keys values perm =>
    refine ⟨_, rfl, fun key => ?_⟩
    rw [lookup_perm (keys ▸ distinct) perm]
    exact lookup_rel keys values key

theorem field?_rel (reordered : Reordered (.object fields) json)
    (distinct : (fields.map Prod.fst).Nodup) (key : String) :
    Option.Rel Reordered (lookup key fields) (json.field? key) := by
  obtain ⟨moved, rfl, found⟩ := reordered.of_object distinct
  exact found key

theorem exists_of_rel (json : Json) {found : Option Json}
    (rel : Option.Rel Reordered (some json) found) :
    ∃ other, found = some other ∧ Reordered json other := by
  cases rel with
  | some reordered => exact ⟨_, rfl, reordered⟩

theorem list_of_rel {written found : Option Json} (rel : Option.Rel Reordered written found)
    (items : List Json) (listed : written.getD (.array []) = .array items) :
    ∃ others, found.getD (.array []) = .array others ∧ List.Forall₂ Reordered items others := by
  cases rel with
  | none =>
    obtain rfl := Json.array.inj listed
    exact ⟨[], rfl, .nil⟩
  | some reordered =>
    obtain rfl : _ = Json.array items := listed
    exact reordered.of_array

/-- What holds no other values stays as it is. -/
theorem eq_of_leaf (reordered : Reordered json other) (leaf : json.IsLeaf) : other = json := by
  cases reordered with
  | same => rfl
  | array each => exact leaf.elim
  | object others keys values perm => exact leaf.elim

theorem leaf_of_rel {found : Option Json} (rel : Option.Rel Reordered (some json) found)
    (leaf : json.IsLeaf) : found = some json := by
  obtain ⟨other, rfl, reordered⟩ := exists_of_rel json rel
  rw [reordered.eq_of_leaf leaf]

theorem null_iff (reordered : Reordered json other) : other = .null ↔ json = .null := by
  cases reordered <;> simp

/-- Values in which no number occurs hold none in any order of keys. -/
theorem numberless {json other : Json} (reordered : Reordered json other)
    (given : json.Numberless) : other.Numberless := by
  match json, reordered with
  | _, .same => exact given
  | .array items, .array each =>
    apply numberless_array
    intro other member
    obtain ⟨item, itemMember, itemReordered⟩ := exists_item_of_mem each member
    exact itemReordered.numberless (given.of_item itemMember)
  | .object fields, .object others keys values perm =>
    apply numberless_object
    intro field member
    have valueMember := List.mem_map_of_mem (f := Prod.snd) (perm.mem_iff.mp member)
    obtain ⟨value, itemMember, itemReordered⟩ := exists_item_of_mem values valueMember
    obtain ⟨⟨key, value⟩, fieldMember, rfl⟩ := List.mem_map.mp itemMember
    exact itemReordered.numberless (given.of_field fieldMember)
  termination_by sizeOf json
  decreasing_by
    · have := List.sizeOf_lt_of_mem itemMember
      simp only [array.sizeOf_spec]
      omega
    · have := List.sizeOf_lt_of_mem fieldMember
      simp only [object.sizeOf_spec, Prod.mk.sizeOf_spec] at this ⊢
      omega

end Reordered

/-- A value is read of this one, in whatever order its keys are. -/
def ReadsAs (read : Json → Except ε α) (json : Json) (value : α) : Prop :=
  ∀ other, Reordered json other → read other = .ok value

variable {read : Json → Except ε α} {items : List Json} {values : List α}

theorem forall₂_of_reordered (each : List.Forall₂ (ReadsAs read) items values)
    {others : List Json} (reordered : List.Forall₂ Reordered items others) :
    List.Forall₂ (fun other value => read other = .ok value) others values := by
  induction each generalizing others with
  | nil =>
    cases reordered
    exact .nil
  | cons readsAs _ ih =>
    obtain ⟨other, others, first, rest, rfl⟩ := List.forall₂_cons_left_iff.mp reordered
    exact .cons (readsAs other first) (ih rest)

theorem mapM_of_reordered (each : List.Forall₂ (ReadsAs read) items values)
    {others : List Json} (reordered : List.Forall₂ Reordered items others) :
    others.mapM read = .ok values :=
  mapM_eq_ok_iff.mpr (forall₂_of_reordered each reordered)

theorem forall₂_readsAs {write : α → Json}
    (back : ∀ value ∈ values, ReadsAs read (write value) value) :
    List.Forall₂ (ReadsAs read) (values.map write) values := by
  rw [List.forall₂_map_left_iff, List.forall₂_same]
  exact back

end ClassProfile.Json
