import ClassProfile.Builder.Supplied

/-! What is supplied as accessors. It is a list of nothing but accessors, or it breaches
the contract and is refused, with words for the sort of value that it is or for the
first entry that is no accessor. -/
namespace ClassProfile

namespace Supplied

/-- Accessors supplied as the contract asks for them. -/
def ofAccessors (accessors : List Accessor) : Supplied := .list (accessors.map .accessor)

/-- What is supplied is no list, or some entry of it is no accessor. -/
def Breaches (supplied : Supplied) : Prop :=
  (∃ sort, supplied = .other sort) ∨
    ∃ entries sort, supplied = .list entries ∧ .foreign sort ∈ entries

/-- What is supplied is refused with these words: it is no list, or the entry at the
index is no accessor while all entries before it are. -/
inductive Refused : Supplied → String → Prop where
  | notList : Refused (.other sort) ("accessors must be a list or tuple, got " ++ sort.word)
  | notAccessor (before : List Accessor) :
      Refused (.list (before.map .accessor ++ .foreign sort :: after))
        ("accessors[" ++ toString before.length ++ "] must be an AccessorDescriptor, got " ++
          sort.word)

end Supplied

theorem accessorsFrom_map (index : Nat) (accessors : List Accessor) :
    accessorsFrom index (accessors.map .accessor) = .ok accessors := by
  induction accessors generalizing index with
  | nil => rfl
  | cons accessor rest ih => rw [List.map_cons, accessorsFrom, ih, Except.map]

theorem accessorsFrom_eq_error {index : Nat} {entries : List Entry} {fault : ContractFault}
    (refused : accessorsFrom index entries = .error fault) :
    ∃ (before : List Accessor) (sort : ValueSort) (after : List Entry),
      entries = before.map .accessor ++ .foreign sort :: after ∧
        fault = .notAccessor (index + before.length) sort := by
  -- Any index to start at: the rest is counted from the next one.
  induction entries generalizing index with
  | nil => contradiction
  | cons entry rest ih =>
    cases entry with
    | foreign sort =>
      obtain rfl := Except.error.inj refused
      exact ⟨[], sort, rest, rfl, rfl⟩
    | accessor accessor =>
      cases later : accessorsFrom (index + 1) rest with
      | ok accessors => simp [accessorsFrom, later, Except.map] at refused
      | error found =>
        rw [accessorsFrom, later] at refused
        obtain rfl := Except.error.inj refused
        obtain ⟨before, sort, after, rfl, rfl⟩ := ih later
        refine ⟨accessor :: before, sort, after, rfl, ?_⟩
        rw [List.length_cons, Nat.add_comm before.length, Nat.add_assoc]

theorem accessorsFrom_eq_ok {index : Nat} {entries : List Entry} {accessors : List Accessor}
    (accepted : accessorsFrom index entries = .ok accessors) :
    entries = accessors.map .accessor := by
  induction entries generalizing index accessors with
  | nil =>
    obtain rfl := Except.ok.inj accepted
    rfl
  | cons entry rest ih =>
    cases entry with
    | foreign sort => contradiction
    | accessor accessor =>
      cases later : accessorsFrom (index + 1) rest with
      | error fault => simp [accessorsFrom, later, Except.map] at accepted
      | ok found =>
        rw [accessorsFrom, later] at accepted
        obtain rfl := Except.ok.inj accepted
        rw [List.map_cons, ← ih later]

namespace Supplied

@[simp] theorem accessors_ofAccessors (accessors : List Accessor) :
    (ofAccessors accessors).accessors = .ok accessors :=
  accessorsFrom_map 0 accessors

/-- What is supplied is either accessors or refused for a breach of the contract. -/
theorem cases_accessors (supplied : Supplied) :
    (∃ accessors, supplied = .ofAccessors accessors ∧ ¬supplied.Breaches) ∨
    ∃ breach, supplied.accessors = .error breach ∧ supplied.Refused breach.message ∧
      supplied.Breaches := by
  cases supplied with
  | other sort => exact .inr ⟨.notList sort, rfl, .notList, .inl ⟨sort, rfl⟩⟩
  | list entries =>
    cases found : accessorsFrom 0 entries with
    | ok accessors =>
      obtain rfl := accessorsFrom_eq_ok found
      refine .inl ⟨accessors, rfl, ?_⟩
      rintro (⟨sort, same⟩ | ⟨entries, sort, same, member⟩)
      · contradiction
      · obtain rfl := Supplied.list.inj same
        simp at member
    | error breach =>
      obtain ⟨before, sort, after, rfl, rfl⟩ := accessorsFrom_eq_error found
      refine .inr ⟨_, found, ?_, .inr ⟨_, sort, rfl, by simp⟩⟩
      rw [Nat.zero_add]
      exact .notAccessor before

end Supplied
end ClassProfile
