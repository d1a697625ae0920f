import Mathlib.Data.List.Forall2

/-! Reading in steps. What is put together from what several steps read is read exactly if
every step reads its part, and a list exactly if each of its items is. -/
namespace ClassProfile

theorem bind_eq_ok_iff {step : Except ε α} {next : α → Except ε β} {result : β} :
    step >>= next = .ok result ↔ ∃ value, step = .ok value ∧ next value = .ok result := by
  cases step with
  | error fault => simp [bind, Except.bind]
  | ok value => simp [bind, Except.bind]

theorem bind_eq_error_iff {step : Except ε α} {next : α → Except ε β} {fault : ε} :
    step >>= next = .error fault ↔
      step = .error fault ∨ ∃ value, step = .ok value ∧ next value = .error fault := by
  cases step with
  | error found => simp [bind, Except.bind]
  | ok value => simp [bind, Except.bind]

theorem map_eq_ok_iff {step : Except ε α} {change : α → β} {result : β} :
    step.map change = .ok result ↔ ∃ value, step = .ok value ∧ change value = result := by
  cases step with
  | error fault => simp [Except.map]
  | ok value => simp [Except.map]

theorem mapError_eq_ok_iff {step : Except ε α} {change : ε → ε'} {result : α} :
    step.mapError change = .ok result ↔ step = .ok result := by
  cases step with
  | error fault => simp [Except.mapError]
  | ok value => simp [Except.mapError]

theorem mapError_eq_error_iff {step : Except ε α} {change : ε → ε'} {fault : ε'} :
    step.mapError change = .error fault ↔ ∃ cause, step = .error cause ∧ change cause = fault := by
  cases step with
  | error cause => simp [Except.mapError]
  | ok value => simp [Except.mapError]

variable {read : α → Except ε β} {items : List α} {values : List β}

theorem mapM_eq_ok_iff : items.mapM read = .ok values ↔
    List.Forall₂ (fun item value => read item = .ok value) items values := by
  induction items generalizing values with
  | nil => simp [pure, Except.pure, eq_comm]
  | cons item rest ih =>
    rw [List.mapM_cons, bind_eq_ok_iff, List.forall₂_cons_left_iff]
    simp only [bind_eq_ok_iff, ih, pure, Except.pure, Except.ok.injEq]
    constructor
    · rintro ⟨value, first, later, others, rfl⟩
      exact ⟨value, later, first, others, rfl⟩
    · rintro ⟨value, later, first, others, rfl⟩
      exact ⟨value, first, later, others, rfl⟩

/-- What is found for each item of a list is found for all of them. -/
theorem mapM_eq_some_iff {find : α → Option β} :
    items.mapM find = some values ↔ items.map find = values.map some := by
  induction items generalizing values with
  | nil => cases values <;> simp
  | cons item rest ih =>
    cases values with
    | nil => simp [Option.bind_eq_some_iff]
    | cons value others => simp [Option.bind_eq_some_iff, ← ih]

theorem mapM_eq_none_iff {find : α → Option β} :
    items.mapM find = none ↔ ∃ item ∈ items, find item = none := by
  induction items with
  | nil => simp
  | cons item rest ih =>
    cases found : find item with
    | none => simp [found]
    | some value =>
      have passed : (item :: rest).mapM find = (rest.mapM find).map (value :: ·) := by
        rw [List.mapM_cons, found]
        cases rest.mapM find <;> rfl
      simp [passed, ih, found]

theorem forall₂_map_iff {write : β → α} :
    List.Forall₂ (fun item value => read item = .ok value) (values.map write) values ↔
      ∀ value ∈ values, read (write value) = .ok value := by
  rw [List.forall₂_map_left_iff, List.forall₂_same]

theorem mapM_map_eq_ok {write : β → α} (back : ∀ value ∈ values, read (write value) = .ok value) :
    (values.map write).mapM read = .ok values :=
  mapM_eq_ok_iff.mpr (forall₂_map_iff.mpr back)

/-- Every value of a list comes from one of the items that the values are related to. -/
theorem exists_item_of_mem {relation : α → β → Prop} (each : List.Forall₂ relation items values)
    {value : β} (member : value ∈ values) : ∃ item ∈ items, relation item value := by
  induction each with
  | nil => contradiction
  | @cons item first rest others found _ ih =>
    obtain rfl | later := List.mem_cons.mp member
    · exact ⟨item, List.mem_cons_self, found⟩
    · obtain ⟨other, otherMember, otherFound⟩ := ih later
      exact ⟨other, List.mem_cons_of_mem _ otherMember, otherFound⟩

end ClassProfile
