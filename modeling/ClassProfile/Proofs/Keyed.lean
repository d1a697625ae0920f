import ClassProfile.Keyed

/-! Sorting and thinning by key. Together they turn any list into one whose keys
ascend strictly, with an item for every key that occurs; such a list is left as it
is by both. -/
namespace ClassProfile

variable {key : α → String} {items : List α}

/-- Every key is less than the keys of all later items. -/
def Ascending (key : α → String) (items : List α) : Prop :=
  items.Pairwise fun x y => key x < key y

instance (key : α → String) (items : List α) : Decidable (Ascending key items) :=
  inferInstanceAs (Decidable (items.Pairwise _))

theorem Ascending.nodup (ascending : Ascending key items) : (items.map key).Nodup := by
  rw [List.Nodup, List.pairwise_map]
  refine ascending.imp ?_
  intro x y less same
  exact String.lt_irrefl _ (same ▸ less)

theorem sortedBy_perm (key : α → String) (items : List α) : (sortedBy key items).Perm items :=
  List.mergeSort_perm _ _

@[simp] theorem mem_sortedBy {item : α} : item ∈ sortedBy key items ↔ item ∈ items :=
  (sortedBy_perm key items).mem_iff

theorem sortedBy_pairwise (key : α → String) (items : List α) :
    (sortedBy key items).Pairwise fun x y => key x ≤ key y := by
  apply List.Pairwise.imp of_decide_eq_true
  apply List.pairwise_mergeSort
  · intro x y z first second
    simp only [decide_eq_true_eq] at first second ⊢
    exact String.le_trans first second
  · intro x y
    simp only [Bool.or_eq_true, decide_eq_true_eq]
    exact String.le_total _ _

theorem map_sortedBy (change : α → β) {changedKey : β → String}
    (same : ∀ item, changedKey (change item) = key item) (items : List α) :
    (sortedBy key items).map change = sortedBy changedKey (items.map change) := by
  apply List.map_mergeSort
  intro x _ y _
  rw [same, same]

theorem sortedBy_ascending (nodup : (items.map key).Nodup) :
    Ascending key (sortedBy key items) := by
  have distinct : (sortedBy key items).Pairwise fun x y => key x ≠ key y := by
    have keys := ((sortedBy_perm key items).map key).nodup_iff.mpr nodup
    rwa [List.Nodup, List.pairwise_map] at keys
  refine ((sortedBy_pairwise key items).and distinct).imp ?_
  rintro x y ⟨atMost, different⟩
  rw [← String.not_le]
  exact fun atLeast => different (String.le_antisymm atMost atLeast)

/-- A list whose keys ascend is known by its items. -/
theorem Ascending.eq_of_mem_iff {others : List α} (ascending : Ascending key items)
    (othersAscending : Ascending key others) (same : ∀ item, item ∈ items ↔ item ∈ others) :
    items = others := by
  have nodup {list : List α} (sorted : Ascending key list) : list.Nodup :=
    List.Pairwise.of_map key (fun _ _ different same => different (congrArg key same)) sorted.nodup
  have perm : items.Perm others :=
    (List.perm_ext_iff_of_nodup (nodup ascending) (nodup othersAscending)).mpr same
  refine perm.eq_of_pairwise ?_ ascending othersAscending
  intro x y _ _ less greater
  exact absurd greater (String.lt_asymm less)

theorem sortedBy_of_ascending (ascending : Ascending key items) : sortedBy key items = items := by
  apply List.mergeSort_of_pairwise
  refine ascending.imp ?_
  intro x y less
  rw [decide_eq_true_eq, ← String.not_lt]
  exact String.lt_asymm less

theorem distinctBy_sublist (key : α → String) (items : List α) :
    (distinctBy key items).Sublist items := by
  induction items with
  | nil => exact .slnil
  | cons item rest ih => exact (List.filter_sublist.trans ih).cons_cons item

theorem mem_of_mem_distinctBy {item : α} (member : item ∈ distinctBy key items) : item ∈ items :=
  (distinctBy_sublist key items).subset member

theorem distinctBy_nodup (key : α → String) (items : List α) :
    ((distinctBy key items).map key).Nodup := by
  induction items with
  | nil => exact List.nodup_nil
  | cons item rest ih =>
    rw [distinctBy, List.map_cons, List.nodup_cons]
    constructor
    · simp
    · exact ih.sublist (List.filter_sublist.map key)

theorem exists_mem_distinctBy (key : α → String) {item : α} (member : item ∈ items) :
    ∃ kept ∈ distinctBy key items, key kept = key item := by
  induction items with
  | nil => contradiction
  | cons first rest ih =>
    rw [distinctBy]
    by_cases same : key item = key first
    · exact ⟨first, List.mem_cons_self, same.symm⟩
    · obtain rfl | later := List.mem_cons.mp member
      · contradiction
      · obtain ⟨kept, keptMember, keptKey⟩ := ih later
        refine ⟨kept, List.mem_cons_of_mem _ (List.mem_filter.mpr ⟨keptMember, ?_⟩), keptKey⟩
        simpa [keptKey] using same

theorem distinctBy_of_nodup (nodup : (items.map key).Nodup) : distinctBy key items = items := by
  induction items with
  | nil => rfl
  | cons item rest ih =>
    rw [List.map_cons, List.nodup_cons] at nodup
    rw [distinctBy, ih nodup.2, List.filter_eq_self.mpr]
    intro later member
    have different : key later ≠ key item := fun same =>
      nodup.1 (same ▸ List.mem_map_of_mem member)
    simpa using different

/-- What thinning keeps of a key is the first item of that key. -/
theorem mem_distinctBy_iff {item : α} : item ∈ distinctBy key items ↔
    items.find? (fun other => key other == key item) = some item := by
  induction items with
  | nil => simp [distinctBy]
  | cons first rest ih =>
    rw [distinctBy, List.mem_cons, List.mem_filter, List.find?_cons]
    by_cases same : key first = key item
    · simp [same, eq_comm]
    · have different : item ≠ first := fun equal => same (congrArg key equal.symm)
      rw [beq_false_of_ne same]
      simp [different, ih, Ne.symm same]

/-- Where no two items share a key, any item is found by its own. -/
theorem find?_key_eq_some_iff (nodup : (items.map key).Nodup) {name : String} {item : α} :
    items.find? (fun other => key other == name) = some item ↔ item ∈ items ∧ key item = name := by
  constructor
  · intro found
    exact ⟨List.mem_of_find?_eq_some found, by simpa using List.find?_some found⟩
  · rintro ⟨member, rfl⟩
    rwa [← mem_distinctBy_iff, distinctBy_of_nodup nodup]

theorem find?_key_eq_none_iff {name : String} :
    items.find? (fun other => key other == name) = none ↔ name ∉ items.map key := by
  simp

/-- What is thinned keeps all of it when items are added, and gains of those the ones
with new keys. -/
theorem distinctBy_append (key : α → String) (items added : List α) :
    distinctBy key (items ++ added) =
      distinctBy key items ++
        (distinctBy key added).filter fun item => key item ∉ items.map key := by
  induction items with
  | nil => exact (List.filter_eq_self.mpr fun item _ => by simp).symm
  | cons first rest ih =>
    rw [List.cons_append, distinctBy, distinctBy, ih, List.filter_append, List.filter_filter,
      List.cons_append]
    refine congrArg (first :: (distinctBy key rest).filter _ ++ ·) (List.filter_congr ?_)
    intro item _
    rw [Bool.eq_iff_iff]
    simp [-List.mem_map]

/-- An item that is kept stands after none but items from before its first occurrence. -/
theorem distinctBy_split {before after : List α} {item : α} (new : item ∉ before)
    (kept : item ∈ distinctBy key (before ++ item :: after)) :
    ∃ front back, distinctBy key (before ++ item :: after) = front ++ item :: back ∧
      front ⊆ before := by
  induction before with
  | nil => exact ⟨[], _, rfl, List.nil_subset _⟩
  | cons first rest ih =>
    rw [List.mem_cons, not_or] at new
    obtain ⟨different, newInRest⟩ := new
    rw [List.cons_append, distinctBy] at kept ⊢
    have later := (List.mem_cons.mp kept).resolve_left different
    obtain ⟨keptInRest, otherKey⟩ := List.mem_filter.mp later
    obtain ⟨front, back, split, subset⟩ := ih newInRest keptInRest
    refine ⟨first :: front.filter (fun later => key later != key first),
      back.filter (fun later => key later != key first), ?_, ?_⟩
    · rw [split, List.filter_append, List.filter_cons, if_pos otherKey, List.cons_append]
    · exact List.cons_subset_cons _ fun _ member => subset (List.mem_filter.mp member).1

end ClassProfile
