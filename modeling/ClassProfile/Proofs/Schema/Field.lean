import ClassProfile.Proofs.Reading
import ClassProfile.Schema.Field

/-! Records of which nothing is wrong. All issues are collected, and so a record is read
exactly if none of its parts has any. A part that may be left out is read as its usual
value where it is. -/
namespace ClassProfile.Schema

variable {json part : Json} {key : String} {step : Step} {value default : α}
  {read : Json → Checked α}

theorem under_eq_ok_iff {checked : Checked α} :
    under step checked = .ok value ↔ checked = .ok value := by
  cases checked with
  | error issues => simp [under]
  | ok found => simp [under]

theorem also_eq_ok_iff {checked : Checked α} {build : Checked (α → β)} {result : β} :
    also checked build = .ok result ↔
      ∃ make value, build = .ok make ∧ checked = .ok value ∧ make value = result := by
  cases build with
  | error issues =>
    cases checked with
    | error more => simp [also]
    | ok value => simp [also]
  | ok make =>
    rw [also, map_eq_ok_iff]
    simp

theorem record_eq_ok_iff {checked : Checked α} : record json checked = .ok value ↔
    (∃ fields, json = .object fields) ∧ checked = .ok value := by
  cases json with
  | object fields => simp [record]
  | _ => simp [record, fault]

theorem required_of_some (found : json.field? key = some part) :
    required key json (fun part _ => read part) = under (.field key) (read part) := by
  unfold required
  split
  · next other otherFound =>
    obtain rfl := Option.some.inj (found.symm.trans otherFound)
    rfl
  · next missing =>
    rw [missing] at found
    contradiction

theorem required_eq_ok_iff : required key json (fun part _ => read part) = .ok value ↔
    ∃ part, json.field? key = some part ∧ read part = .ok value := by
  cases found : json.field? key with
  | none =>
    have missing : required key json (fun part _ => read part) =
        under (.field key) (fault .missing) := by
      unfold required
      split
      · next part other =>
        rw [found] at other
        contradiction
      · rfl
    rw [missing, under_eq_ok_iff]
    simp [fault]
  | some part =>
    rw [required_of_some found, under_eq_ok_iff]
    simp

theorem defaulted_of_none (missing : json.field? key = none) :
    defaulted key default json (fun part _ => read part) = .ok default := by
  unfold defaulted
  split
  · next part found =>
    rw [missing] at found
    contradiction
  · rfl

theorem defaulted_of_some (found : json.field? key = some part) :
    defaulted key default json (fun part _ => read part) = under (.field key) (read part) := by
  unfold defaulted
  split
  · next other otherFound =>
    obtain rfl := Option.some.inj (found.symm.trans otherFound)
    rfl
  · next missing =>
    rw [missing] at found
    contradiction

theorem nullable_of_ne_null (notNull : json ≠ .null) :
    nullable read json = (read json).map some := by
  cases json with
  | null => contradiction
  | _ => rfl

theorem eachFrom_eq_ok_iff {position : Nat} {items : List α} {check : α → Checked β}
    {values : List β} : eachFrom position items check = .ok values ↔
      List.Forall₂ (fun item value => check item = .ok value) items values := by
  induction items generalizing position values with
  | nil => simp [eachFrom, eq_comm]
  | cons item rest ih =>
    simp only [eachFrom, also_eq_ok_iff, under_eq_ok_iff, ih, Except.ok.injEq,
      List.forall₂_cons_left_iff]
    constructor
    · rintro ⟨_, later, ⟨_, value, rfl, first, rfl⟩, others, rfl⟩
      exact ⟨value, later, first, others, rfl⟩
    · rintro ⟨value, later, first, others, rfl⟩
      exact ⟨_, later, ⟨_, value, rfl, first, rfl⟩, others, rfl⟩

/-- A list is read exactly if each of its items is; nothing but a list is read as one. -/
theorem each_eq_ok_iff {values : List α} : each json (fun item _ => read item) = .ok values ↔
    ∃ items, json = .array items ∧
      List.Forall₂ (fun item value => read item = .ok value) items values := by
  cases json with
  | array items =>
    have attached : List.Forall₂ (fun item value => read item = .ok value) items values ↔
        List.Forall₂ (fun item value => read item.val = .ok value) items.attach values := by
      conv_lhs => rw [← List.attach_map_subtype_val items, List.forall₂_map_left_iff]
    simp only [Json.array.injEq, exists_eq_left', attached]
    exact eachFrom_eq_ok_iff
  | _ => simp [each, fault]

theorem each_map_eq_ok {write : α → Json} {values : List α}
    (back : ∀ value ∈ values, read (write value) = .ok value) :
    each (.array (values.map write)) (fun item _ => read item) = .ok values :=
  each_eq_ok_iff.mpr ⟨_, rfl, forall₂_map_iff.mpr back⟩

end ClassProfile.Schema
