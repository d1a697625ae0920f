import ClassProfile.Json.Basic
import ClassProfile.Schema.Issue

/-! Reading the fields of a record and the items of a list. What reads a part is
told that the part is smaller than the whole, so that records may nest. -/
namespace ClassProfile.Schema

def text : Json → Checked String
  | .string value => .ok value
  | _ => fault .notText

def asciiLower (value : String) : String := String.ofList (value.toList.map Char.toLower)

/-- The words that stand for a truth value, in any case. -/
def flagWords : List (String × Bool) :=
  [("0", false), ("off", false), ("f", false), ("false", false), ("n", false), ("no", false),
    ("1", true), ("on", true), ("t", true), ("true", true), ("y", true), ("yes", true)]

/-- A whole number as a truth value. Only numbers of 64 bits are considered. -/
def flagOfInt (value : Int) : Checked Bool :=
  if value = 0 then .ok false
  else if value = 1 then .ok true
  else if -9223372036854775808 ≤ value ∧ value < 9223372036854775808 then
    fault .unreadableFlag
  else fault .notFlag

/-- A truth value, or a number or word that stands for one. -/
def flag : Json → Checked Bool
  | .bool value => .ok value
  | .int value => flagOfInt value
  | .float value =>
    if value == 0 then .ok false
    else if value == 1 then .ok true
    else if value == value.floor && decide (value.abs < 9223372036854775808) then
      fault .unreadableFlag
    else fault .notFlag
  | .string word =>
    match flagWords.lookup (asciiLower word) with
    | some value => .ok value
    | none => fault .unreadableFlag
  | _ => fault .notFlag

/-- The field of a record that has to be there. -/
def required (key : String) (json : Json)
    (read : (part : Json) → sizeOf part < sizeOf json → Checked α) : Checked α :=
  match h : json.field? key with
  | some part => under (.field key) (read part (Json.sizeOf_field?_lt h))
  | none => under (.field key) (fault .missing)

/-- The field of a record that may be left out. -/
def defaulted (key : String) (default : α) (json : Json)
    (read : (part : Json) → sizeOf part < sizeOf json → Checked α) : Checked α :=
  match h : json.field? key with
  | some part => under (.field key) (read part (Json.sizeOf_field?_lt h))
  | none => .ok default

def nullable (read : Json → Checked α) : Json → Checked (Option α)
  | .null => .ok none
  | json => (read json).map some

/-- The items of a list, the first of which is at the given position. -/
def eachFrom (position : Nat) (items : List α) (read : α → Checked β) : Checked (List β) :=
  match items with
  | [] => .ok []
  | item :: rest =>
    (Except.ok List.cons : Checked (β → List β → List β))
      |> also (under (.index position) (read item))
      |> also (eachFrom (position + 1) rest read)

def each (json : Json) (read : (item : Json) → sizeOf item < sizeOf json → Checked α) :
    Checked (List α) :=
  match json with
  | .array items =>
    eachFrom 0 items.attach fun ⟨item, member⟩ => read item (by
      have := List.sizeOf_lt_of_mem member
      simp only [Json.array.sizeOf_spec]
      omega)
  | _ => fault .notList

/-- What is read of a record; other values are refused. -/
def record (json : Json) (read : Checked α) : Checked α :=
  match json with
  | .object _ => read
  | _ => fault .notRecord

end ClassProfile.Schema
