import ClassProfile.Keyed

/-! JSON values. An object keeps its fields as they are written, repeated keys
included; the last field of a key is the one that counts. Whole numbers are
exact and of any size, all others are floating point. -/
namespace ClassProfile

inductive Json where
  | null
  | bool (value : Bool)
  | int (value : Int)
  | float (value : Float)
  | string (text : String)
  | array (items : List Json)
  | object (fields : List (String × Json))

namespace Json

/-- The value of the last field with the key. -/
def lookup (key : String) : List (String × Json) → Option Json
  | [] => none
  | (name, value) :: rest =>
    match lookup key rest with
    | some later => some later
    | none => if name = key then some value else none

/-- The keys, each once and where it comes first. -/
def keys (fields : List (String × Json)) : List String := distinctBy id (fields.map Prod.fst)

/-- The value of a field; values that are no objects have none. -/
def field? (key : String) : Json → Option Json
  | object fields => lookup key fields
  | _ => none

theorem sizeOf_lookup_lt {key : String} {fields : List (String × Json)} {value : Json}
    (h : lookup key fields = some value) : sizeOf value < sizeOf fields := by
  induction fields with
  | nil => simp [lookup] at h
  | cons field rest ih =>
    obtain ⟨name, first⟩ := field
    simp only [lookup] at h
    split at h
    · next later found =>
      have := ih (found.trans h)
      simp only [List.cons.sizeOf_spec, Prod.mk.sizeOf_spec]
      omega
    · split at h
      · simp only [Option.some.injEq] at h
        subst h
        simp only [List.cons.sizeOf_spec, Prod.mk.sizeOf_spec]
        omega
      · simp at h

theorem sizeOf_field?_lt {key : String} {json value : Json}
    (h : json.field? key = some value) : sizeOf value < sizeOf json := by
  cases json with
  | object fields =>
    have : sizeOf value < sizeOf fields := sizeOf_lookup_lt h
    simp only [object.sizeOf_spec]
    omega
  | _ => simp [field?] at h

end Json
end ClassProfile
