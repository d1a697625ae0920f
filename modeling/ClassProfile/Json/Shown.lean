import ClassProfile.Decimal.Shortest
import ClassProfile.Json.Basic
import ClassProfile.Text.Quoted

/-! JSON values as messages show them: words in upper case at their start, text in
quotes as elsewhere in messages, a blank after each comma and colon, and each key
once. -/
namespace ClassProfile.Json

/-- Joins what a list shows and encloses it. -/
def enclosed (opening closing : String) (parts : List String) : String :=
  opening ++ String.intercalate ", " parts ++ closing

def shown : Json → String
  | .null => "None"
  | .bool true => "True"
  | .bool false => "False"
  | .int value => toString value
  | .float value => Decimal.plainLayout.text value
  | .string text => Text.quoted text
  | .array items => enclosed "[" "]" (items.attach.map fun ⟨item, _⟩ => item.shown)
  | .object fields =>
    enclosed "\x7b" "\x7d" ((keys fields).map fun key =>
      Text.quoted key ++ ": " ++
        match _h : lookup key fields with
        | some value => value.shown
        | none => "")
  termination_by json => sizeOf json
  decreasing_by
    · have := List.sizeOf_lt_of_mem ‹_›
      simp only [array.sizeOf_spec]
      omega
    · have := sizeOf_lookup_lt _h
      simp only [object.sizeOf_spec]
      omega

end ClassProfile.Json
