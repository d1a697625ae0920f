import ClassProfile.Json.Reading
import ClassProfile.Json.Writing
import ClassProfile.Proofs.Json.Strings

/-! Written values read back. The reader takes the tokens of any value from a state
that expects a value to one that has it, whatever arrays and objects are open
around it. The characters of a token read back as that token, whatever follows,
unless it is a number, which has no end of its own. -/
namespace ClassProfile.Json

/-- The state expects a value within the open arrays and objects. -/
def Expects (state : State) (frames : List Frame) : Prop :=
  ∀ token, token ≠ .endArray → step state token = beginValue frames token

theorem expects_value (frames : List Frame) : Expects (.value frames) frames :=
  fun _ _ => rfl

theorem expects_firstItem (outer : List Frame) :
    Expects (.firstItem outer) (.array [] :: outer) := by
  intro token different
  cases token <;> first | rfl | contradiction

theorem foldlM_cons_of_step {state next : State} {token : Token} {rest : List Token}
    (stepped : step state token = some next) :
    (token :: rest).foldlM step state = rest.foldlM step next := by
  simp [stepped]

theorem foldlM_endArray (reversed : List Json) (item : Json) (outer : List Frame)
    (rest : List Token) :
    (Token.endArray :: rest).foldlM step (.done (.array reversed :: outer) item) =
      rest.foldlM step (.done outer (.array (reversed.reverse ++ [item]))) := by
  rw [← List.reverse_cons]
  exact foldlM_cons_of_step rfl

theorem foldlM_endObject (reversed : List (String × Json)) (key : String) (value : Json)
    (outer : List Frame) (rest : List Token) :
    (Token.endObject :: rest).foldlM step (.done (.object reversed key :: outer) value) =
      rest.foldlM step (.done outer (.object (reversed.reverse ++ [(key, value)]))) := by
  rw [← List.reverse_cons]
  exact foldlM_cons_of_step rfl

mutual

/-- Reading the tokens of a value ends with the value read. -/
theorem foldlM_tokens (json : Json) (expects : Expects state frames) (rest : List Token) :
    (json.tokens ++ rest).foldlM step state = rest.foldlM step (.done frames json) := by
  match json with
  | .null | .bool _ | .int _ | .float _ | .string _ =>
    exact foldlM_cons_of_step (expects _ (by simp))
  | .array items =>
    rw [tokens, List.cons_append, List.cons_append, List.append_assoc]
    rw [foldlM_cons_of_step (expects _ (by simp))]
    by_cases empty : items = []
    · subst empty
      exact foldlM_cons_of_step rfl
    · exact foldlM_itemTokens items empty (expects_firstItem frames) rest
  | .object fields =>
    rw [tokens, List.cons_append, List.cons_append, List.append_assoc]
    rw [foldlM_cons_of_step (expects _ (by simp))]
    by_cases empty : fields = []
    · subst empty
      exact foldlM_cons_of_step rfl
    · have keyed (key : String) :
          step (.firstKey frames) (.string key) = some (.colon [] key frames) := rfl
      exact foldlM_fieldTokens fields empty keyed rest

theorem foldlM_itemTokens (items : List Json) (nonempty : items ≠ [])
    (expects : Expects state (.array reversed :: outer)) (rest : List Token) :
    (itemTokens items ++ .endArray :: rest).foldlM step state =
      rest.foldlM step (.done outer (.array (reversed.reverse ++ items))) := by
  match items with
  | [item] => rw [itemTokens, foldlM_tokens item expects, foldlM_endArray]
  | item :: next :: items =>
    simp only [itemTokens, List.cons_append, List.append_assoc]
    rw [foldlM_tokens item expects, foldlM_cons_of_step rfl]
    rw [foldlM_itemTokens (next :: items) (by simp) (expects_value _)]
    simp

theorem foldlM_fieldTokens (fields : List (String × Json)) (nonempty : fields ≠ [])
    (keyed : ∀ key, step state (.string key) = some (.colon reversed key outer))
    (rest : List Token) :
    (fieldTokens fields ++ .endObject :: rest).foldlM step state =
      rest.foldlM step (.done outer (.object (reversed.reverse ++ fields))) := by
  match fields with
  | [(key, value)] =>
    rw [fieldTokens, List.cons_append, foldlM_cons_of_step (keyed key), List.cons_append]
    rw [foldlM_cons_of_step rfl, foldlM_tokens value (expects_value _), foldlM_endObject]
  | (key, value) :: next :: fields =>
    simp only [fieldTokens, List.cons_append, List.append_assoc]
    rw [foldlM_cons_of_step (keyed key), foldlM_cons_of_step rfl]
    rw [foldlM_tokens value (expects_value _), foldlM_cons_of_step rfl]
    rw [foldlM_fieldTokens (next :: fields) (by simp) (fun _ => rfl)]
    simp

end

/-- Tokens that can all be stood in a row are taken one after the other. -/
theorem foldlM_take_of_step {tokens : List Token} {state last : State}
    (run : tokens.foldlM step state = some last) :
    (tokens.map Except.ok).foldlM take state = .ok last := by
  induction tokens generalizing state with
  | nil =>
    obtain rfl := Option.some.inj run
    rfl
  | cons token rest ih =>
    rw [List.foldlM_cons] at run
    obtain ⟨next, stepped, run⟩ := Option.bind_eq_some_iff.mp run
    have taken : take state (.ok token) = .ok next := by rw [take, stepped]
    rw [List.map_cons, List.foldlM_cons, taken]
    exact ih run

theorem readTokens_tokens (json : Json) : readTokens (json.tokens.map .ok) = .ok json := by
  have run := foldlM_tokens json (expects_value []) []
  rw [List.append_nil] at run
  rw [readTokens, foldlM_take_of_step run]
  rfl

/-- The token ends where its characters do, as those of a number need not. -/
def Token.Numberless : Token → Prop
  | .atom (.bool _) | .atom .null => True
  | .atom _ => False
  | _ => True

/-- The characters of a token read back as the token, whatever follows. -/
theorem token?_text {token : Token} (numberless : token.Numberless) :
    ∃ c text, token.text = c :: text ∧ isSpace c = false ∧
      ∀ rest, token? c (text ++ rest) = some (.ok token, rest) := by
  match token with
  | .beginArray | .endArray | .beginObject | .endObject | .comma | .colon =>
    exact ⟨_, [], rfl, by decide, fun rest => rfl⟩
  | .string text =>
    refine ⟨'"', _, rfl, by decide, ?_⟩
    intro rest
    simp [token?, stringBody?_quoted, stringOf_map_some]
  | .atom .null => exact ⟨'n', _, rfl, by decide, fun rest => rfl⟩
  | .atom (.bool true) => exact ⟨'t', _, rfl, by decide, fun rest => rfl⟩
  | .atom (.bool false) => exact ⟨'f', _, rfl, by decide, fun rest => rfl⟩

/-- Characters of tokens are cut into the tokens again. -/
theorem scanWithin_text {tokens : List Token} (numberless : ∀ token ∈ tokens, token.Numberless)
    {steps : Nat} (enough : (tokens.flatMap Token.text).length ≤ steps) :
    scanWithin steps (tokens.flatMap Token.text) = tokens.map .ok := by
  induction tokens generalizing steps with
  | nil => simp [scanWithin]
  | cons token rest ih =>
    obtain ⟨c, text, same, visible, read⟩ := token?_text (numberless token List.mem_cons_self)
    rw [List.flatMap_cons, same, List.cons_append, List.length_cons, List.length_append] at enough
    obtain ⟨steps, rfl⟩ : ∃ fewer, steps = fewer + 1 := ⟨steps - 1, by omega⟩
    have fewer : (rest.flatMap Token.text).length ≤ steps := by omega
    have scanned := ih (fun later member => numberless later (List.mem_cons_of_mem _ member)) fewer
    simp [same, scanWithin, visible, read, scanned]

/-- No number occurs in the value. -/
def Numberless (json : Json) : Prop := ∀ token ∈ json.tokens, token.Numberless

theorem read_write {json : Json} (numberless : json.Numberless) : read json.write = .ok json := by
  have scanned := scanWithin_text numberless (Nat.le_refl _)
  simp only [read, scan, write, String.toList_ofList, scanned, readTokens_tokens]

theorem numberless_string (text : String) : (string text).Numberless := by
  simp [Numberless, tokens, Token.Numberless]

theorem numberless_bool (value : Bool) : (bool value).Numberless := by
  simp [Numberless, tokens, Token.Numberless]

theorem numberless_itemTokens (items : List Json) (each : ∀ item ∈ items, item.Numberless) :
    ∀ token ∈ itemTokens items, token.Numberless := by
  match items with
  | [] => simp [itemTokens]
  | [item] => simpa [itemTokens, Numberless] using each item
  | item :: next :: items =>
    intro token member
    simp only [itemTokens, List.mem_append, List.mem_cons] at member
    rcases member with first | rfl | later
    · exact each item List.mem_cons_self token first
    · trivial
    · exact numberless_itemTokens (next :: items)
        (fun item member => each item (List.mem_cons_of_mem _ member)) token later

theorem numberless_fieldTokens (fields : List (String × Json))
    (each : ∀ field ∈ fields, field.2.Numberless) :
    ∀ token ∈ fieldTokens fields, token.Numberless := by
  match fields with
  | [] => simp [fieldTokens]
  | [(key, value)] =>
    intro token member
    simp only [fieldTokens, List.mem_cons] at member
    rcases member with rfl | rfl | value
    · trivial
    · trivial
    · exact each _ List.mem_cons_self token value
  | (key, value) :: next :: fields =>
    intro token member
    simp only [fieldTokens, List.cons_append, List.mem_append, List.mem_cons] at member
    rcases member with rfl | rfl | value | rfl | later
    · trivial
    · trivial
    · exact each _ List.mem_cons_self token value
    · trivial
    · exact numberless_fieldTokens (next :: fields)
        (fun field member => each field (List.mem_cons_of_mem _ member)) token later

theorem numberless_array {items : List Json} (each : ∀ item ∈ items, item.Numberless) :
    (array items).Numberless := by
  intro token member
  simp only [tokens, List.cons_append, List.mem_append, List.mem_cons, List.not_mem_nil,
    or_false] at member
  rcases member with rfl | inside | rfl
  · trivial
  · exact numberless_itemTokens items each token inside
  · trivial

theorem numberless_map {write : α → Json} {items : List α}
    (each : ∀ item, (write item).Numberless) :
    (array (items.map write)).Numberless := by
  apply numberless_array
  intro written member
  obtain ⟨item, _, rfl⟩ := List.mem_map.mp member
  exact each item

theorem numberless_object {fields : List (String × Json)}
    (each : ∀ field ∈ fields, field.2.Numberless) : (object fields).Numberless := by
  intro token member
  simp only [tokens, List.cons_append, List.mem_append, List.mem_cons, List.not_mem_nil,
    or_false] at member
  rcases member with rfl | inside | rfl
  · trivial
  · exact numberless_fieldTokens fields each token inside
  · trivial

theorem subset_itemTokens {items : List Json} {item : Json} (member : item ∈ items) :
    item.tokens ⊆ itemTokens items := by
  match items with
  | [first] =>
    obtain rfl := List.mem_singleton.mp member
    exact List.Subset.refl _
  | first :: next :: rest =>
    rw [itemTokens]
    · obtain rfl | later := List.mem_cons.mp member
      · exact List.subset_append_left _ _
      · exact List.subset_append_of_subset_right _
          (List.subset_cons_of_subset _ (subset_itemTokens later))
    · simp

theorem subset_fieldTokens {fields : List (String × Json)} {field : String × Json}
    (member : field ∈ fields) : field.2.tokens ⊆ fieldTokens fields := by
  match fields with
  | [(key, value)] =>
    obtain rfl := List.mem_singleton.mp member
    exact List.subset_cons_of_subset _ (List.subset_cons_of_subset _ (List.Subset.refl _))
  | (key, value) :: next :: rest =>
    rw [fieldTokens]
    · obtain rfl | later := List.mem_cons.mp member
      · exact List.subset_append_of_subset_left _
          (List.subset_cons_of_subset _ (List.subset_cons_of_subset _ (List.Subset.refl _)))
      · exact List.subset_append_of_subset_right _
          (List.subset_cons_of_subset _ (subset_fieldTokens later))
    · simp

theorem Numberless.of_item {items : List Json} (numberless : (array items).Numberless)
    {item : Json} (member : item ∈ items) : item.Numberless := by
  intro token inside
  apply numberless
  rw [tokens, List.cons_append]
  exact List.mem_cons_of_mem _ (List.mem_append_left _ (subset_itemTokens member inside))

theorem Numberless.of_field {fields : List (String × Json)}
    (numberless : (object fields).Numberless) {field : String × Json}
    (member : field ∈ fields) : field.2.Numberless := by
  intro token inside
  apply numberless
  rw [tokens, List.cons_append]
  exact List.mem_cons_of_mem _ (List.mem_append_left _ (subset_fieldTokens member inside))

end ClassProfile.Json
