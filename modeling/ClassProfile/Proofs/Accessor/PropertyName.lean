import ClassProfile.Accessor.PropertyName

/-! When two accessors name one property. A getter's name is one of two words and a remainder
that starts in upper case. As long as the remainders start in ASCII they can be told from what
becomes of them, so two accessors meet over one remainder after both words, or as one of them
is called what becomes of the other's remainder. Beyond ASCII two capital letters may share
their lower-case counterpart. -/
namespace ClassProfile

/-- The words that the name of a getter may start with. -/
def getterWords : List String := ["get", "is"]

/-- The name is one of a getter, made of the word and the remainder. -/
structure StripsOff (word name : String) (remainder : List Char) : Prop where
  known : word ∈ getterWords
  split : name.toList = word.toList ++ remainder
  upper : ∃ c ∈ remainder.head?, Text.isUpper c = true

/-- The name is one of a getter with the remainder. -/
def Strips (name : String) (remainder : List Char) : Prop :=
  ∃ word, StripsOff word name remainder

/-- If the name is one of a getter, its remainder starts with an upper-case letter of ASCII. -/
def StartsInAscii (name : String) : Prop :=
  ∀ remainder, Strips name remainder → ∃ c ∈ remainder.head?, c.isUpper = true

/-- What becomes of a remainder: it is kept if its first two characters are both in upper
case, and otherwise its first character is lowered. -/
inductive Decapitalizes : List Char → List Char → Prop where
  | kept (first : Text.isUpper c = true) (second : Text.isUpper d = true) :
      Decapitalizes (c :: d :: rest) (c :: d :: rest)
  | lowered (notBoth : ∀ d ∈ rest.head?, Text.isUpper c = true → Text.isUpper d = false) :
      Decapitalizes (c :: rest) (Text.lower c ++ rest)

/-- The second accessor asks for the property of the first, which is a getter: by the same
remainder after the other word, or, as no getter, by what becomes of the remainder. -/
inductive Meets : String → String → Prop where
  | words (getter : StripsOff "get" a remainder) (query : StripsOff "is" b remainder) :
      Meets a b
  | plain (strips : Strips a remainder) (other : ∀ remainder, ¬Strips b remainder)
      (called : Decapitalizes remainder b.toList) : Meets a b

/-! Remainders. -/

theorem remainder?_eq_some_iff {name : String} {remainder : List Char} :
    remainder? name.toList = some remainder ↔ Strips name remainder := by
  constructor
  · intro found
    unfold remainder? at found
    split at found
    · next c rest split =>
      obtain ⟨upper, same⟩ := Option.ite_none_right_eq_some.mp found
      obtain rfl := Option.some.inj same
      exact ⟨"get", by decide, split, c, rfl, upper⟩
    · next c rest split =>
      obtain ⟨upper, same⟩ := Option.ite_none_right_eq_some.mp found
      obtain rfl := Option.some.inj same
      exact ⟨"is", by decide, split, c, rfl, upper⟩
    · contradiction
  · rintro ⟨word, known, split, c, head, upper⟩
    obtain ⟨rest, rfl⟩ : ∃ rest, remainder = c :: rest := by
      cases remainder with
      | nil => contradiction
      | cons d rest => exact ⟨rest, by rw [Option.some.inj head]⟩
    obtain rfl | rfl : word = "get" ∨ word = "is" := by simpa [getterWords] using known
    · have text : name.toList = 'g' :: 'e' :: 't' :: c :: rest := split
      rw [text, remainder?, if_pos upper]
    · have text : name.toList = 'i' :: 's' :: c :: rest := split
      rw [text, remainder?, if_pos upper]

theorem startsInAscii_iff {name : String} :
    StartsInAscii name ↔ (remainder? name.toList).all (·.head?.any Char.isUpper) = true := by
  simp [StartsInAscii, ← remainder?_eq_some_iff, Option.all_eq_true, Option.any_eq_true]

instance (name : String) : Decidable (StartsInAscii name) :=
  decidable_of_iff _ startsInAscii_iff.symm

theorem ne_nil_of_strips {name : String} {remainder : List Char}
    (strips : Strips name remainder) : remainder ≠ [] := by
  rintro rfl
  obtain ⟨word, getter⟩ := strips
  obtain ⟨c, head, -⟩ := getter.upper
  contradiction

theorem remainder?_eq_none_iff {name : String} :
    remainder? name.toList = none ↔ ∀ remainder, ¬Strips name remainder := by
  rw [Option.eq_none_iff_forall_ne_some]
  exact forall_congr' fun _ => not_congr remainder?_eq_some_iff

theorem strips_or_plain (name : String) :
    (∃ remainder, Strips name remainder) ∨ ∀ remainder, ¬Strips name remainder := by
  cases found : remainder? name.toList with
  | some remainder => exact .inl ⟨remainder, remainder?_eq_some_iff.mp found⟩
  | none => exact .inr (remainder?_eq_none_iff.mp found)

theorem propertyName_of_strips {name : String} {remainder : List Char}
    (strips : Strips name remainder) :
    (propertyName name).toList = decapitalized remainder := by
  rw [propertyName, remainder?_eq_some_iff.mpr strips]
  exact String.toList_ofList

theorem propertyName_of_plain {name : String} (plain : ∀ remainder, ¬Strips name remainder) :
    propertyName name = name := by
  rw [propertyName, remainder?_eq_none_iff.mpr plain]

/-! What becomes of remainders. -/

theorem decapitalizes_iff {remainder text : List Char} (nonempty : remainder ≠ []) :
    Decapitalizes remainder text ↔ text = decapitalized remainder := by
  constructor
  · intro decapitalizes
    cases decapitalizes with
    | @kept c d rest first second => rw [decapitalized, first, second, Bool.and_self, if_pos rfl]
    | @lowered c rest notBoth =>
      cases rest with
      | nil => rw [decapitalized, List.append_nil]
      | cons d rest =>
        have other : ¬(Text.isUpper c && Text.isUpper d) = true := by
          simpa using notBoth d rfl
        rw [decapitalized, if_neg other]
  · rintro rfl
    fun_cases decapitalized remainder with
    | case1 => contradiction
    | case2 c =>
      have lowered : Decapitalizes [c] (Text.lower c ++ []) := .lowered (by simp)
      rwa [List.append_nil] at lowered
    | case3 c d rest both =>
      obtain ⟨first, second⟩ : Text.isUpper c = true ∧ Text.isUpper d = true := by simpa using both
      exact .kept first second
    | case4 c d rest both =>
      refine .lowered ?_
      simpa using both

/-! Remainders that start in ASCII. -/

/-- The text with its first character in upper case, if it is a letter of ASCII. -/
def capitalized : List Char → List Char
  | [] => []
  | c :: rest => c.toUpper :: rest

theorem lower_of_isUpper {c : Char} (upper : c.isUpper = true) :
    Text.lower c = [c.toLower] ∧ c.toLower.toUpper = c ∧ c.toUpper = c := by
  have all : ∀ n ∈ List.range 128, (Char.ofNat n).isUpper = true →
      Text.lower (Char.ofNat n) = [(Char.ofNat n).toLower] ∧
        (Char.ofNat n).toLower.toUpper = Char.ofNat n ∧ (Char.ofNat n).toUpper = Char.ofNat n := by
    decide +kernel
  have ascii : c.toNat < 128 := by
    obtain ⟨-, last⟩ : 'A'.val ≤ c.val ∧ c.val ≤ 'Z'.val := of_decide_eq_true upper
    exact Nat.lt_of_le_of_lt (UInt32.le_iff_toNat_le.mp last) (by decide)
  have found := all c.toNat (List.mem_range.mpr ascii)
  rw [Char.ofNat_toNat] at found
  exact found upper

/-- A remainder that starts in ASCII is found again in what becomes of it. -/
theorem capitalized_decapitalized {remainder : List Char}
    (ascii : ∃ c ∈ remainder.head?, c.isUpper = true) :
    capitalized (decapitalized remainder) = remainder := by
  obtain ⟨c, head, upper⟩ := ascii
  obtain ⟨lowered, back, same⟩ := lower_of_isUpper upper
  fun_cases decapitalized remainder with
  | case1 => rfl
  | case2 d =>
    obtain rfl := Option.some.inj head
    rw [lowered, capitalized, back]
  | case3 d e rest both =>
    obtain rfl := Option.some.inj head
    rw [capitalized, same]
  | case4 d e rest notBoth =>
    obtain rfl := Option.some.inj head
    rw [lowered, List.singleton_append, capitalized, back]

theorem eq_of_decapitalized_eq {remainder other : List Char}
    (ascii : ∃ c ∈ remainder.head?, c.isUpper = true)
    (otherAscii : ∃ c ∈ other.head?, c.isUpper = true)
    (same : decapitalized remainder = decapitalized other) : remainder = other := by
  rw [← capitalized_decapitalized ascii, same, capitalized_decapitalized otherAscii]

/-! Two accessors. -/

variable {a b : String} {remainder other : List Char}

theorem Meets.propertyName_eq (meets : Meets a b) : propertyName a = propertyName b := by
  rw [← String.toList_inj]
  cases meets with
  | words getter query =>
    rw [propertyName_of_strips ⟨_, getter⟩, propertyName_of_strips ⟨_, query⟩]
  | plain strips other called =>
    rw [propertyName_of_strips strips, propertyName_of_plain other]
    exact ((decapitalizes_iff (ne_nil_of_strips strips)).mp called).symm

theorem remainder_eq_of_propertyName_eq (first : StartsInAscii a) (second : StartsInAscii b)
    (strips : Strips a remainder) (otherStrips : Strips b other)
    (same : propertyName a = propertyName b) : remainder = other := by
  have texts : decapitalized remainder = decapitalized other := by
    rw [← propertyName_of_strips strips, same, propertyName_of_strips otherStrips]
  exact eq_of_decapitalized_eq (first _ strips) (second _ otherStrips) texts

theorem eq_of_stripsOff {word : String} (getter : StripsOff word a remainder)
    (other : StripsOff word b remainder) : a = b :=
  String.toList_inj.mp (getter.split.trans other.split.symm)

/-- Two accessors with one remainder have it after different words. -/
theorem meets_of_strips (differ : a ≠ b) (strips : Strips a remainder)
    (otherStrips : Strips b remainder) : Meets a b ∨ Meets b a := by
  obtain ⟨word, first⟩ := strips
  obtain ⟨otherWord, second⟩ := otherStrips
  have different : word ≠ otherWord := by
    rintro rfl
    exact differ (eq_of_stripsOff first second)
  have known : word = "get" ∨ word = "is" := by simpa [getterWords] using first.known
  have otherKnown : otherWord = "get" ∨ otherWord = "is" := by
    simpa [getterWords] using second.known
  obtain rfl | rfl := known <;> obtain rfl | rfl := otherKnown
  · contradiction
  · exact .inl (.words first second)
  · exact .inr (.words second first)
  · contradiction

theorem meets_of_plain (strips : Strips a remainder) (plain : ∀ other, ¬Strips b other)
    (same : propertyName a = propertyName b) : Meets a b := by
  refine .plain strips plain ((decapitalizes_iff (ne_nil_of_strips strips)).mpr ?_)
  rw [← propertyName_of_strips strips, same, propertyName_of_plain plain]

/-- Two accessors have one property name exactly if they are the two words before one
remainder, or one of them, which is no getter's name, is what becomes of the other's
remainder. After one word two remainders never meet. -/
theorem propertyName_eq_iff_meets (differ : a ≠ b) (first : StartsInAscii a)
    (second : StartsInAscii b) :
    (propertyName a = propertyName b ↔ Meets a b ∨ Meets b a) ∧
      ∀ word remainder other, StripsOff word a remainder → StripsOff word b other →
        propertyName a ≠ propertyName b := by
  refine ⟨⟨?_, ?_⟩, ?_⟩
  · intro same
    obtain ⟨remainder, strips⟩ | plain := strips_or_plain a
    · obtain ⟨other, otherStrips⟩ | otherPlain := strips_or_plain b
      · obtain rfl := remainder_eq_of_propertyName_eq first second strips otherStrips same
        exact meets_of_strips differ strips otherStrips
      · exact .inl (meets_of_plain strips otherPlain same)
    · obtain ⟨other, otherStrips⟩ | otherPlain := strips_or_plain b
      · exact .inr (meets_of_plain otherStrips plain same.symm)
      · rw [propertyName_of_plain plain, propertyName_of_plain otherPlain] at same
        exact absurd same differ
  · rintro (meets | meets)
    · exact meets.propertyName_eq
    · exact meets.propertyName_eq.symm
  · intro word remainder other getter otherGetter same
    obtain rfl :=
      remainder_eq_of_propertyName_eq first second ⟨_, getter⟩ ⟨_, otherGetter⟩ same
    exact differ (eq_of_stripsOff getter otherGetter)

/-- An abbreviation with a Greek capital meets its getter; two getters do not meet. -/
theorem propertyName_eq_iff_meets_ohm :
    (StartsInAscii "getQ\u03A9" ∧ StartsInAscii "Q\u03A9" ∧ Meets "getQ\u03A9" "Q\u03A9" ∧
      propertyName "getQ\u03A9" = propertyName "Q\u03A9") ∧
    StartsInAscii "getQ\u03C9" ∧ StripsOff "get" "getQ\u03A9" ['Q', '\u03A9'] ∧
      StripsOff "get" "getQ\u03C9" ['Q', '\u03C9'] ∧
        propertyName "getQ\u03A9" ≠ propertyName "getQ\u03C9" := by
  have ohm : StripsOff "get" "getQ\u03A9" ['Q', '\u03A9'] := ⟨by decide, by decide, 'Q', rfl, rfl⟩
  have lowered : StripsOff "get" "getQ\u03C9" ['Q', '\u03C9'] :=
    ⟨by decide, by decide, 'Q', rfl, rfl⟩
  have first : StartsInAscii "getQ\u03A9" := by decide
  have plain : StartsInAscii "Q\u03A9" := by decide
  have second : StartsInAscii "getQ\u03C9" := by decide
  have meets : Meets "getQ\u03A9" "Q\u03A9" :=
    .plain ⟨_, ohm⟩ (remainder?_eq_none_iff.mp (by decide)) (.kept rfl (by decide))
  obtain ⟨named, -⟩ := propertyName_eq_iff_meets (by decide) first plain
  obtain ⟨-, apart⟩ := propertyName_eq_iff_meets (by decide) first second
  exact ⟨⟨first, plain, meets, named.mpr (.inl meets)⟩, second, ohm, lowered,
    apart _ _ _ ohm lowered⟩

/-- The Kelvin sign is not of ASCII, and its lower-case counterpart is that of a letter. -/
example : propertyName "get\u212Aeel" = propertyName "getKeel" := by decide +kernel

end ClassProfile
