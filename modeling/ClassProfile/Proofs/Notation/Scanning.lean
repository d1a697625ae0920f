import ClassProfile.Notation.Token

/-! How a text falls into tokens. Names are given by their own rules, without regard to how
they are scanned, and a token is checked with the text after it at hand: a name ends where
no longer name goes on. Scanning finds the tokens of a text that consists of them, and in
any other text stops at the first character that no token starts with. -/
namespace ClassProfile

theorem Text.mem_of_within {ranges : List (Nat × Nat)} {n : Nat}
    (inside : within ranges n = true) :
    n ∈ ranges.flatMap fun (first, last) => List.range' first (last + 1 - first) := by
  obtain ⟨⟨first, last⟩, member, bounds⟩ := List.any_eq_true.mp inside
  simp only [Bool.and_eq_true, decide_eq_true_eq] at bounds
  refine List.mem_flatMap.mpr ⟨_, member, ?_⟩
  rw [List.mem_range'_1]
  omega

namespace Notation

/-- A letter, a low line or a dollar sign, and then word characters and dollar signs. -/
def IsPart : List Char → Prop
  | [] => False
  | c :: rest => isNameStart c = true ∧ ∀ d ∈ rest, isNamePart d = true

/-- Parts with a dot between any two of them. -/
inductive IsName : List Char → Prop where
  | part (part : IsPart chars) : IsName chars
  | dotted (part : IsPart chars) (rest : IsName more) : IsName (chars ++ '.' :: more)

/-- What may follow the first character of a name. -/
inductive IsTail : List Char → Prop where
  | nil : IsTail []
  | char (part : isNamePart c = true) (rest : IsTail tail) : IsTail (c :: tail)
  | dot (start : isNameStart c = true) (rest : IsTail tail) : IsTail ('.' :: c :: tail)

/-- The lexeme is one that a text can contain. -/
def Lexeme.WellFormed : Lexeme → Prop
  | name text => IsName text.toList
  | symbol _ => True

/-- No longer name than this one stands before the text. -/
def Ends (name text : List Char) : Prop :=
  ∀ more, more <+: text → IsName (name ++ more) → more = []

/-- From the column on, the text falls into the tokens, with blanks around them, and a
rest. A name ends where it must, the rest included. -/
inductive Scans : Nat → List Char → List Token → List Char → Prop where
  | done : Scans column rest [] rest
  | blank (blank : Text.isBlank c = true) (later : Scans (column + 1) text tokens rest) :
      Scans column (c :: text) tokens rest
  | symbol (later : Scans (column + 1) text tokens rest) :
      Scans column (symbol.char :: text) (⟨.symbol symbol, column⟩ :: tokens) rest
  | name (isName : IsName chars) (ends : Ends chars text)
      (later : Scans (column + chars.length) text tokens rest) :
      Scans column (chars ++ text) (⟨.name (String.ofList chars), column⟩ :: tokens) rest

/-- The character is no blank, and no token starts with it. -/
structure Foreign (c : Char) : Prop where
  notBlank : Text.isBlank c = false
  startsNone : ∀ lexeme : Lexeme, lexeme.WellFormed → lexeme.text.toList.head? ≠ some c

/-! Characters. -/

/-- The character can stand nowhere in a name. -/
def OutsideNames (c : Char) : Prop :=
  isNameStart c = false ∧ isNamePart c = false ∧ c ≠ '.'

instance : DecidablePred OutsideNames := fun c =>
  inferInstanceAs (Decidable (isNameStart c = false ∧ isNamePart c = false ∧ c ≠ '.'))

theorem outsideNames_of_isBlank {c : Char} (blank : Text.isBlank c = true) :
    OutsideNames c := by
  have all : ∀ n ∈ Text.blankRanges.flatMap fun (first, last) =>
      List.range' first (last + 1 - first), OutsideNames (Char.ofNat n) := by
    decide +kernel
  have found := all c.toNat (Text.mem_of_within blank)
  rwa [Char.ofNat_toNat] at found

theorem outsideNames_char (symbol : Symbol) : OutsideNames symbol.char := by
  cases symbol <;> decide +kernel

theorem isBlank_char (symbol : Symbol) : Text.isBlank symbol.char = false := by
  cases symbol <;> decide

@[simp] theorem ofChar?_char (symbol : Symbol) :
    Symbol.ofChar? symbol.char = some symbol := by
  cases symbol <;> decide

theorem char_of_ofChar? {c : Char} {symbol : Symbol} (found : Symbol.ofChar? c = some symbol) :
    c = symbol.char := by
  have same := List.find?_some found
  exact (beq_iff_eq.mp same).symm

theorem ofChar?_of_isNameStart {c : Char} (start : isNameStart c = true) :
    Symbol.ofChar? c = none := by
  cases found : Symbol.ofChar? c with
  | none => rfl
  | some symbol =>
    rw [char_of_ofChar? found, (outsideNames_char symbol).1] at start
    contradiction

theorem isBlank_of_isNameStart {c : Char} (start : isNameStart c = true) :
    Text.isBlank c = false := by
  rw [← Bool.not_eq_true]
  intro blank
  rw [(outsideNames_of_isBlank blank).1] at start
  contradiction

theorem isNamePart_dot : isNamePart '.' = false := by decide

/-! Names. -/

theorem IsTail.append {first second : List Char} (tail : IsTail first) (more : IsTail second) :
    IsTail (first ++ second) := by
  induction tail with
  | nil => exact more
  | char part _ ih => exact .char part ih
  | dot start _ ih => exact .dot start ih

theorem isTail_of_forall {chars : List Char} (parts : ∀ c ∈ chars, isNamePart c = true) :
    IsTail chars := by
  induction chars with
  | nil => exact .nil
  | cons c rest ih =>
    obtain ⟨part, later⟩ := List.forall_mem_cons.mp parts
    exact .char part (ih later)

theorem exists_of_isName {chars : List Char} (isName : IsName chars) :
    ∃ c tail, chars = c :: tail ∧ isNameStart c = true ∧ IsTail tail := by
  induction isName with
  | @part chars part =>
    cases chars with
    | nil => exact part.elim
    | cons c rest => exact ⟨c, rest, rfl, part.1, isTail_of_forall part.2⟩
  | @dotted chars more part _ ih =>
    cases chars with
    | nil => exact part.elim
    | cons c rest =>
      obtain ⟨d, tail, rfl, start, later⟩ := ih
      have inside : IsTail (rest ++ '.' :: d :: tail) :=
        (isTail_of_forall part.2).append (.dot start later)
      exact ⟨c, rest ++ '.' :: d :: tail, rfl, part.1, inside⟩

theorem isName_of_isTail {c : Char} {tail : List Char} (start : isNameStart c = true)
    (inside : IsTail tail) : IsName (c :: tail) := by
  induction inside generalizing c with
  | nil => exact .part ⟨start, List.forall_mem_nil _⟩
  | @char d tail part _ ih =>
    -- The character joins the part that the rest of the name begins with.
    have shorter : IsName (c :: tail) := ih start
    generalize same : c :: tail = name at shorter
    cases shorter with
    | part whole =>
      obtain rfl := same
      exact .part ⟨whole.1, List.forall_mem_cons.mpr ⟨part, whole.2⟩⟩
    | @dotted chars more first rest =>
      cases chars with
      | nil => exact first.elim
      | cons e chars =>
        obtain ⟨rfl, rfl⟩ := List.cons.inj same
        have longer : IsPart (c :: d :: chars) :=
          ⟨first.1, List.forall_mem_cons.mpr ⟨part, first.2⟩⟩
        exact .dotted longer rest
  | @dot d tail next _ ih =>
    have alone : IsPart [c] := ⟨start, List.forall_mem_nil _⟩
    exact .dotted alone (ih next)

theorem isName_cons_iff {c : Char} {tail : List Char} :
    IsName (c :: tail) ↔ isNameStart c = true ∧ IsTail tail := by
  constructor
  · intro isName
    obtain ⟨d, other, same, start, inside⟩ := exists_of_isName isName
    obtain ⟨rfl, rfl⟩ := List.cons.inj same
    exact ⟨start, inside⟩
  · rintro ⟨start, inside⟩
    exact isName_of_isTail start inside

theorem nameTail_char {c : Char} (part : isNamePart c = true) (text : List Char) :
    nameTail (c :: text) = c :: nameTail text := by
  have notDot : ∀ d rest, c = '.' → text ≠ d :: rest := by
    rintro d rest rfl
    rw [isNamePart_dot] at part
    contradiction
  rw [nameTail.eq_2 _ _ notDot, if_pos part]

theorem nameTail_dot {c : Char} (start : isNameStart c = true) (text : List Char) :
    nameTail ('.' :: c :: text) = '.' :: c :: nameTail text := by
  rw [nameTail, if_pos start]

theorem isTail_nameTail (text : List Char) : IsTail (nameTail text) := by
  fun_induction nameTail text with
  | case1 c rest start ih => exact .dot start ih
  | case3 c rest _ part ih => exact .char part ih
  | _ => exact .nil

theorem isPrefix_nameTail (text : List Char) : nameTail text <+: text := by
  fun_induction nameTail text with
  | case1 c rest start ih => simpa using ih
  | case3 c rest _ part ih => simpa using ih
  | _ => exact List.nil_prefix

/-- What follows the first character of a name belongs to it, and no less. -/
theorem nameTail_append {tail : List Char} (inside : IsTail tail) (text : List Char) :
    nameTail (tail ++ text) = tail ++ nameTail text := by
  induction inside with
  | nil => rfl
  | char part _ ih => rw [List.cons_append, nameTail_char part, ih, List.cons_append]
  | dot start _ ih =>
    rw [List.cons_append, List.cons_append, nameTail_dot start, ih, List.cons_append,
      List.cons_append]

theorem isTail_iff {tail : List Char} : IsTail tail ↔ nameTail tail = tail := by
  constructor
  · intro inside
    have whole := nameTail_append inside []
    rwa [List.append_nil, nameTail, List.append_nil] at whole
  · intro same
    rw [← same]
    exact isTail_nameTail tail

theorem not_isName_nil : ¬IsName [] := by
  intro isName
  obtain ⟨c, tail, same, -⟩ := exists_of_isName isName
  contradiction

instance : (chars : List Char) → Decidable (IsName chars)
  | [] => .isFalse not_isName_nil
  | c :: tail =>
    decidable_of_iff (isNameStart c = true ∧ nameTail tail = tail)
      (by rw [isName_cons_iff, isTail_iff])

theorem ends_iff {name text : List Char} (isName : IsName name) :
    Ends name text ↔ nameTail text = [] := by
  obtain ⟨c, tail, rfl, start, inside⟩ := exists_of_isName isName
  constructor
  · intro ends
    have longer : IsName (c :: tail ++ nameTail text) :=
      isName_of_isTail start (inside.append (isTail_nameTail text))
    exact ends _ (isPrefix_nameTail text) longer
  · rintro stops more ⟨rest, rfl⟩ longer
    have insideMore : IsTail (tail ++ more) := (isName_cons_iff.mp longer).2
    have whole : nameTail (tail ++ more ++ rest) = tail ++ more ++ nameTail rest :=
      nameTail_append insideMore rest
    rw [List.append_assoc, nameTail_append inside, stops, List.append_assoc] at whole
    have same := List.append_cancel_left whole
    exact (List.append_eq_nil_iff.mp same.symm).1

theorem nameTail_append_drop (text : List Char) :
    nameTail text ++ text.drop (nameTail text).length = text :=
  List.prefix_iff_eq_append.mp (isPrefix_nameTail text)

/-- A name ends where its scan does. -/
theorem ends_nameTail {c : Char} (start : isNameStart c = true) (text : List Char) :
    Ends (c :: nameTail text) (text.drop (nameTail text).length) := by
  rw [ends_iff (isName_of_isTail start (isTail_nameTail text))]
  have again := nameTail_append (isTail_nameTail text) (text.drop (nameTail text).length)
  rw [nameTail_append_drop] at again
  exact List.self_eq_append_right.mp again

theorem ends_of_outsideNames {name text : List Char} (isName : IsName name)
    (outside : ∀ c ∈ text.head?, OutsideNames c) : Ends name text := by
  rw [ends_iff isName]
  cases text with
  | nil => rfl
  | cons c rest =>
    obtain ⟨-, notPart, notDot⟩ := outside c rfl
    have other : ∀ d more, c = '.' → rest ≠ d :: more := fun _ _ same => absurd same notDot
    rw [nameTail.eq_2 _ _ other, if_neg (Bool.eq_false_iff.mp notPart)]

/-! Scanning. -/

theorem Scans.blanks {column : Nat} {blanks text rest : List Char} {tokens : List Token}
    (blank : ∀ c ∈ blanks, Text.isBlank c = true)
    (later : Scans (column + blanks.length) text tokens rest) :
    Scans column (blanks ++ text) tokens rest := by
  induction blanks generalizing column with
  | nil => exact later
  | cons c blanks ih =>
    obtain ⟨first, others⟩ := List.forall_mem_cons.mp blank
    rw [List.length_cons, Nat.add_comm blanks.length, ← Nat.add_assoc] at later
    exact .blank first (ih others later)

theorem scanFrom_blank {c : Char} (blank : Text.isBlank c = true) (column : Nat)
    (text : List Char) : scanFrom column (c :: text) = scanFrom (column + 1) text := by
  rw [scanFrom, if_pos blank]

theorem scanFrom_symbol (symbol : Symbol) (column : Nat) (text : List Char) :
    scanFrom column (symbol.char :: text) =
      (scanFrom (column + 1) text).map (⟨.symbol symbol, column⟩ :: ·) := by
  rw [scanFrom, if_neg (Bool.eq_false_iff.mp (isBlank_char symbol)), ofChar?_char]

theorem scanFrom_name {name text : List Char} (isName : IsName name) (ends : Ends name text)
    (column : Nat) : scanFrom column (name ++ text) =
      (scanFrom (column + name.length) text).map
        (⟨.name (String.ofList name), column⟩ :: ·) := by
  obtain ⟨c, tail, rfl, start, inside⟩ := exists_of_isName isName
  have stops : nameTail text = [] := (ends_iff isName).mp ends
  have whole : nameTail (tail ++ text) = tail := by
    rw [nameTail_append inside, stops, List.append_nil]
  have notBlank := Bool.eq_false_iff.mp (isBlank_of_isNameStart start)
  rw [List.cons_append, scanFrom, if_neg notBlank, ofChar?_of_isNameStart start]
  simp only [start, whole, List.drop_left, if_true, List.length_cons, Nat.add_assoc,
    Nat.add_comm 1]

/-- What a text falls into is scanned, and then the rest. -/
theorem Scans.scanFrom_eq {column : Nat} {text rest : List Char} {tokens : List Token}
    (scans : Scans column text tokens rest) : ∃ before, text = before ++ rest ∧
      scanFrom column text = (scanFrom (column + before.length) rest).map (tokens ++ ·) := by
  induction scans with
  | @done column rest =>
    refine ⟨[], rfl, ?_⟩
    cases scanFrom column rest <;> rfl
  | @blank c column text tokens rest blank _ ih =>
    obtain ⟨before, rfl, same⟩ := ih
    refine ⟨c :: before, rfl, ?_⟩
    rw [scanFrom_blank blank, same, List.length_cons, Nat.add_assoc, Nat.add_comm 1]
  | @symbol column text tokens rest symbol _ ih =>
    obtain ⟨before, rfl, same⟩ := ih
    refine ⟨symbol.char :: before, rfl, ?_⟩
    rw [scanFrom_symbol, same, List.length_cons, Nat.add_assoc, Nat.add_comm 1]
    cases scanFrom (column + (before.length + 1)) rest <;> rfl
  | @name chars text column tokens rest isName ends _ ih =>
    obtain ⟨before, rfl, same⟩ := ih
    refine ⟨chars ++ before, (List.append_assoc _ _ _).symm, ?_⟩
    rw [scanFrom_name isName ends, same, List.length_append, Nat.add_assoc]
    cases scanFrom (column + (chars.length + before.length)) rest <;> rfl

/-- The outcome of scanning is right: the text falls into the tokens, or it does so up to
a foreign character at the column of the error. -/
inductive Scanned (column : Nat) (text : List Char) : Except Error (List Token) → Prop where
  | whole (scans : Scans column text tokens []) : Scanned column text (.ok tokens)
  | foreign (split : text = before ++ c :: after) (scans : Scans column text tokens (c :: after))
      (foreign : Foreign c) :
      Scanned column text (.error ⟨.unexpectedCharacter c, column + before.length⟩)

theorem Scanned.after {column : Nat} {text : List Char} {outcome : Except Error (List Token)}
    (chars : List Char) (found : List Token)
    (scanned : Scanned (column + chars.length) text outcome)
    (scans : ∀ tokens rest, Scans (column + chars.length) text tokens rest →
      Scans column (chars ++ text) (found ++ tokens) rest) :
    Scanned column (chars ++ text) (outcome.map (found ++ ·)) := by
  cases scanned with
  | whole later => exact .whole (scans _ _ later)
  | @foreign before c rest tokens split later foreign =>
    have splitAll : chars ++ text = (chars ++ before) ++ c :: rest := by
      rw [split, List.append_assoc]
    have scanned := Scanned.foreign splitAll (scans _ _ later) foreign
    rwa [List.length_append, ← Nat.add_assoc] at scanned

theorem foreign_of_not {c : Char} (notBlank : Text.isBlank c = false)
    (notSymbol : Symbol.ofChar? c = none) (notStart : isNameStart c = false) : Foreign c where
  notBlank := notBlank
  startsNone := by
    intro lexeme wellFormed starts
    cases lexeme with
    | name text =>
      obtain ⟨d, tail, same, start, -⟩ := exists_of_isName wellFormed
      rw [Lexeme.text, same] at starts
      obtain rfl := Option.some.inj starts
      rw [notStart] at start
      contradiction
    | symbol symbol =>
      obtain rfl : symbol.char = c := by simpa [Lexeme.text] using starts
      rw [ofChar?_char] at notSymbol
      contradiction

theorem scanned_scanFrom (column : Nat) (text : List Char) :
    Scanned column text (scanFrom column text) := by
  fun_induction scanFrom column text with
  | case1 column => exact .whole .done
  | case2 column c rest blank ih =>
    have scanned := Scanned.after [c] [] ih fun _ _ later => .blank blank later
    cases outcome : scanFrom (column + 1) rest <;> simpa [outcome, Except.map] using scanned
  | case3 column c rest notBlank symbol found ih =>
    obtain rfl := char_of_ofChar? found
    exact .after [symbol.char] [⟨.symbol symbol, column⟩] ih fun _ _ later => .symbol later
  | case4 column c rest notBlank notSymbol start tail ih =>
    have isName : IsName (c :: tail) := isName_of_isTail start (isTail_nameTail rest)
    have length : column + 1 + tail.length = column + (c :: tail).length := by
      rw [List.length_cons, Nat.add_assoc, Nat.add_comm 1]
    rw [length] at ih ⊢
    have scanned := Scanned.after (c :: tail) [⟨.name (String.ofList (c :: tail)), column⟩] ih
      fun _ _ later => .name isName (ends_nameTail start rest) later
    rwa [List.cons_append, nameTail_append_drop] at scanned
  | case5 column c rest notBlank notSymbol notStart =>
    have foreign : Foreign c :=
      foreign_of_not (Bool.eq_false_iff.mpr notBlank) notSymbol (Bool.eq_false_iff.mpr notStart)
    have split : c :: rest = [] ++ c :: rest := rfl
    exact .foreign split .done foreign

theorem scanFrom_eq_ok_iff {column : Nat} {text : List Char} {tokens : List Token} :
    scanFrom column text = .ok tokens ↔ Scans column text tokens [] := by
  constructor
  · intro scanned
    have right := scanned_scanFrom column text
    rw [scanned] at right
    cases right with
    | whole scans => exact scans
  · intro scans
    obtain ⟨before, -, same⟩ := scans.scanFrom_eq
    simpa [scanFrom, Except.map] using same

theorem foreign_of_scanFrom_eq_error {column : Nat} {text : List Char} {error : Error}
    (failed : scanFrom column text = .error error) : ∃ before c after tokens,
      text = before ++ c :: after ∧ Scans column text tokens (c :: after) ∧ Foreign c ∧
        error = ⟨.unexpectedCharacter c, column + before.length⟩ := by
  have right := scanned_scanFrom column text
  rw [failed] at right
  cases right with
  | foreign split scans foreign => exact ⟨_, _, _, _, split, scans, foreign, rfl⟩

/-- A token stands in the text as it is, at its column. -/
structure StandsIn (token : Token) (column : Nat) (text : List Char) : Prop where
  wellFormed : token.lexeme.WellFormed
  slice : ∃ before after, text = before ++ token.lexeme.text.toList ++ after ∧
    token.column = column + before.length

theorem StandsIn.after {token : Token} {column : Nat} {text : List Char} (chars : List Char)
    (stands : StandsIn token (column + chars.length) text) :
    StandsIn token column (chars ++ text) := by
  obtain ⟨wellFormed, before, after, rfl, place⟩ := stands
  refine ⟨wellFormed, chars ++ before, after, ?_, ?_⟩
  · simp only [List.append_assoc]
  · rw [place, List.length_append, Nat.add_assoc]

theorem Scans.standsIn {column : Nat} {text rest : List Char} {tokens : List Token}
    (scans : Scans column text tokens rest) {token : Token} (member : token ∈ tokens) :
    StandsIn token column text := by
  induction scans with
  | done => contradiction
  | @blank c column text tokens rest _ _ ih =>
    exact .after [c] (ih member)
  | @symbol column text tokens rest symbol _ ih =>
    obtain rfl | later := List.mem_cons.mp member
    · exact ⟨trivial, [], text, by simp [Lexeme.text], rfl⟩
    · exact .after [symbol.char] (ih later)
  | @name chars text column tokens rest isName _ _ ih =>
    obtain rfl | later := List.mem_cons.mp member
    · have wellFormed : (Lexeme.name (String.ofList chars)).WellFormed := by
        simpa [Lexeme.WellFormed] using isName
      exact ⟨wellFormed, [], text, by simp [Lexeme.text], rfl⟩
    · exact .after chars (ih later)

theorem wellFormed_of_scan {text : String} {tokens : List Token}
    (scanned : scan text = .ok tokens) :
    ∀ lexeme ∈ tokens.map Token.lexeme, lexeme.WellFormed := by
  intro lexeme member
  obtain ⟨token, tokenMember, rfl⟩ := List.mem_map.mp member
  have scans : Scans 1 text.toList tokens [] := scanFrom_eq_ok_iff.mp scanned
  exact (scans.standsIn tokenMember).wellFormed

end Notation
end ClassProfile
