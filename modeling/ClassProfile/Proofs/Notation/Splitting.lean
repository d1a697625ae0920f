import ClassProfile.Proofs.Notation.Writing

/-! Where tokens stand. A text can be scanned exactly if it is made of names, symbols and blanks
with no two names side by side, and there is one way alone to make it of these. Each token is
cut out of the text at its column, they stand one after another, and what they leave is blank.
No name of the text reaches over a name token. -/
namespace ClassProfile.Notation

/-- The text is made of the pieces, after some blanks. -/
structure Composed (blanks : List Char) (pieces : List Piece) (text : List Char) : Prop where
  laid : LaidOut blanks pieces
  wellFormed : ∀ lexeme ∈ pieces.map Piece.lexeme, lexeme.WellFormed
  text_eq : text = blanks ++ pieces.flatMap Piece.chars

/-- The column after the last character of the token. -/
def Token.stop (token : Token) : Nat := token.column + token.lexeme.text.toList.length

/-- The character in the column belongs to the token. -/
def Token.Covers (token : Token) (column : Nat) : Prop :=
  token.column ≤ column ∧ column < token.stop

/-- The tokens lie in the text as they were cut out of it: each stands at its column, and before
it the ones in front of it have stopped; a character that belongs to none is blank; and a name
of the text that reaches over a name token is that token. -/
structure Splits (text : List Char) (tokens : List Token) : Prop where
  stands : ∀ token ∈ tokens, StandsIn token 1 text
  apart : tokens.Pairwise fun token next => token.column < next.column ∧ token.stop ≤ next.column
  outside : ∀ i c, text[i]? = some c → (∀ token ∈ tokens, ¬token.Covers (i + 1)) →
    Text.isBlank c = true
  maximal : ∀ token ∈ tokens, token.lexeme.isName = true → ∀ before name after,
    text = before ++ name ++ after → IsName name → before.length + 1 ≤ token.column →
      token.stop ≤ before.length + 1 + name.length →
        before.length + 1 = token.column ∧ name = token.lexeme.text.toList

/-! Names side by side. -/

theorem toNat_lt_of_isAlpha {c : Char} (letter : c.isAlpha = true) : c.toNat < 128 := by
  rcases (Bool.or_eq_true _ _).mp letter with upper | lower
  · obtain ⟨-, last⟩ : 'A'.val ≤ c.val ∧ c.val ≤ 'Z'.val := of_decide_eq_true upper
    exact Nat.lt_of_le_of_lt (UInt32.le_iff_toNat_le.mp last) (by decide)
  · have last : c.val ≤ 'z'.val := of_decide_eq_true ((Bool.and_eq_true _ _).mp lower).2
    exact Nat.lt_of_le_of_lt (UInt32.le_iff_toNat_le.mp last) (by decide)

theorem isNamePart_of_isNameStart {c : Char} (start : isNameStart c = true) :
    isNamePart c = true := by
  simp only [isNameStart, Bool.or_eq_true, beq_iff_eq] at start
  rcases start with (letter | rfl) | rfl
  · have ascii := toNat_lt_of_isAlpha letter
    simp [isNamePart, Text.isWordCharacter, ascii, Char.isAlphanum, letter]
  · decide
  · decide

/-- Where a name ends, no name starts. -/
theorem isNameStart_of_ends {name text : List Char} {c : Char} (isName : IsName name)
    (ends : Ends name (c :: text)) : isNameStart c = false := by
  rw [← Bool.not_eq_true]
  intro start
  obtain ⟨d, tail, rfl, first, inside⟩ := exists_of_isName isName
  have longer : IsName (d :: tail ++ [c]) :=
    isName_of_isTail first (inside.append (.char (isNamePart_of_isNameStart start) .nil))
  exact absurd (ends [c] ⟨text, rfl⟩ longer) (List.cons_ne_nil _ _)

theorem not_ends_append {name other : List Char} (isName : IsName name) (isOther : IsName other)
    (text : List Char) : ¬Ends name (other ++ text) := by
  intro ends
  obtain ⟨c, tail, rfl, start, -⟩ := exists_of_isName isOther
  rw [isNameStart_of_ends isName ends] at start
  contradiction

/-! What scanning splits. -/

theorem placed_cons_blank (column : Nat) (c : Char) (blanks : List Char) (pieces : List Piece) :
    placed column (c :: blanks) pieces = placed (column + 1) blanks pieces := by
  cases pieces with
  | nil => rfl
  | cons piece pieces =>
    have same : column + (blanks.length + 1) = column + 1 + blanks.length := by omega
    rw [placed, placed, List.length_cons, same]

theorem Composed.blank {c : Char} (blank : Text.isBlank c = true)
    (composed : Composed blanks pieces text) : Composed (c :: blanks) pieces (c :: text) where
  laid := ⟨List.forall_mem_cons.mpr ⟨blank, composed.laid.before⟩, composed.laid.after,
    composed.laid.apart⟩
  wellFormed := composed.wellFormed
  text_eq := by rw [composed.text_eq, List.cons_append]

theorem Composed.piece {lexeme : Lexeme} (wellFormed : lexeme.WellFormed)
    (apart : ∀ next ∈ pieces.head?, lexeme.isName = true → next.lexeme.isName = true → blanks ≠ [])
    (composed : Composed blanks pieces text) :
    Composed [] (⟨lexeme, blanks⟩ :: pieces) (lexeme.text.toList ++ text) where
  laid := {
    before := List.forall_mem_nil _
    after := List.forall_mem_cons.mpr ⟨composed.laid.before, composed.laid.after⟩
    apart := List.isChain_cons.mpr ⟨apart, composed.laid.apart⟩ }
  wellFormed := List.forall_mem_cons.mpr ⟨wellFormed, composed.wellFormed⟩
  text_eq := by rw [composed.text_eq, List.flatMap_cons, Piece.chars, List.append_assoc,
    List.nil_append]

theorem Composed.not_ends {next : Piece} {name : List Char}
    (composed : Composed [] (next :: pieces) text) (named : next.lexeme.isName = true)
    (isName : IsName name) : ¬Ends name text := by
  obtain ⟨lexeme, blanks⟩ := next
  cases lexeme with
  | name other =>
    have isOther : IsName other.toList := composed.wellFormed _ List.mem_cons_self
    rw [composed.text_eq, List.nil_append, List.flatMap_cons, Piece.chars, List.append_assoc]
    exact not_ends_append isName isOther _
  | symbol symbol => contradiction

/-- What is scanned is a composition. -/
theorem Scans.exists_composed {column : Nat} {text : List Char} {tokens : List Token}
    (scans : Scans column text tokens []) :
    ∃ blanks pieces, Composed blanks pieces text ∧ tokens = placed column blanks pieces := by
  generalize nothing : [] = rest at scans
  induction scans with
  | done =>
    obtain rfl := nothing
    have laid : LaidOut [] [] := ⟨List.forall_mem_nil _, List.forall_mem_nil _, .nil⟩
    exact ⟨[], [], ⟨laid, List.forall_mem_nil _, rfl⟩, rfl⟩
  | blank blank _ ih =>
    obtain ⟨blanks, pieces, composed, rfl⟩ := ih nothing
    exact ⟨_, pieces, composed.blank blank, (placed_cons_blank _ _ _ _).symm⟩
  | @symbol column text tokens rest symbol _ ih =>
    obtain ⟨blanks, pieces, composed, rfl⟩ := ih nothing
    have wellFormed : (Lexeme.symbol symbol).WellFormed := trivial
    have whole := composed.piece wellFormed fun _ _ named => absurd named Bool.false_ne_true
    exact ⟨[], _, by simpa [Lexeme.text] using whole, by simp [placed, Lexeme.text]⟩
  | @name chars text column tokens rest isName ends _ ih =>
    obtain ⟨blanks, pieces, composed, rfl⟩ := ih nothing
    have wellFormed : (Lexeme.name (String.ofList chars)).WellFormed := by
      simpa [Lexeme.WellFormed] using isName
    have apart : ∀ next ∈ pieces.head?, (Lexeme.name (String.ofList chars)).isName = true →
        next.lexeme.isName = true → blanks ≠ [] := by
      rintro next head - named rfl
      obtain ⟨more, rfl⟩ := List.head?_eq_some_iff.mp head
      exact composed.not_ends named isName ends
    have whole := composed.piece wellFormed apart
    exact ⟨[], _, by simpa [Lexeme.text] using whole, by simp [placed, Lexeme.text]⟩

/-- The text and the tokens determine the composition. -/
theorem eq_of_placed_eq {column : Nat} {blanks others : List Char} {pieces more : List Piece}
    (texts : blanks ++ pieces.flatMap Piece.chars = others ++ more.flatMap Piece.chars)
    (tokens : placed column blanks pieces = placed column others more) :
    blanks = others ∧ pieces = more := by
  induction pieces generalizing column blanks others more with
  | nil =>
    cases more with
    | nil => exact ⟨List.append_cancel_right texts, rfl⟩
    | cons next more => contradiction
  | cons piece pieces ih =>
    cases more with
    | nil => contradiction
    | cons next more =>
      rw [placed, placed, List.cons.injEq, Token.mk.injEq] at tokens
      obtain ⟨⟨lexeme, place⟩, later⟩ := tokens
      have length : blanks.length = others.length := Nat.add_left_cancel place
      obtain ⟨rfl, rests⟩ := List.append_inj texts length
      rw [List.flatMap_cons, List.flatMap_cons, Piece.chars, Piece.chars, lexeme,
        List.append_assoc, List.append_assoc] at rests
      rw [lexeme] at later
      obtain ⟨after, rfl⟩ := ih (List.append_cancel_left rests) later
      have same : piece = next := Piece.mk.injEq .. ▸ ⟨lexeme, after⟩
      rw [same]
      exact ⟨rfl, rfl⟩

/-! Where tokens stand. -/

theorem Scans.column_le {column : Nat} {text rest : List Char} {tokens : List Token}
    (scans : Scans column text tokens rest) {token : Token} (member : token ∈ tokens) :
    column ≤ token.column := by
  obtain ⟨-, before, -, -, place⟩ := scans.standsIn member
  omega

theorem Scans.apart {column : Nat} {text rest : List Char} {tokens : List Token}
    (scans : Scans column text tokens rest) :
    tokens.Pairwise fun token next =>
      token.column < next.column ∧ token.stop ≤ next.column := by
  induction scans with
  | done => exact .nil
  | blank _ _ ih => exact ih
  | @symbol column text tokens rest symbol later ih =>
    refine .cons (fun next member => ?_) ih
    have behind := later.column_le member
    simp only [Token.stop, Lexeme.text, String.toList_singleton, List.length_singleton]
    omega
  | @name chars text column tokens rest isName _ later ih =>
    refine .cons (fun next member => ?_) ih
    have behind := later.column_le member
    obtain ⟨c, tail, rfl, -⟩ := exists_of_isName isName
    simp only [Token.stop, Lexeme.text, String.toList_ofList, List.length_cons] at behind ⊢
    omega

theorem covers_of_lt {lexeme : Lexeme} {column i : Nat} (inside : i < lexeme.text.toList.length) :
    Token.Covers ⟨lexeme, column⟩ (column + i) := by
  simp only [Token.Covers, Token.stop]
  omega

/-- A character is blank or belongs to a token. -/
theorem Scans.blank_or_covered {column : Nat} {text : List Char} {tokens : List Token}
    (scans : Scans column text tokens []) {i : Nat} {c : Char} (found : text[i]? = some c) :
    Text.isBlank c = true ∨ ∃ token ∈ tokens, token.Covers (column + i) := by
  generalize nothing : [] = rest at scans
  induction scans generalizing i with
  | done =>
    obtain rfl := nothing
    contradiction
  | @blank d column text tokens rest blank _ ih =>
    cases i with
    | zero =>
      obtain rfl := Option.some.inj found
      exact .inl blank
    | succ i =>
      rw [← Nat.add_assoc, Nat.add_right_comm]
      exact ih found nothing
  | @symbol column text tokens rest symbol _ ih =>
    cases i with
    | zero => exact .inr ⟨_, List.mem_cons_self, covers_of_lt (by simp [Lexeme.text])⟩
    | succ i =>
      rw [← Nat.add_assoc, Nat.add_right_comm]
      obtain blank | ⟨token, member, covers⟩ := ih found nothing
      · exact .inl blank
      · exact .inr ⟨token, List.mem_cons_of_mem _ member, covers⟩
  | @name chars text column tokens rest isName _ _ ih =>
    by_cases inside : i < chars.length
    · exact .inr ⟨_, List.mem_cons_self, covers_of_lt (by simpa [Lexeme.text] using inside)⟩
    · obtain ⟨j, rfl⟩ := Nat.exists_eq_add_of_le (Nat.le_of_not_lt inside)
      rw [List.getElem?_append_right (Nat.le_add_right _ _), Nat.add_sub_cancel_left] at found
      rw [← Nat.add_assoc]
      obtain blank | ⟨token, member, covers⟩ := ih found nothing
      · exact .inl blank
      · exact .inr ⟨token, List.mem_cons_of_mem _ member, covers⟩

/-! Names as long as they can be. -/

/-- The name stands in the text between what comes before and after it, and no longer one
does: the last character before it can stand in no name, and it ends where it must. -/
structure Isolated (before name after : List Char) : Prop where
  begins : ∀ c ∈ before.getLast?, OutsideNames c
  ends : Ends name after

theorem Isolated.cons {c : Char} {before name after : List Char} (outside : OutsideNames c)
    (isolated : Isolated before name after) : Isolated (c :: before) name after where
  begins := by
    rw [List.getLast?_cons]
    cases last : before.getLast? with
    | none => simpa using outside
    | some d => simpa using isolated.begins d last
  ends := isolated.ends

/-- A name token stands isolated. -/
theorem Scans.isolated {column : Nat} {text rest : List Char} {tokens : List Token}
    (scans : Scans column text tokens rest) {place : Nat} {name : String}
    (member : ⟨.name name, place⟩ ∈ tokens) :
    ∃ before after, text = before ++ name.toList ++ after ∧ place = column + before.length ∧
      Isolated before name.toList after := by
  induction scans with
  | done => contradiction
  | @blank c column text tokens rest blank _ ih =>
    obtain ⟨before, after, rfl, rfl, isolated⟩ := ih member
    refine ⟨c :: before, after, rfl, ?_, isolated.cons (outsideNames_of_isBlank blank)⟩
    rw [List.length_cons]
    omega
  | @symbol column text tokens rest symbol _ ih =>
    obtain same | later := List.mem_cons.mp member
    · simp at same
    · obtain ⟨before, after, rfl, rfl, isolated⟩ := ih later
      refine ⟨symbol.char :: before, after, rfl, ?_, isolated.cons (outsideNames_char symbol)⟩
      rw [List.length_cons]
      omega
  | @name chars text column tokens rest isName ends scans ih =>
    obtain same | later := List.mem_cons.mp member
    · obtain ⟨rfl, rfl⟩ : name = String.ofList chars ∧ place = column := by simpa using same
      refine ⟨[], text, by simp, rfl, ⟨by simp, ?_⟩⟩
      rwa [String.toList_ofList]
    · obtain ⟨before, after, rfl, rfl, isolated⟩ := ih later
      have wellFormed : IsName name.toList := (scans.standsIn later).wellFormed
      -- The name in front has ended, so the token does not stand right behind it.
      have gap : before ≠ [] := by
        rintro rfl
        rw [List.nil_append] at ends
        exact not_ends_append isName wellFormed after ends
      refine ⟨chars ++ before, after, by simp, by simp [Nat.add_assoc], ⟨?_, isolated.ends⟩⟩
      rw [List.getLast?_append_of_ne_nil _ gap]
      exact isolated.begins

theorem IsTail.of_mem {tail : List Char} (inside : IsTail tail) {c : Char} (member : c ∈ tail) :
    isNamePart c = true ∨ c = '.' := by
  induction inside with
  | nil => contradiction
  | char part _ ih =>
    obtain rfl | later := List.mem_cons.mp member
    · exact .inl part
    · exact ih later
  | dot start _ ih =>
    obtain rfl | later := List.mem_cons.mp member
    · exact .inr rfl
    · obtain rfl | last := List.mem_cons.mp later
      · exact .inl (isNamePart_of_isNameStart start)
      · exact ih last

theorem not_outsideNames_of_mem {name : List Char} (isName : IsName name) {c : Char}
    (member : c ∈ name) : ¬OutsideNames c := by
  obtain ⟨d, tail, rfl, start, inside⟩ := exists_of_isName isName
  rintro ⟨notStart, notPart, notDot⟩
  obtain rfl | later := List.mem_cons.mp member
  · exact Bool.false_ne_true (notStart.symm.trans start)
  · obtain part | dot := inside.of_mem later
    · exact Bool.false_ne_true (notPart.symm.trans part)
    · exact notDot dot

/-- No other name reaches over an isolated one. -/
theorem Isolated.eq_of_reaches {before name after front longer back : List Char}
    (isolated : Isolated before name after) (isLonger : IsName longer)
    (texts : before ++ name ++ after = front ++ longer ++ back)
    (starts : front.length ≤ before.length)
    (stops : before.length + name.length ≤ front.length + longer.length) :
    front = before ∧ longer = name := by
  rw [List.append_assoc, List.append_assoc] at texts
  obtain ⟨left, rfl⟩ : front <+: before :=
    List.prefix_of_prefix_length_le ⟨longer ++ back, texts.symm⟩ ⟨name ++ after, rfl⟩ starts
  rw [List.append_assoc, List.append_cancel_left_eq, ← List.append_assoc] at texts
  rw [List.length_append, Nat.add_assoc] at stops
  obtain ⟨right, rfl⟩ : left ++ name <+: longer :=
    List.prefix_of_prefix_length_le ⟨after, texts⟩ ⟨back, rfl⟩
      (by rw [List.length_append]; omega)
  -- What reaches further to the left takes in a character that is in no name.
  rcases left.eq_nil_or_concat with rfl | ⟨more, last, rfl⟩
  · rw [List.nil_append] at texts isLonger ⊢
    rw [List.append_assoc, List.append_cancel_left_eq] at texts
    obtain rfl := isolated.ends right ⟨back, texts.symm⟩ isLonger
    exact ⟨(List.append_nil _).symm, List.append_nil _⟩
  · have outside : OutsideNames last := isolated.begins last (by simp)
    exact absurd outside (not_outsideNames_of_mem isLonger (by simp))

theorem splits_of_scans {text : List Char} {tokens : List Token} (scans : Scans 1 text tokens []) :
    Splits text tokens where
  stands _ member := scans.standsIn member
  apart := scans.apart
  outside := by
    intro i c found uncovered
    obtain blank | ⟨token, member, covers⟩ := scans.blank_or_covered found
    · exact blank
    · rw [Nat.add_comm] at covers
      exact absurd covers (uncovered token member)
  maximal := by
    rintro ⟨lexeme, place⟩ member named front longer back texts isLonger starts stops
    cases lexeme with
    | name name =>
      obtain ⟨before, after, rfl, rfl, isolated⟩ := scans.isolated member
      simp only [Token.stop, Lexeme.text] at starts stops ⊢
      obtain ⟨rfl, rfl⟩ := isolated.eq_of_reaches isLonger texts (by omega) (by omega)
      exact ⟨Nat.add_comm _ _, rfl⟩
    | symbol symbol => contradiction

/-- A text is scanned exactly if it is made of pieces, with blanks between two names, and then
as their lexemes, each where it stands. No text is made of pieces in two ways. The tokens are
cut out of the text one after another, they leave nothing but blanks, and no longer name than
the one of a token reaches over it. -/
theorem scan_splits_uniquely (text : String) :
    (∀ tokens, scan text = .ok tokens ↔ ∃ blanks pieces,
      Composed blanks pieces text.toList ∧ tokens = placed 1 blanks pieces) ∧
    (∀ blanks pieces others more, Composed blanks pieces text.toList →
      Composed others more text.toList → blanks = others ∧ pieces = more) ∧
    ∀ tokens, scan text = .ok tokens → Splits text.toList tokens := by
  have scanned : ∀ blanks pieces, Composed blanks pieces text.toList →
      scan text = .ok (placed 1 blanks pieces) := by
    intro blanks pieces composed
    rw [scan, composed.text_eq]
    exact scanFrom_eq_ok_iff.mpr (composed.laid.scans composed.wellFormed 1)
  refine ⟨fun tokens => ⟨fun ok => ?_, ?_⟩, ?_, fun tokens ok => ?_⟩
  · exact (scanFrom_eq_ok_iff.mp ok).exists_composed
  · rintro ⟨blanks, pieces, composed, rfl⟩
    exact scanned blanks pieces composed
  · intro blanks pieces others more composed other
    have tokens := (scanned blanks pieces composed).symm.trans (scanned others more other)
    exact eq_of_placed_eq (composed.text_eq.symm.trans other.text_eq) (Except.ok.inj tokens)
  · exact splits_of_scans (scanFrom_eq_ok_iff.mp ok)

/-- Two names with a wide space between them, and brackets apart. -/
def holdPieces : List Piece :=
  [⟨.name "acme.$Hold", ['\u3000']⟩, ⟨.name "super", []⟩, ⟨.symbol .openBracket, [' ']⟩,
    ⟨.symbol .closeBracket, []⟩]

theorem scan_splits_uniquely_hold :
    Composed ['\t'] holdPieces "\tacme.$Hold\u3000super[ ]".toList ∧
      scan "\tacme.$Hold\u3000super[ ]" = .ok [⟨.name "acme.$Hold", 2⟩, ⟨.name "super", 13⟩,
        ⟨.symbol .openBracket, 18⟩, ⟨.symbol .closeBracket, 20⟩] ∧
      Splits "\tacme.$Hold\u3000super[ ]".toList [⟨.name "acme.$Hold", 2⟩, ⟨.name "super", 13⟩,
        ⟨.symbol .openBracket, 18⟩, ⟨.symbol .closeBracket, 20⟩] := by
  have blank : Text.isBlank '\t' ∧ Text.isBlank '\u3000' ∧ Text.isBlank ' ' := by decide
  have laid : LaidOut ['\t'] holdPieces :=
    ⟨List.forall_mem_singleton.mpr blank.1, by simpa [holdPieces] using blank.2, by decide⟩
  have names : IsName "acme.$Hold".toList ∧ IsName "super".toList := by decide +kernel
  have wellFormed : ∀ lexeme ∈ holdPieces.map Piece.lexeme, lexeme.WellFormed := by
    simpa [holdPieces, Lexeme.WellFormed] using names
  have composed : Composed ['\t'] holdPieces "\tacme.$Hold\u3000super[ ]".toList :=
    ⟨laid, wellFormed, by decide⟩
  obtain ⟨scans, -, splits⟩ := scan_splits_uniquely "\tacme.$Hold\u3000super[ ]"
  have scanned := (scans _).mpr ⟨_, _, composed, rfl⟩
  exact ⟨composed, scanned, splits _ scanned⟩

/-- A dot that no part of a name follows is not scanned. -/
example : scan "acme.1" = .error ⟨.unexpectedCharacter '.', 5⟩ := by cbv

end ClassProfile.Notation
