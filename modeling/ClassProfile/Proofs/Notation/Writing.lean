import Mathlib.Data.List.Chain
import ClassProfile.Proofs.Notation.Acceptance
import ClassProfile.Proofs.Notation.Scanning
import ClassProfile.Proofs.Resolution

/-! Writing shapes in the notation. The shapes that can be written are those that reading
can give, and each is read back from its lexemes whatever blanks stand around them, as
long as no two names run together. -/
namespace ClassProfile

mutual

/-- The lexemes of a shape in the notation. -/
def Shape.lexemes : Shape → List Notation.Lexeme
  | .scalar type => [.name type.name]
  | .array element => element.lexemes ++ [.symbol .openBracket, .symbol .closeBracket]
  | .generic base arguments =>
    .name base.name :: .symbol .less :: Shape.argumentLexemes arguments ++ [.symbol .greater]
  | .wildcard upper lower =>
    .symbol .question :: Shape.boundLexemes "extends" upper ++ Shape.boundLexemes "super" lower
  | .typeVariable name => [.name name]

/-- The lexemes of arguments, with commas between them. -/
def Shape.argumentLexemes : List Shape → List Notation.Lexeme
  | [] => []
  | [last] => last.lexemes
  | argument :: next :: rest =>
    argument.lexemes ++ .symbol .comma :: Shape.argumentLexemes (next :: rest)

/-- The lexemes of a bound that may be missing, after the word for it. -/
def Shape.boundLexemes (word : String) : Option Shape → List Notation.Lexeme
  | none => []
  | some bound => .name word :: bound.lexemes

end

namespace Notation

/-- Where a shape stands: on its own or below arrays and bounds, or directly as an argument. -/
inductive Place where
  | type | argument

/-- The shape can be written in the place. Its types are known by dotted names, of which the
type variables among them stand alone. A generic has an argument at least, and a wildcard
stands as an argument only and has one bound at most, which is a type. -/
inductive Writable (typeVariables : List String) : Place → Shape → Prop where
  | scalar (isName : IsName name.toList) (other : name ∉ typeVariables) :
      Writable typeVariables place (.scalar (.named name))
  | typeVariable (isName : IsName name.toList) (known : name ∈ typeVariables) :
      Writable typeVariables place (.typeVariable name)
  | array (inside : Writable typeVariables .type element) :
      Writable typeVariables place (.array element)
  | generic (isName : IsName base.toList) (other : base ∉ typeVariables) (nonempty : arguments ≠ [])
      (each : ∀ argument ∈ arguments, Writable typeVariables .argument argument) :
      Writable typeVariables place (.generic (.named base) arguments)
  | unbounded : Writable typeVariables .argument (.wildcard none none)
  | upper (inside : Writable typeVariables .type bound) :
      Writable typeVariables .argument (.wildcard (some bound) none)
  | lower (inside : Writable typeVariables .type bound) :
      Writable typeVariables .argument (.wildcard none (some bound))

def Lexeme.isName : Lexeme → Bool
  | name _ => true
  | symbol _ => false

/-- A lexeme and the blanks after it. -/
structure Piece where
  lexeme : Lexeme
  blanks : List Char

def Piece.chars (piece : Piece) : List Char := piece.lexeme.text.toList ++ piece.blanks

/-- There is nothing but blanks before the pieces and after their lexemes, and there are
some between two names. -/
structure LaidOut (blanks : List Char) (pieces : List Piece) : Prop where
  before : ∀ c ∈ blanks, Text.isBlank c = true
  after : ∀ piece ∈ pieces, ∀ c ∈ piece.blanks, Text.isBlank c = true
  apart : pieces.IsChain fun piece next =>
    piece.lexeme.isName = true → next.lexeme.isName = true → piece.blanks ≠ []

/-- The tokens of the pieces where the blanks before the first of them start at the column. -/
def placed (column : Nat) (blanks : List Char) : List Piece → List Token
  | [] => []
  | piece :: pieces =>
    ⟨piece.lexeme, column + blanks.length⟩ ::
      placed (column + blanks.length + piece.lexeme.text.toList.length) piece.blanks pieces

variable {typeVariables : List String}

/-! Derivations of what can be written. -/

theorem exists_argumentsTree {arguments : List Shape} (nonempty : arguments ≠ [])
    (each : ∀ argument ∈ arguments, ∃ tree : ArgumentTree, tree.Admitted typeVariables ∧
      tree.shape typeVariables = argument ∧ tree.lexemes = argument.lexemes) :
    ∃ trees : ArgumentsTree, trees.Admitted typeVariables ∧
      trees.shapes typeVariables = arguments ∧
      trees.lexemes = Shape.argumentLexemes arguments := by
  induction arguments with
  | nil => contradiction
  | cons argument rest ih =>
    obtain ⟨⟨tree, admitted, rfl, same⟩, later⟩ := List.forall_mem_cons.mp each
    cases rest with
    | nil => exact ⟨.last tree, admitted, rfl, same⟩
    | cons next rest =>
      obtain ⟨trees, admittedRest, shapes, lexemes⟩ := ih (List.cons_ne_nil _ _) later
      refine ⟨.more tree trees, ⟨admitted, admittedRest⟩, ?_, ?_⟩
      · rw [ArgumentsTree.shapes, shapes]
      · rw [ArgumentsTree.lexemes, same, lexemes, Shape.argumentLexemes]

/-- What can be written as an argument has a derivation, and it is that of a type if the
shape can be written as one. -/
theorem Writable.exists_tree (writable : Writable typeVariables place shape) :
    ∃ tree : ArgumentTree, tree.Admitted typeVariables ∧ tree.shape typeVariables = shape ∧
      tree.lexemes = shape.lexemes ∧ (place = .type → ∃ type, tree = .type type) := by
  induction writable with
  | @scalar name place isName other =>
    refine ⟨.type (.name name), trivial, ?_, rfl, fun _ => ⟨_, rfl⟩⟩
    rw [ArgumentTree.shape, TypeTree.shape, if_neg other]
  | @typeVariable name place isName known =>
    refine ⟨.type (.name name), trivial, ?_, rfl, fun _ => ⟨_, rfl⟩⟩
    rw [ArgumentTree.shape, TypeTree.shape, if_pos known]
  | @array element place _ ih =>
    obtain ⟨_, admitted, rfl, same, isType⟩ := ih
    obtain ⟨type, rfl⟩ := isType rfl
    refine ⟨.type (.array type), admitted, rfl, ?_, fun _ => ⟨_, rfl⟩⟩
    rw [Shape.lexemes, ← same]
    rfl
  | @generic base arguments place isName other nonempty _ ih =>
    have each : ∀ argument ∈ arguments, ∃ tree : ArgumentTree, tree.Admitted typeVariables ∧
        tree.shape typeVariables = argument ∧ tree.lexemes = argument.lexemes := by
      intro argument member
      obtain ⟨tree, admitted, same, lexemes, -⟩ := ih argument member
      exact ⟨tree, admitted, same, lexemes⟩
    obtain ⟨trees, admitted, shapes, lexemes⟩ := exists_argumentsTree nonempty each
    refine ⟨.type (.applied base trees), ⟨other, admitted⟩, ?_, ?_, fun _ => ⟨_, rfl⟩⟩
    · rw [ArgumentTree.shape, TypeTree.shape, shapes]
    · rw [Shape.lexemes, ← lexemes]
      rfl
  | unbounded => exact ⟨.unbounded, trivial, rfl, rfl, nofun⟩
  | upper _ ih =>
    obtain ⟨_, admitted, rfl, same, isType⟩ := ih
    obtain ⟨type, rfl⟩ := isType rfl
    refine ⟨.upper type, admitted, rfl, ?_, nofun⟩
    rw [Shape.lexemes, Shape.boundLexemes, Shape.boundLexemes, List.append_nil, ← same]
    rfl
  | lower _ ih =>
    obtain ⟨_, admitted, rfl, same, isType⟩ := ih
    obtain ⟨type, rfl⟩ := isType rfl
    refine ⟨.lower type, admitted, rfl, ?_, nofun⟩
    rw [Shape.lexemes, Shape.boundLexemes, Shape.boundLexemes, ← same]
    rfl

theorem derivable_of_writable (writable : Writable typeVariables .type shape) :
    Derivable typeVariables shape.lexemes shape := by
  obtain ⟨_, admitted, same, lexemes, isType⟩ := writable.exists_tree
  obtain ⟨tree, rfl⟩ := isType rfl
  exact ⟨tree, admitted, lexemes, same⟩

mutual

/-- What a derivation of well-formed lexemes denotes can be written. -/
theorem TypeTree.writable {place : Place} : (tree : TypeTree) → tree.Admitted typeVariables →
    (∀ lexeme ∈ tree.lexemes, lexeme.WellFormed) →
      Writable typeVariables place (tree.shape typeVariables)
  | .name text, _, wellFormed => by
    have isName : IsName text.toList := wellFormed _ List.mem_cons_self
    rw [TypeTree.shape]
    split
    · next known => exact .typeVariable isName known
    · next other => exact .scalar isName other
  | .applied text arguments, admitted, wellFormed => by
    have isName : IsName text.toList := wellFormed _ List.mem_cons_self
    rw [TypeTree.lexemes] at wellFormed
    have inside : ∀ lexeme ∈ arguments.lexemes, lexeme.WellFormed := by
      intro lexeme member
      exact wellFormed lexeme (by simp [member])
    obtain ⟨nonempty, each⟩ := arguments.writable admitted.2 inside
    exact .generic isName admitted.1 nonempty each
  | .array element, admitted, wellFormed => by
    rw [TypeTree.lexemes, List.forall_mem_append] at wellFormed
    exact .array (element.writable admitted wellFormed.1)

theorem ArgumentsTree.writable : (trees : ArgumentsTree) → trees.Admitted typeVariables →
    (∀ lexeme ∈ trees.lexemes, lexeme.WellFormed) → trees.shapes typeVariables ≠ [] ∧
      ∀ argument ∈ trees.shapes typeVariables, Writable typeVariables .argument argument
  | .last argument, admitted, wellFormed => by
    refine ⟨List.cons_ne_nil _ _, ?_⟩
    rw [ArgumentsTree.shapes, List.forall_mem_singleton]
    exact argument.writable admitted wellFormed
  | .more argument rest, admitted, wellFormed => by
    rw [ArgumentsTree.lexemes, List.forall_mem_append, List.forall_mem_cons] at wellFormed
    refine ⟨List.cons_ne_nil _ _, ?_⟩
    rw [ArgumentsTree.shapes, List.forall_mem_cons]
    exact ⟨argument.writable admitted.1 wellFormed.1,
      (rest.writable admitted.2 wellFormed.2.2).2⟩

theorem ArgumentTree.writable : (argument : ArgumentTree) → argument.Admitted typeVariables →
    (∀ lexeme ∈ argument.lexemes, lexeme.WellFormed) →
      Writable typeVariables .argument (argument.shape typeVariables)
  | .unbounded, _, _ => .unbounded
  | .upper bound, admitted, wellFormed => by
    rw [ArgumentTree.lexemes, List.forall_mem_cons, List.forall_mem_cons] at wellFormed
    exact .upper (bound.writable admitted wellFormed.2.2)
  | .lower bound, admitted, wellFormed => by
    rw [ArgumentTree.lexemes, List.forall_mem_cons, List.forall_mem_cons] at wellFormed
    exact .lower (bound.writable admitted wellFormed.2.2)
  | .type type, admitted, wellFormed => type.writable admitted wellFormed

end

/-! Texts. -/

theorem writable_of_read (result : read typeVariables text = .ok shape) :
    Writable typeVariables .type shape := by
  obtain ⟨tokens, scanned, tree, admitted, lexed, rfl⟩ := read_eq_ok_iff.mp result
  apply tree.writable admitted
  rw [lexed]
  exact wellFormed_of_scan scanned

theorem of_mem_argumentLexemes {arguments : List Shape}
    (member : lexeme ∈ Shape.argumentLexemes arguments) :
    lexeme = .symbol .comma ∨ ∃ argument ∈ arguments, lexeme ∈ argument.lexemes := by
  induction arguments with
  | nil =>
    rw [Shape.argumentLexemes] at member
    contradiction
  | cons argument rest ih =>
    cases rest with
    | nil => exact .inr ⟨argument, List.mem_cons_self, member⟩
    | cons next rest =>
      rw [Shape.argumentLexemes, List.mem_append, List.mem_cons] at member
      obtain first | comma | later := member
      · exact .inr ⟨argument, List.mem_cons_self, first⟩
      · exact .inl comma
      · obtain comma | ⟨other, otherMember, inside⟩ := ih later
        · exact .inl comma
        · exact .inr ⟨other, List.mem_cons_of_mem _ otherMember, inside⟩

theorem wellFormed_lexemes (writable : Writable typeVariables place shape) :
    ∀ lexeme ∈ shape.lexemes, lexeme.WellFormed := by
  induction writable with
  | scalar isName => exact List.forall_mem_singleton.mpr isName
  | typeVariable isName => exact List.forall_mem_singleton.mpr isName
  | array _ ih =>
    rw [Shape.lexemes, List.forall_mem_append]
    exact ⟨ih, by simp [Lexeme.WellFormed]⟩
  | generic isName _ _ _ ih =>
    rw [Shape.lexemes, List.forall_mem_append, List.forall_mem_cons, List.forall_mem_cons]
    refine ⟨⟨isName, trivial, ?_⟩, by simp [Lexeme.WellFormed]⟩
    intro lexeme member
    obtain rfl | ⟨argument, argumentMember, inside⟩ := of_mem_argumentLexemes member
    · trivial
    · exact ih argument argumentMember lexeme inside
  | unbounded => exact List.forall_mem_singleton.mpr trivial
  | upper _ ih =>
    have word : IsName "extends".toList := by decide +kernel
    rw [Shape.lexemes, Shape.boundLexemes, Shape.boundLexemes, List.append_nil,
      List.forall_mem_cons, List.forall_mem_cons]
    exact ⟨trivial, word, ih⟩
  | lower _ ih =>
    have word : IsName "super".toList := by decide +kernel
    rw [Shape.lexemes, Shape.boundLexemes, Shape.boundLexemes, List.singleton_append,
      List.forall_mem_cons, List.forall_mem_cons]
    exact ⟨trivial, word, ih⟩

theorem resolve_of_writable (writable : Writable typeVariables place shape) (policy : Policy) :
    ∃ resolution, policy.resolve shape = .ok resolution := by
  have wellFormed : ¬policy.Malforms shape := by
    rintro ⟨base, rfl, -⟩
    cases writable with
    | generic _ _ nonempty => exact nonempty rfl
  obtain ⟨part, found⟩ := Policy.not_malforms_iff.mp wellFormed
  obtain ⟨resolution, resolved, -⟩ := Policy.resolve_of_part found
  exact ⟨resolution, resolved⟩

theorem LaidOut.rest (laid : LaidOut blanks (piece :: pieces)) :
    LaidOut piece.blanks pieces where
  before := laid.after piece List.mem_cons_self
  after := (List.forall_mem_cons.mp laid.after).2
  apart := (List.isChain_cons.mp laid.apart).2

/-- A name is followed by a blank, a symbol or nothing. -/
theorem LaidOut.ends (laid : LaidOut blanks (piece :: pieces))
    (named : piece.lexeme.isName = true) {name : List Char} (isName : IsName name) :
    Ends name (piece.blanks ++ pieces.flatMap Piece.chars) := by
  apply ends_of_outsideNames isName
  intro c head
  cases after : piece.blanks with
  | cons d more =>
    rw [after] at head
    obtain rfl := Option.some.inj head
    have blank : Text.isBlank d = true :=
      laid.after piece List.mem_cons_self d (by rw [after]; exact List.mem_cons_self)
    exact outsideNames_of_isBlank blank
  | nil =>
    rw [after, List.nil_append] at head
    cases pieces with
    | nil => contradiction
    | cons next pieces =>
      cases lexeme : next.lexeme with
      | name text =>
        have separate := (List.isChain_cons.mp laid.apart).1 next rfl named
        exact absurd after (separate (by rw [lexeme]; rfl))
      | symbol symbol =>
        have first : symbol.char = c := by
          simpa [Piece.chars, lexeme, Lexeme.text] using head
        rw [← first]
        exact outsideNames_char symbol

theorem map_lexeme_placed (column : Nat) (blanks : List Char) (pieces : List Piece) :
    (placed column blanks pieces).map Token.lexeme = pieces.map Piece.lexeme := by
  induction pieces generalizing column blanks with
  | nil => rfl
  | cons piece pieces ih => rw [placed, List.map_cons, ih, List.map_cons]

/-- Pieces laid out are scanned as their lexemes, each where it stands. -/
theorem LaidOut.scans {pieces : List Piece} (laid : LaidOut blanks pieces)
    (wellFormed : ∀ lexeme ∈ pieces.map Piece.lexeme, lexeme.WellFormed) (column : Nat) :
    Scans column (blanks ++ pieces.flatMap Piece.chars) (placed column blanks pieces) [] := by
  induction pieces generalizing blanks column with
  | nil => exact Scans.blanks laid.before .done
  | cons piece pieces ih =>
    obtain ⟨first, later⟩ := List.forall_mem_cons.mp wellFormed
    obtain ⟨lexeme, after⟩ := piece
    have scans := ih laid.rest later (column + blanks.length + lexeme.text.toList.length)
    rw [List.flatMap_cons, Piece.chars, List.append_assoc, placed]
    apply Scans.blanks laid.before
    cases lexeme with
    | name text =>
      have named := Scans.name first (laid.ends rfl first) scans
      rwa [String.ofList_toList] at named
    | symbol symbol =>
      have single : (Lexeme.symbol symbol).text.toList = [symbol.char] := by
        simp [Lexeme.text]
      rw [single] at scans ⊢
      exact .symbol scans

theorem read_of_laidOut {pieces : List Piece} (writable : Writable typeVariables .type shape)
    (laid : LaidOut blanks pieces) (lexemes : pieces.map Piece.lexeme = shape.lexemes) :
    read typeVariables (String.ofList (blanks ++ pieces.flatMap Piece.chars)) = .ok shape := by
  have wellFormed := wellFormed_lexemes writable
  rw [← lexemes] at wellFormed
  have scanned : scan (String.ofList (blanks ++ pieces.flatMap Piece.chars)) =
      .ok (placed 1 blanks pieces) := by
    rw [scan, String.toList_ofList]
    exact scanFrom_eq_ok_iff.mpr (laid.scans wellFormed 1)
  refine read_eq_ok_iff.mpr ⟨_, scanned, ?_⟩
  rw [map_lexeme_placed, lexemes]
  exact derivable_of_writable writable

/-- Lexemes can always be laid out, with a space after each. -/
theorem exists_laidOut (lexemes : List Lexeme) :
    ∃ pieces, LaidOut [] pieces ∧ pieces.map Piece.lexeme = lexemes := by
  refine ⟨lexemes.map fun lexeme => ⟨lexeme, [' ']⟩, ⟨List.forall_mem_nil _, ?_, ?_⟩, ?_⟩
  · intro piece member c blank
    obtain ⟨lexeme, -, rfl⟩ := List.mem_map.mp member
    obtain rfl := List.mem_singleton.mp blank
    decide
  · apply List.Pairwise.isChain
    rw [List.pairwise_map]
    exact List.pairwise_of_forall fun _ _ _ _ => List.cons_ne_nil _ _
  · rw [List.map_map]
    exact List.map_id lexemes

/-- A shape that can be written is read back from its lexemes, with any blanks before,
between and after them as long as there are some between two names. What can be read is
what can be written, so no type that has been read is malformed under any policy. -/
theorem read_inverts_writing (typeVariables : List String) :
    (∀ shape blanks pieces, Writable typeVariables .type shape → LaidOut blanks pieces →
      pieces.map Piece.lexeme = shape.lexemes →
        read typeVariables (String.ofList (blanks ++ pieces.flatMap Piece.chars)) = .ok shape) ∧
    (∀ shape, Writable typeVariables .type shape ↔
      ∃ text, read typeVariables text = .ok shape) ∧
    ∀ text shape, read typeVariables text = .ok shape →
      ∀ policy : Policy, ∃ resolution, policy.resolve shape = .ok resolution := by
  refine ⟨fun shape blanks pieces => read_of_laidOut, fun shape => ⟨?_, ?_⟩, ?_⟩
  · intro writable
    obtain ⟨pieces, laid, lexemes⟩ := exists_laidOut shape.lexemes
    exact ⟨_, read_of_laidOut writable laid lexemes⟩
  · rintro ⟨text, result⟩
    exact writable_of_read result
  · intro text shape result policy
    exact resolve_of_writable (writable_of_read result) policy

/-- Arrays of a type variable as the bound of a wildcard, and a type named as that bound is. -/
def ledger : Shape :=
  .generic (.named "java.util.Map")
    [.wildcard (some (.array (.typeVariable "T"))) none, .scalar (.named "extends")]

/-- The shape with a wide space after the first of two names, and blanks where none are needed. -/
def ledgerPieces : List Piece :=
  [⟨.name "java.util.Map", []⟩, ⟨.symbol .less, []⟩, ⟨.symbol .question, []⟩,
    ⟨.name "extends", ['\u3000']⟩, ⟨.name "T", []⟩, ⟨.symbol .openBracket, ['\t']⟩,
    ⟨.symbol .closeBracket, []⟩, ⟨.symbol .comma, []⟩, ⟨.name "extends", [' ']⟩,
    ⟨.symbol .greater, ['\n']⟩]

theorem read_inverts_writing_ledger :
    Writable ["T"] .type ledger ∧ LaidOut [' '] ledgerPieces ∧
      ledgerPieces.map Piece.lexeme = ledger.lexemes ∧
      read ["T"] " java.util.Map<?extends\u3000T[\t],extends >\n" = .ok ledger ∧
      ∃ resolution, Policy.standard.resolve ledger = .ok resolution := by
  have writable : Writable ["T"] .type ledger := by
    refine .generic (by decide +kernel) (by decide) (List.cons_ne_nil _ _) ?_
    intro argument member
    obtain rfl | rfl : argument = _ ∨ argument = _ := by simpa using member
    · exact .upper (.array (.typeVariable (by decide +kernel) (by decide)))
    · exact .scalar (by decide +kernel) (by decide)
  have blank : Text.isBlank '\u3000' ∧ Text.isBlank '\t' ∧ Text.isBlank ' ' ∧
      Text.isBlank '\n' := by decide
  have after : ∀ piece ∈ ledgerPieces, ∀ c ∈ piece.blanks, Text.isBlank c = true := by
    simpa [ledgerPieces] using blank
  have laid : LaidOut [' '] ledgerPieces :=
    ⟨List.forall_mem_singleton.mpr blank.2.2.1, after, by decide⟩
  have lexemes : ledgerPieces.map Piece.lexeme = ledger.lexemes := rfl
  obtain ⟨reads, -, resolves⟩ := read_inverts_writing ["T"]
  have result := reads ledger [' '] ledgerPieces writable laid lexemes
  exact ⟨writable, laid, lexemes, result, resolves _ _ result Policy.standard⟩

end Notation
end ClassProfile
