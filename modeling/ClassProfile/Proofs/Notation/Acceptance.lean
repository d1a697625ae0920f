import ClassProfile.Proofs.Notation.Prefix

/-! Reading accepts exactly what the grammar derives, and gives the shape of the
derivation, of which there is never more than one. A derivation tells what the
reader does: every tree takes it from a state that expects a type to one that has
read a type of its shape, whatever lists are open around it. -/
namespace ClassProfile.Notation

variable {typeVariables : List String}

/-- A type is expected within the open lists. -/
inductive Awaits : List Frame → State → Prop where
  | type : Awaits enclosing (.type enclosing)
  | argument : Awaits (⟨arguments, .exact⟩ :: outer) (.argument arguments outer)

/-- A type of the shape has been read within the open lists. -/
inductive Holds (typeVariables : List String) (enclosing : List Frame) : Shape → State → Prop where
  | name : Holds typeVariables enclosing ((TypeTree.name text).shape typeVariables)
      (.name enclosing text column)
  | shape : Holds typeVariables enclosing shape (.shape enclosing shape)

/-- An argument of the shape has been read within the innermost list. -/
inductive HoldsArgument (typeVariables : List String) (arguments : Arguments)
    (outer : List Frame) : Shape → State → Prop where
  | mark : HoldsArgument typeVariables arguments outer (.wildcard none none) (.mark arguments outer)
  | bounded : Holds typeVariables (⟨arguments, bound⟩ :: outer) shape state →
      HoldsArgument typeVariables arguments outer (bound.argument shape) state

theorem step_of_awaits (awaits : Awaits enclosing state) (text : String) (column : Nat) :
    step typeVariables state ⟨.name text, column⟩ = .ok (.name enclosing text column) := by
  cases awaits <;> rfl

theorem step_of_holds (holds : Holds typeVariables enclosing shape state)
    (different : token.lexeme ≠ .symbol .less) :
    step typeVariables state token = afterShape enclosing shape token := by
  cases holds with
  | name => exact step_name_of_ne _ _ _ different
  | shape => rfl

theorem result?_of_holds (holds : Holds typeVariables [] shape state) :
    state.result? typeVariables = some shape := by
  obtain _ | _ := holds
  · rw [State.result?, shapeOfName_eq]
  · rfl

theorem step_of_holdsArgument (holds : HoldsArgument typeVariables arguments outer shape state)
    (ending : symbol = .comma ∨ symbol = .greater) (column : Nat) :
    step typeVariables state ⟨.symbol symbol, column⟩ =
      afterArgument arguments outer shape ⟨.symbol symbol, column⟩ := by
  cases holds with
  | mark => simp [step]
  | bounded holds =>
    rcases ending with rfl | rfl
    · exact step_of_holds holds (by simp)
    · exact step_of_holds holds (by simp)

theorem lexed_cons {tokens : List Token} (lexed : tokens.map Token.lexeme = lexeme :: lexemes) :
    ∃ column rest, tokens = ⟨lexeme, column⟩ :: rest ∧ rest.map Token.lexeme = lexemes := by
  obtain ⟨⟨_, column⟩, rest, rfl, rfl, lexedRest⟩ := List.map_eq_cons_iff.mp lexed
  exact ⟨column, rest, rfl, lexedRest⟩

theorem lexed_nil {tokens : List Token} (lexed : tokens.map Token.lexeme = []) : tokens = [] :=
  List.map_eq_nil_iff.mp lexed

mutual

/-- Reading what a tree derives ends in a state that has read its shape. -/
theorem TypeTree.runs (tree : TypeTree) (admitted : tree.Admitted typeVariables)
    (awaits : Awaits enclosing state) (lexed : tokens.map Token.lexeme = tree.lexemes) :
    ∃ last, Runs typeVariables state tokens last ∧
      Holds typeVariables enclosing (tree.shape typeVariables) last := by
  match tree with
  | .name text =>
    obtain ⟨column, _, rfl, ended⟩ := lexed_cons lexed
    obtain rfl := lexed_nil ended
    exact ⟨_, .cons (step_of_awaits awaits text column) (Runs.nil_iff.mpr rfl), .name⟩
  | .applied text arguments =>
    obtain ⟨column, _, rfl, lexedApplied⟩ := lexed_cons lexed
    obtain ⟨opening, _, rfl, lexedInside⟩ := lexed_cons lexedApplied
    obtain ⟨inside, _, rfl, lexedArguments, lexedEnd⟩ := List.map_eq_append_iff.mp lexedInside
    obtain ⟨closing, _, rfl, ended⟩ := lexed_cons lexedEnd
    obtain rfl := lexed_nil ended
    obtain ⟨last, before, shape, run, holds, shapes⟩ :=
      arguments.runs admitted.2 lexedArguments text [] enclosing
    have named : step typeVariables state ⟨.name text, column⟩ =
        .ok (.name enclosing text column) := step_of_awaits awaits text column
    have opened : step typeVariables (.name enclosing text column) ⟨.symbol .less, opening⟩ =
        .ok (.argument ⟨text, []⟩ enclosing) := by
      rw [step_name_less, if_neg admitted.1]
    have closed := step_of_holdsArgument holds (.inr rfl) closing
    refine ⟨_, .cons named (.cons opened (run.concat closed)), ?_⟩
    simp only [Arguments.generic, shapes]
    exact .shape
  | .array element =>
    obtain ⟨inside, _, rfl, lexedElement, lexedPair⟩ := List.map_eq_append_iff.mp lexed
    obtain ⟨opening, _, rfl, lexedEnd⟩ := lexed_cons lexedPair
    obtain ⟨closing, _, rfl, ended⟩ := lexed_cons lexedEnd
    obtain rfl := lexed_nil ended
    obtain ⟨last, run, holds⟩ := element.runs admitted awaits lexedElement
    have different : (Token.mk (.symbol .openBracket) opening).lexeme ≠ .symbol .less := by simp
    have opened := step_of_holds holds different
    exact ⟨_, run.append (.cons opened (.cons rfl (Runs.nil_iff.mpr rfl))), .shape⟩

@[inherit_doc TypeTree.runs]
theorem ArgumentsTree.runs (trees : ArgumentsTree) (admitted : trees.Admitted typeVariables)
    (lexed : tokens.map Token.lexeme = trees.lexemes) (base : String) (reversed : List Shape)
    (outer : List Frame) :
    ∃ last before shape, Runs typeVariables (.argument ⟨base, reversed⟩ outer) tokens last ∧
      HoldsArgument typeVariables ⟨base, before⟩ outer shape last ∧
      (shape :: before).reverse = reversed.reverse ++ trees.shapes typeVariables := by
  match trees with
  | .last argument =>
    obtain ⟨last, run, holds⟩ := argument.runs admitted lexed ⟨base, reversed⟩ outer
    exact ⟨last, reversed, _, run, holds, by simp [ArgumentsTree.shapes]⟩
  | .more argument rest =>
    obtain ⟨first, _, rfl, lexedFirst, lexedMore⟩ := List.map_eq_append_iff.mp lexed
    obtain ⟨comma, _, rfl, lexedRest⟩ := lexed_cons lexedMore
    obtain ⟨middle, run, holds⟩ := argument.runs admitted.1 lexedFirst ⟨base, reversed⟩ outer
    obtain ⟨last, before, shape, runRest, holdsLast, shapes⟩ :=
      rest.runs admitted.2 lexedRest base (argument.shape typeVariables :: reversed) outer
    have separated := step_of_holdsArgument holds (.inl rfl) comma
    refine ⟨last, before, shape, run.append (.cons separated runRest), holdsLast, ?_⟩
    simpa [ArgumentsTree.shapes] using shapes

@[inherit_doc TypeTree.runs]
theorem ArgumentTree.runs (argument : ArgumentTree) (admitted : argument.Admitted typeVariables)
    (lexed : tokens.map Token.lexeme = argument.lexemes) (arguments : Arguments)
    (outer : List Frame) :
    ∃ last, Runs typeVariables (.argument arguments outer) tokens last ∧
      HoldsArgument typeVariables arguments outer (argument.shape typeVariables) last := by
  match argument with
  | .unbounded =>
    obtain ⟨column, _, rfl, ended⟩ := lexed_cons lexed
    obtain rfl := lexed_nil ended
    exact ⟨_, .cons rfl (Runs.nil_iff.mpr rfl), .mark⟩
  | .upper bound =>
    obtain ⟨column, _, rfl, lexedBound⟩ := lexed_cons lexed
    obtain ⟨wordColumn, _, rfl, lexedType⟩ := lexed_cons lexedBound
    have awaits : Awaits (⟨arguments, .upper⟩ :: outer) _ := .type
    obtain ⟨last, run, holds⟩ := bound.runs admitted awaits lexedType
    have holdsUpper := HoldsArgument.bounded holds
    exact ⟨last, .cons rfl (.cons rfl run), holdsUpper⟩
  | .lower bound =>
    obtain ⟨column, _, rfl, lexedBound⟩ := lexed_cons lexed
    obtain ⟨wordColumn, _, rfl, lexedType⟩ := lexed_cons lexedBound
    have awaits : Awaits (⟨arguments, .lower⟩ :: outer) _ := .type
    obtain ⟨last, run, holds⟩ := bound.runs admitted awaits lexedType
    have holdsLower := HoldsArgument.bounded holds
    exact ⟨last, .cons rfl (.cons rfl run), holdsLower⟩
  | .type type =>
    obtain ⟨last, run, holds⟩ := type.runs admitted .argument lexed
    have holdsExact := HoldsArgument.bounded holds
    exact ⟨last, run, holdsExact⟩

end

/-- The tokens of a type are read as that type, whatever follows them. -/
theorem readTokens_of_derivable
    (derivable : Derivable typeVariables (tokens.map Token.lexeme) shape) (endColumn : Nat) :
    readTokens typeVariables endColumn tokens = .ok shape := by
  obtain ⟨tree, admitted, lexed, rfl⟩ := derivable
  have awaits : Awaits [] (.type []) := .type
  obtain ⟨last, run, holds⟩ := tree.runs admitted awaits lexed.symm
  have finished := result?_of_holds holds
  unfold Runs at run
  simp [readTokens, run, finished, bind, Except.bind]

theorem derivable_of_readTokens (read : readTokens typeVariables endColumn tokens = .ok shape) :
    Derivable typeVariables (tokens.map Token.lexeme) shape := by
  unfold readTokens at read
  cases run : tokens.foldlM (step typeVariables) (.type []) with
  | error error => rw [run] at read; contradiction
  | ok last =>
    simp only [run, bind, Except.bind] at read
    split at read
    · next whole finished =>
      obtain rfl := Except.ok.inj read
      exact ((Reached.type .none).runs run).derivable finished
    · contradiction

theorem readTokens_eq_ok_iff : readTokens typeVariables endColumn tokens = .ok shape ↔
    Derivable typeVariables (tokens.map Token.lexeme) shape :=
  ⟨derivable_of_readTokens, fun derivable => readTokens_of_derivable derivable endColumn⟩

/-- Lexemes have one derivation at most, and so one shape. -/
theorem derivation_unique {tree tree' : TypeTree}
    (derives : tree.Derives typeVariables lexemes shape)
    (derives' : tree'.Derives typeVariables lexemes shape') : tree = tree' ∧ shape = shape' := by
  let tokens : List Token := lexemes.map fun lexeme => ⟨lexeme, 0⟩
  have lexed : tokens.map Token.lexeme = lexemes := by simp [tokens, Function.comp_def]
  rw [← lexed] at derives derives'
  have read := readTokens_of_derivable ⟨tree, derives⟩ 0
  have read' := readTokens_of_derivable ⟨tree', derives'⟩ 0
  obtain rfl : shape = shape' := Except.ok.inj (read.symm.trans read')
  exact ⟨TypeTree.shape_injective (derives.shape_eq.trans derives'.shape_eq.symm), rfl⟩

theorem read_eq_ok_iff : read typeVariables text = .ok shape ↔
    ∃ tokens, scan text = .ok tokens ∧
      Derivable typeVariables (tokens.map Token.lexeme) shape := by
  unfold read
  cases scan text with
  | error error => simp [bind, Except.bind]
  | ok tokens => simp [bind, Except.bind, readTokens_eq_ok_iff]

theorem named_of_read (result : read typeVariables text = .ok shape) {type : Identity}
    (occurs : shape.Occurs type) : ∃ name, type = .named name := by
  obtain ⟨tokens, -, tree, derives⟩ := read_eq_ok_iff.mp result
  rw [← derives.shape_eq] at occurs
  exact tree.named_of_occurs occurs

/-- Reading gives a shape exactly when the text consists of tokens and the grammar
derives them with that shape, and it fails in every other case. No tokens have two
derivations. The words of the bounds are names wherever a type is expected. -/
theorem read_iff_derivable (typeVariables : List String) (text : String) :
    (∀ shape, read typeVariables text = .ok shape ↔
      ∃ tokens, scan text = .ok tokens ∧
        Derivable typeVariables (tokens.map Token.lexeme) shape) ∧
    ((∃ error, read typeVariables text = .error error) ↔
      ¬∃ tokens shape, scan text = .ok tokens ∧
        Derivable typeVariables (tokens.map Token.lexeme) shape) ∧
    (∀ lexemes (tree tree' : TypeTree) (shape shape' : Shape),
      tree.Derives typeVariables lexemes shape → tree'.Derives typeVariables lexemes shape' →
        tree = tree' ∧ shape = shape') ∧
    ∀ word ∈ ["extends", "super"],
      Derivable typeVariables [.name word]
        (if word ∈ typeVariables then .typeVariable word else .scalar (.named word)) ∧
      ∀ enclosing state column, Awaits enclosing state →
        step typeVariables state ⟨.name word, column⟩ = .ok (.name enclosing word column) := by
  refine ⟨fun shape => read_eq_ok_iff, ?_, fun _ _ _ _ _ => derivation_unique, ?_⟩
  · constructor
    · rintro ⟨error, failed⟩ ⟨tokens, shape, derived⟩
      rw [read_eq_ok_iff.mpr ⟨tokens, derived⟩] at failed
      contradiction
    · intro underivable
      cases result : read typeVariables text with
      | error error => exact ⟨error, rfl⟩
      | ok shape =>
        obtain ⟨tokens, derived⟩ := read_eq_ok_iff.mp result
        exact absurd ⟨tokens, shape, derived⟩ underivable
  · intro word _
    refine ⟨⟨.name word, trivial, rfl, rfl⟩, ?_⟩
    intro enclosing state column awaits
    exact step_of_awaits awaits word column

/-- After a question mark the words are bounds, elsewhere they are names. -/
example : read ["T"] "extends<? extends super, T[]>" =
    .ok (.generic (.named "extends")
      [.wildcard (some (.scalar (.named "super"))) none, .array (.typeVariable "T")]) := by
  cbv

end ClassProfile.Notation
