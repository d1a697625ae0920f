import ClassProfile.Proofs.Notation.Grammar

/-! What a state says of the lexemes read so far. Every state that reading passes
through comes with derivation trees for all that has been completed: the arguments
of the lists still open, and the innermost type. One step keeps this, so a type
that is read to its end has a derivation. -/
namespace ClassProfile.Notation

variable {typeVariables : List String}

/-- The lexemes that announce a bound. -/
def Bound.lexemes : Bound → List Lexeme
  | exact => []
  | upper => [.symbol .question, .name "extends"]
  | lower => [.symbol .question, .name "super"]

/-- The argument that a type makes under a bound. -/
def Bound.tree : Bound → TypeTree → ArgumentTree
  | exact => .type
  | upper => .upper
  | lower => .lower

@[simp] theorem Bound.lexemes_tree (bound : Bound) (type : TypeTree) :
    (bound.tree type).lexemes = bound.lexemes ++ type.lexemes := by
  cases bound <;> rfl

@[simp] theorem Bound.shape_tree (bound : Bound) (type : TypeTree) :
    (bound.tree type).shape typeVariables = bound.argument (type.shape typeVariables) := by
  cases bound <;> rfl

@[simp] theorem Bound.admitted_tree (bound : Bound) (type : TypeTree) :
    (bound.tree type).Admitted typeVariables ↔ type.Admitted typeVariables := by
  cases bound <;> rfl

/-- The lexemes lead into the open argument lists. Where the innermost frame has no
bound, the next argument is due; another frame has just read the words of its bound. -/
inductive Opens (typeVariables : List String) : List Lexeme → List Frame → Prop where
  | none : Opens typeVariables [] []
  | list : base ∉ typeVariables → Opens typeVariables lexemes outer →
      Opens typeVariables (lexemes ++ [.name base, .symbol .less]) (⟨⟨base, []⟩, .exact⟩ :: outer)
  | comma {argument : ArgumentTree} : argument.Admitted typeVariables →
      Opens typeVariables lexemes (⟨⟨base, reversed⟩, .exact⟩ :: outer) →
      Opens typeVariables (lexemes ++ argument.lexemes ++ [.symbol .comma])
        (⟨⟨base, argument.shape typeVariables :: reversed⟩, .exact⟩ :: outer)
  | bounded : bound ≠ .exact → Opens typeVariables lexemes (⟨arguments, .exact⟩ :: outer) →
      Opens typeVariables (lexemes ++ bound.lexemes) (⟨arguments, bound⟩ :: outer)

/-- The words of a bound are the last that have been read. -/
theorem Opens.argument_due (opens : Opens typeVariables lexemes (⟨arguments, bound⟩ :: outer)) :
    ∃ before, lexemes = before ++ bound.lexemes ∧
      Opens typeVariables before (⟨arguments, .exact⟩ :: outer) := by
  by_cases exact : bound = .exact
  · subst exact
    exact ⟨lexemes, (List.append_nil _).symm, opens⟩
  · cases opens with
    | list | comma => contradiction
    | bounded _ due => exact ⟨_, rfl, due⟩

/-- Closing an open list after further arguments completes a generic type. -/
theorem Opens.close {rest : ArgumentsTree} (admitted : rest.Admitted typeVariables)
    (opens : Opens typeVariables lexemes (⟨⟨base, reversed⟩, .exact⟩ :: outer)) :
    ∃ before arguments, Opens typeVariables before outer ∧
      (TypeTree.applied base arguments).Admitted typeVariables ∧
      lexemes ++ rest.lexemes ++ [.symbol .greater] =
        before ++ (TypeTree.applied base arguments).lexemes ∧
      arguments.shapes typeVariables = reversed.reverse ++ rest.shapes typeVariables := by
  induction reversed generalizing lexemes rest with
  | nil =>
    cases opens with
    | list fresh opens =>
      exact ⟨_, rest, opens, ⟨fresh, admitted⟩, by simp [TypeTree.lexemes], rfl⟩
    | bounded inexact => contradiction
  | cons shape reversed ih =>
    cases opens with
    | @comma _ _ _ _ argument head opens =>
      have longer : (ArgumentsTree.more argument rest).Admitted typeVariables := ⟨head, admitted⟩
      obtain ⟨before, arguments, outside, whole, same, shapes⟩ := ih longer opens
      refine ⟨before, arguments, outside, whole, ?_, ?_⟩
      · rw [← same]
        simp [ArgumentsTree.lexemes]
      · rw [shapes]
        simp [ArgumentsTree.shapes]
    | bounded inexact => contradiction

/-- What a state says of the lexemes read so far. -/
inductive Reached (typeVariables : List String) : List Lexeme → State → Prop where
  | type : Opens typeVariables lexemes enclosing → Reached typeVariables lexemes (.type enclosing)
  | argument : Opens typeVariables lexemes (⟨arguments, .exact⟩ :: outer) →
      Reached typeVariables lexemes (.argument arguments outer)
  | mark : Opens typeVariables lexemes (⟨arguments, .exact⟩ :: outer) →
      Reached typeVariables (lexemes ++ [.symbol .question]) (.mark arguments outer)
  | name : Opens typeVariables lexemes enclosing →
      Reached typeVariables (lexemes ++ [.name text]) (.name enclosing text column)
  | shape {tree : TypeTree} : tree.Admitted typeVariables →
      Opens typeVariables lexemes enclosing →
      Reached typeVariables (lexemes ++ tree.lexemes)
        (.shape enclosing (tree.shape typeVariables))
  | bracket {tree : TypeTree} : tree.Admitted typeVariables →
      Opens typeVariables lexemes enclosing →
      Reached typeVariables (lexemes ++ tree.lexemes ++ [.symbol .openBracket])
        (.bracket enclosing (tree.shape typeVariables))

theorem shapeOfName_eq (typeVariables : List String) (text : String) :
    shapeOfName typeVariables text = (TypeTree.name text).shape typeVariables := by
  simp [shapeOfName, TypeTree.shape]

theorem afterArgument_reached {argument : ArgumentTree}
    (admitted : argument.Admitted typeVariables)
    (opens : Opens typeVariables lexemes (⟨arguments, .exact⟩ :: outer))
    (stepped : afterArgument arguments outer (argument.shape typeVariables) token = .ok next) :
    Reached typeVariables (lexemes ++ argument.lexemes ++ [token.lexeme]) next := by
  obtain ⟨base, reversed⟩ := arguments
  unfold afterArgument at stepped
  split at stepped
  · next comma =>
    obtain rfl := Except.ok.inj stepped
    rw [comma]
    exact .argument (.comma admitted opens)
  · next greater =>
    obtain rfl := Except.ok.inj stepped
    have alone : (ArgumentsTree.last argument).Admitted typeVariables := admitted
    obtain ⟨before, trees, outside, whole, same, shapes⟩ := opens.close alone
    have denoted : (TypeTree.applied base trees).shape typeVariables =
        Arguments.generic ⟨base, argument.shape typeVariables :: reversed⟩ := by
      simp [TypeTree.shape, Arguments.generic, shapes, ArgumentsTree.shapes]
    rw [greater, ← denoted]
    simp only [ArgumentsTree.lexemes] at same
    rw [same]
    exact .shape whole outside
  · contradiction

theorem afterShape_reached {tree : TypeTree} (admitted : tree.Admitted typeVariables)
    (opens : Opens typeVariables lexemes enclosing)
    (stepped : afterShape enclosing (tree.shape typeVariables) token = .ok next) :
    Reached typeVariables (lexemes ++ tree.lexemes ++ [token.lexeme]) next := by
  unfold afterShape at stepped
  split at stepped
  · next opening =>
    obtain rfl := Except.ok.inj stepped
    rw [opening]
    exact .bracket admitted opens
  · contradiction
  · next frame outer _ =>
    obtain ⟨arguments, bound⟩ := frame
    obtain ⟨before, rfl, due⟩ := opens.argument_due
    rw [← Bound.shape_tree] at stepped
    have reached := afterArgument_reached (bound.admitted_tree tree |>.mpr admitted) due stepped
    simpa only [Bound.lexemes_tree, List.append_assoc] using reached

theorem step_name_less (enclosing : List Frame) (text : String) (at_ column : Nat) :
    step typeVariables (.name enclosing text at_) ⟨.symbol .less, column⟩ =
      if text ∈ typeVariables then .error ⟨.argumentsOfVariable text, at_⟩
      else .ok (.argument ⟨text, []⟩ enclosing) := by
  simp [step]

theorem step_name_of_ne (enclosing : List Frame) (text : String) (at_ : Nat)
    (different : token.lexeme ≠ .symbol .less) :
    step typeVariables (.name enclosing text at_) token =
      afterShape enclosing ((TypeTree.name text).shape typeVariables) token := by
  obtain ⟨lexeme, column⟩ := token
  rw [← shapeOfName_eq]
  unfold step
  split <;> simp_all

/-- One step keeps what the state says of the lexemes. -/
theorem Reached.step (reached : Reached typeVariables lexemes state)
    (stepped : step typeVariables state token = .ok next) :
    Reached typeVariables (lexemes ++ [token.lexeme]) next := by
  obtain ⟨lexeme, column⟩ := token
  cases reached with
  | type opens =>
    cases lexeme with
    | name text =>
      obtain rfl := Except.ok.inj stepped
      exact .name opens
    | symbol symbol => contradiction
  | argument opens =>
    cases lexeme with
    | name text =>
      obtain rfl := Except.ok.inj stepped
      exact .name opens
    | symbol symbol =>
      cases symbol with
      | question =>
        obtain rfl := Except.ok.inj stepped
        exact .mark opens
      | _ => contradiction
  | mark opens =>
    simp only [Notation.step] at stepped
    split at stepped
    · next extending =>
      obtain rfl := Except.ok.inj stepped
      rw [extending, List.append_assoc]
      have inexact : Bound.upper ≠ .exact := by decide
      exact .type (.bounded inexact opens)
    · split at stepped
      · next super =>
        obtain rfl := Except.ok.inj stepped
        rw [super, List.append_assoc]
        have inexact : Bound.lower ≠ .exact := by decide
        exact .type (.bounded inexact opens)
      · have admitted : ArgumentTree.unbounded.Admitted typeVariables := trivial
        exact afterArgument_reached admitted opens stepped
  | @name _ enclosing text _ opens =>
    by_cases less : lexeme = .symbol .less
    · subst less
      rw [step_name_less] at stepped
      split at stepped
      · contradiction
      · next fresh =>
        obtain rfl := Except.ok.inj stepped
        rw [List.append_assoc]
        exact .argument (.list fresh opens)
    · rw [step_name_of_ne _ _ _ less] at stepped
      have admitted : (TypeTree.name text).Admitted typeVariables := trivial
      exact afterShape_reached admitted opens stepped
  | shape admitted opens => exact afterShape_reached admitted opens stepped
  | @bracket _ _ tree admitted opens =>
    cases lexeme with
    | name text => contradiction
    | symbol symbol =>
      cases symbol with
      | closeBracket =>
        obtain rfl := Except.ok.inj stepped
        have whole : (TypeTree.array tree).Admitted typeVariables := admitted
        have reached := Reached.shape whole opens
        simpa [TypeTree.lexemes, TypeTree.shape] using reached
      | _ => contradiction

/-- Reading the tokens leads from the one state to the other. -/
def Runs (typeVariables : List String) (state : State) (tokens : List Token) (last : State) :
    Prop :=
  tokens.foldlM (step typeVariables) state = .ok last

theorem Runs.nil_iff : Runs typeVariables state [] last ↔ state = last := by
  simp [Runs, pure, Except.pure]

theorem Runs.cons_iff : Runs typeVariables state (token :: tokens) last ↔
    ∃ next, step typeVariables state token = .ok next ∧ Runs typeVariables next tokens last := by
  rw [Runs, List.foldlM_cons]
  cases stepped : step typeVariables state token with
  | error error => simp [bind, Except.bind]
  | ok next => simp [Runs, bind, Except.bind]

theorem Runs.cons (stepped : step typeVariables state token = .ok next)
    (rest : Runs typeVariables next tokens last) :
    Runs typeVariables state (token :: tokens) last :=
  cons_iff.mpr ⟨next, stepped, rest⟩

theorem Runs.append (first : Runs typeVariables state tokens middle)
    (second : Runs typeVariables middle more last) :
    Runs typeVariables state (tokens ++ more) last := by
  induction tokens generalizing state with
  | nil =>
    obtain rfl := nil_iff.mp first
    exact second
  | cons token rest ih =>
    obtain ⟨next, stepped, first⟩ := cons_iff.mp first
    exact cons stepped (ih first)

theorem Runs.concat (first : Runs typeVariables state tokens middle)
    (stepped : step typeVariables middle token = .ok last) :
    Runs typeVariables state (tokens ++ [token]) last :=
  first.append (cons stepped (nil_iff.mpr rfl))

/-- Whatever has been read, the state says it. -/
theorem Reached.runs (reached : Reached typeVariables lexemes state)
    (run : Runs typeVariables state tokens last) :
    Reached typeVariables (lexemes ++ tokens.map Token.lexeme) last := by
  induction tokens generalizing lexemes state with
  | nil =>
    obtain rfl := Runs.nil_iff.mp run
    simpa using reached
  | cons token rest ih =>
    obtain ⟨next, stepped, run⟩ := Runs.cons_iff.mp run
    simpa using ih (reached.step stepped) run

/-- A text that may end has been derived. -/
theorem Reached.derivable {whole : Shape} (reached : Reached typeVariables lexemes state)
    (finished : state.result? typeVariables = some whole) :
    Derivable typeVariables lexemes whole := by
  cases reached with
  | @name _ enclosing text _ opens =>
    cases opens with
    | none =>
      rw [State.result?, shapeOfName_eq] at finished
      exact ⟨.name text, trivial, rfl, Option.some.inj finished⟩
    | _ => contradiction
  | @shape _ _ tree admitted opens =>
    cases opens with
    | none => exact ⟨tree, admitted, rfl, Option.some.inj finished⟩
    | _ => contradiction
  | _ => contradiction

end ClassProfile.Notation
