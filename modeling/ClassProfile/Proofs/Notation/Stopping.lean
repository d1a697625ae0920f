import Mathlib.Data.List.Basic
import ClassProfile.Proofs.Notation.Acceptance
import ClassProfile.Proofs.Notation.Scanning

/-! Where reading stops. Every state that reading passes through can still be led to the
end of a type, and what a step refuses no continuation can mend. So an error points at the
first token with which the text has become hopeless, except that a type variable is blamed
for the arguments after it. -/
namespace ClassProfile.Notation

variable {typeVariables : List String}

/-- Some tokens after these lexemes complete a type. -/
def Viable (typeVariables : List String) (lexemes : List Lexeme) : Prop :=
  ∃ more shape, (∀ lexeme ∈ more, lexeme.WellFormed) ∧
    Derivable typeVariables (lexemes ++ more) shape

/-- The character at the column is foreign to the notation, and before it the text consists
of tokens and blanks. -/
inductive ForeignAt (text : List Char) : Nat → Prop where
  | intro (before : List Char) (split : text = before ++ c :: after)
      (scans : Scans 1 text tokens (c :: after)) (foreign : Foreign c) :
      ForeignAt text (before.length + 1)

/-- At the column the tokens stop to be extendable to a type. -/
inductive StopsAt (typeVariables : List String) (tokens : List Token) (endColumn : Nat) :
    Nat → Prop where
  /-- The type is not complete where the text ends. -/
  | ending (viable : Viable typeVariables (tokens.map Token.lexeme))
      (incomplete : ¬∃ shape, Derivable typeVariables (tokens.map Token.lexeme) shape) :
      StopsAt typeVariables tokens endColumn endColumn
  | token (split : tokens = before ++ token :: after)
      (viable : Viable typeVariables (before.map Token.lexeme))
      (hopeless : ¬Viable typeVariables ((before ++ [token]).map Token.lexeme)) :
      StopsAt typeVariables tokens endColumn token.column
  /-- The arguments are hopeless, and the type variable before them is to blame. -/
  | typeVariable (split : tokens = before ++ ⟨.name name, column⟩ :: opening :: after)
      (known : name ∈ typeVariables) (opens : opening.lexeme = .symbol .less)
      (viable : Viable typeVariables ((before ++ [⟨.name name, column⟩]).map Token.lexeme))
      (hopeless :
        ¬Viable typeVariables ((before ++ [⟨.name name, column⟩, opening]).map Token.lexeme)) :
      StopsAt typeVariables tokens endColumn column

/-! What completes a state. -/

/-- The lexemes that close the open lists. -/
def closing (enclosing : List Frame) : List Lexeme := enclosing.map fun _ => .symbol .greater

/-- Lexemes that complete what has been read. -/
def State.completion : State → List Lexeme
  | .type enclosing => .name "T" :: closing enclosing
  | .argument arguments outer => .name "T" :: closing (⟨arguments, .exact⟩ :: outer)
  | .mark _ outer => .symbol .greater :: closing outer
  | .name enclosing _ _ => closing enclosing
  | .shape enclosing _ => closing enclosing
  | .bracket enclosing _ => .symbol .closeBracket :: closing enclosing

theorem wellFormed_completion (state : State) :
    ∀ lexeme ∈ state.completion, lexeme.WellFormed := by
  have name : IsName "T".toList := by decide +kernel
  have closes (enclosing : List Frame) : ∀ lexeme ∈ closing enclosing, lexeme.WellFormed := by
    intro lexeme member
    obtain ⟨frame, -, rfl⟩ := List.mem_map.mp member
    trivial
  cases state with
  | type enclosing => exact List.forall_mem_cons.mpr ⟨name, closes _⟩
  | argument arguments outer => exact List.forall_mem_cons.mpr ⟨name, closes _⟩
  | mark arguments outer => exact List.forall_mem_cons.mpr ⟨trivial, closes _⟩
  | name enclosing name column => exact closes _
  | shape enclosing shape => exact closes _
  | bracket enclosing shape => exact List.forall_mem_cons.mpr ⟨trivial, closes _⟩

/-- Some run over the tokens ends in a state where the text may end. -/
def Finishes (typeVariables : List String) (state : State) (tokens : List Token) : Prop :=
  ∃ last whole, Runs typeVariables state tokens last ∧ last.result? typeVariables = some whole

theorem Finishes.cons (stepped : step typeVariables state token = .ok next)
    (rest : Finishes typeVariables next tokens) :
    Finishes typeVariables state (token :: tokens) := by
  obtain ⟨last, whole, run, finished⟩ := rest
  exact ⟨last, whole, run.cons stepped, finished⟩

/-- A type that has been read is completed by closing the lists around it. -/
theorem finishes_closing (holds : Holds typeVariables enclosing shape state)
    (lexed : tokens.map Token.lexeme = closing enclosing) :
    Finishes typeVariables state tokens := by
  induction enclosing generalizing shape state tokens with
  | nil =>
    obtain rfl := lexed_nil lexed
    exact ⟨state, shape, Runs.nil_iff.mpr rfl, result?_of_holds holds⟩
  | cons frame outer ih =>
    obtain ⟨column, rest, rfl, lexedRest⟩ := lexed_cons lexed
    have different : (Token.mk (.symbol .greater) column).lexeme ≠ .symbol .less := by simp
    exact .cons (step_of_holds holds different) (ih .shape lexedRest)

theorem finishes_completion (state : State)
    (lexed : tokens.map Token.lexeme = state.completion) :
    Finishes typeVariables state tokens := by
  cases state with
  | type enclosing =>
    obtain ⟨column, rest, rfl, lexedRest⟩ := lexed_cons lexed
    exact .cons (step_of_awaits .type "T" column) (finishes_closing .name lexedRest)
  | argument arguments outer =>
    obtain ⟨column, rest, rfl, lexedRest⟩ := lexed_cons lexed
    exact .cons (step_of_awaits .argument "T" column) (finishes_closing .name lexedRest)
  | mark arguments outer =>
    obtain ⟨closing, rest, rfl, lexedRest⟩ := lexed_cons lexed
    exact .cons (step_of_holdsArgument .mark (.inr rfl) closing)
      (finishes_closing .shape lexedRest)
  | name enclosing name column => exact finishes_closing .name lexed
  | shape enclosing shape => exact finishes_closing .shape lexed
  | bracket enclosing shape =>
    obtain ⟨column, rest, rfl, lexedRest⟩ := lexed_cons lexed
    exact .cons rfl (finishes_closing .shape lexedRest)

theorem Runs.append_iff : Runs typeVariables state (tokens ++ more) last ↔
    ∃ middle, Runs typeVariables state tokens middle ∧ Runs typeVariables middle more last := by
  constructor
  · intro run
    induction tokens generalizing state with
    | nil => exact ⟨state, Runs.nil_iff.mpr rfl, run⟩
    | cons token rest ih =>
      obtain ⟨next, stepped, later⟩ := Runs.cons_iff.mp run
      obtain ⟨middle, first, second⟩ := ih later
      exact ⟨middle, first.cons stepped, second⟩
  · rintro ⟨middle, first, second⟩
    exact first.append second

/-- Tokens of these lexemes, for runs in which the columns do not matter. -/
def tokensOf (lexemes : List Lexeme) : List Token := lexemes.map fun lexeme => ⟨lexeme, 0⟩

theorem map_lexeme_tokensOf (lexemes : List Lexeme) :
    (tokensOf lexemes).map Token.lexeme = lexemes := by
  rw [tokensOf, List.map_map]
  exact List.map_id lexemes

/-- Lexemes are viable exactly if the reader gets through tokens of them. -/
theorem viable_iff_runs : Viable typeVariables (tokens.map Token.lexeme) ↔
    ∃ state, Runs typeVariables (.type []) tokens state := by
  constructor
  · rintro ⟨more, shape, -, tree, admitted, lexed, -⟩
    have lexedAll : (tokens ++ tokensOf more).map Token.lexeme = tree.lexemes := by
      rw [List.map_append, map_lexeme_tokensOf, lexed]
    have awaits : Awaits [] (.type []) := .type
    obtain ⟨last, run, -⟩ := tree.runs admitted awaits lexedAll
    obtain ⟨middle, first, -⟩ := Runs.append_iff.mp run
    exact ⟨middle, first⟩
  · rintro ⟨state, run⟩
    obtain ⟨last, whole, completing, finished⟩ : Finishes typeVariables state _ :=
      finishes_completion state (map_lexeme_tokensOf state.completion)
    have reached := (Reached.type .none).runs (run.append completing)
    have derivable := reached.derivable finished
    rw [List.nil_append, List.map_append, map_lexeme_tokensOf] at derivable
    exact ⟨state.completion, whole, wellFormed_completion state, derivable⟩

theorem hopeless_of_step (run : Runs typeVariables (.type []) before state)
    (failed : step typeVariables state token = .error error) :
    ¬Viable typeVariables ((before ++ [token]).map Token.lexeme) := by
  intro viable
  obtain ⟨last, longer⟩ := viable_iff_runs.mp viable
  obtain ⟨middle, first, second⟩ := Runs.append_iff.mp longer
  obtain rfl : state = middle := Except.ok.inj (run.symm.trans first)
  obtain ⟨next, stepped, -⟩ := Runs.cons_iff.mp second
  rw [failed] at stepped
  contradiction

/-! Which column an error has. -/

theorem exists_failing_step (failed : tokens.foldlM (step typeVariables) state = .error error) :
    ∃ before token after middle, tokens = before ++ token :: after ∧
      Runs typeVariables state before middle ∧ step typeVariables middle token = .error error := by
  induction tokens generalizing state with
  | nil => contradiction
  | cons token rest ih =>
    rw [List.foldlM_cons] at failed
    cases stepped : step typeVariables state token with
    | error found =>
      rw [stepped] at failed
      obtain rfl := Except.error.inj failed
      exact ⟨[], token, rest, state, rfl, Runs.nil_iff.mpr rfl, stepped⟩
    | ok next =>
      rw [stepped] at failed
      obtain ⟨before, culprit, after, middle, rfl, run, stuck⟩ := ih failed
      exact ⟨token :: before, culprit, after, middle, rfl, run.cons stepped, stuck⟩

theorem column_of_afterArgument
    (failed : afterArgument arguments outer argument token = .error error) :
    error.column = token.column := by
  unfold afterArgument at failed
  split at failed
  · contradiction
  · contradiction
  · obtain rfl := Except.error.inj failed
    rfl

theorem column_of_afterShape (failed : afterShape enclosing shape token = .error error) :
    error.column = token.column := by
  unfold afterShape at failed
  split at failed
  · contradiction
  · obtain rfl := Except.error.inj failed
    rfl
  · exact column_of_afterArgument failed

/-- A step blames the token that it refuses, or the type variable before an argument list. -/
theorem column_of_step (failed : step typeVariables state token = .error error) :
    error.column = token.column ∨ ∃ enclosing name, state = .name enclosing name error.column ∧
      name ∈ typeVariables ∧ token.lexeme = .symbol .less := by
  obtain ⟨lexeme, column⟩ := token
  cases state with
  | type enclosing =>
    cases lexeme with
    | name text => contradiction
    | symbol symbol =>
      obtain rfl := Except.error.inj failed
      exact .inl rfl
  | argument arguments outer =>
    cases lexeme with
    | name text => contradiction
    | symbol symbol =>
      cases symbol with
      | question => contradiction
      | _ =>
        obtain rfl := Except.error.inj failed
        exact .inl rfl
  | mark arguments outer =>
    simp only [step] at failed
    split at failed
    · contradiction
    · split at failed
      · contradiction
      · exact .inl (column_of_afterArgument failed)
  | name enclosing name place =>
    by_cases less : lexeme = .symbol .less
    · subst less
      rw [step_name_less] at failed
      split at failed
      · next known =>
        obtain rfl := Except.error.inj failed
        exact .inr ⟨enclosing, name, rfl, known, rfl⟩
      · contradiction
    · rw [step_name_of_ne _ _ _ less] at failed
      exact .inl (column_of_afterShape failed)
  | shape enclosing shape => exact .inl (column_of_afterShape failed)
  | bracket enclosing shape =>
    cases lexeme with
    | name text =>
      obtain rfl := Except.error.inj failed
      exact .inl rfl
    | symbol symbol =>
      cases symbol with
      | closeBracket => contradiction
      | _ =>
        obtain rfl := Except.error.inj failed
        exact .inl rfl

theorem afterArgument_ne_name (enclosing : List Frame) (name : String) (column : Nat) :
    afterArgument arguments outer argument token ≠ .ok (.name enclosing name column) := by
  unfold afterArgument
  split <;> simp

theorem afterShape_ne_name (inner enclosing : List Frame) (name : String) (column : Nat) :
    afterShape inner shape token ≠ .ok (.name enclosing name column) := by
  unfold afterShape
  split
  · simp
  · simp
  · exact afterArgument_ne_name _ _ _

/-- Only the token of a name leads to a state that has just read that name. -/
theorem token_of_step_name
    (stepped : step typeVariables state token = .ok (.name enclosing name column)) :
    token = ⟨.name name, column⟩ := by
  obtain ⟨lexeme, place⟩ := token
  cases state with
  | type inner =>
    cases lexeme with
    | name text =>
      obtain ⟨rfl, rfl, rfl⟩ := State.name.inj (Except.ok.inj stepped)
      rfl
    | symbol symbol => contradiction
  | argument arguments outer =>
    cases lexeme with
    | name text =>
      obtain ⟨rfl, rfl, rfl⟩ := State.name.inj (Except.ok.inj stepped)
      rfl
    | symbol symbol => cases symbol <;> cases stepped
  | mark arguments outer =>
    simp only [step] at stepped
    split at stepped
    · cases stepped
    · split at stepped
      · cases stepped
      · exact absurd stepped (afterArgument_ne_name _ _ _)
  | name inner other start =>
    by_cases less : lexeme = .symbol .less
    · subst less
      rw [step_name_less] at stepped
      split at stepped <;> cases stepped
    · rw [step_name_of_ne _ _ _ less] at stepped
      exact absurd stepped (afterShape_ne_name _ _ _ _)
  | shape inner shape => exact absurd stepped (afterShape_ne_name _ _ _ _)
  | bracket inner shape =>
    cases lexeme with
    | name text => contradiction
    | symbol symbol => cases symbol <;> cases stepped

theorem exists_token_of_runs_name
    (run : Runs typeVariables (.type []) tokens (.name enclosing name column)) :
    ∃ before, tokens = before ++ [⟨.name name, column⟩] := by
  obtain rfl | ⟨before, token, rfl⟩ := tokens.eq_nil_or_concat'
  · have same := Runs.nil_iff.mp run
    contradiction
  · obtain ⟨middle, -, stepped⟩ := Runs.append_iff.mp run
    obtain ⟨next, stepped, ended⟩ := Runs.cons_iff.mp stepped
    obtain rfl := Runs.nil_iff.mp ended
    rw [token_of_step_name stepped]
    exact ⟨before, rfl⟩

theorem stopsAt_of_readTokens (failed : readTokens typeVariables endColumn tokens = .error error) :
    StopsAt typeVariables tokens endColumn error.column := by
  cases run : tokens.foldlM (step typeVariables) (.type []) with
  | ok last =>
    have incomplete : ¬∃ shape, Derivable typeVariables (tokens.map Token.lexeme) shape := by
      rintro ⟨shape, derivable⟩
      rw [readTokens_of_derivable derivable] at failed
      contradiction
    have unfinished : error = ⟨.unexpectedEnd, endColumn⟩ := by
      simp only [readTokens, run, bind, Except.bind] at failed
      split at failed
      · contradiction
      · exact (Except.error.inj failed).symm
    rw [unfinished]
    exact .ending (viable_iff_runs.mpr ⟨last, run⟩) incomplete
  | error found =>
    obtain rfl : found = error := by
      simp only [readTokens, run, bind, Except.bind] at failed
      exact Except.error.inj failed
    obtain ⟨before, token, after, state, rfl, passed, stuck⟩ := exists_failing_step run
    have hopeless := hopeless_of_step passed stuck
    obtain same | ⟨enclosing, name, rfl, known, less⟩ := column_of_step stuck
    · rw [same]
      exact .token rfl (viable_iff_runs.mpr ⟨state, passed⟩) hopeless
    · obtain ⟨earlier, rfl⟩ := exists_token_of_runs_name passed
      have viable := viable_iff_runs.mpr ⟨_, passed⟩
      rw [List.append_assoc] at hopeless
      exact .typeVariable (List.append_assoc _ _ _) known less viable hopeless

theorem StopsAt.bounds (stops : StopsAt typeVariables tokens endColumn column)
    (positive : 1 ≤ endColumn)
    (within : ∀ token ∈ tokens, 1 ≤ token.column ∧ token.column ≤ endColumn) :
    1 ≤ column ∧ column ≤ endColumn := by
  cases stops with
  | ending => exact ⟨positive, Nat.le_refl _⟩
  | token split => exact within _ (by simp [split])
  | typeVariable split => exact within _ (split ▸ List.mem_append_right _ List.mem_cons_self)

theorem StandsIn.bounds (stands : StandsIn token 1 text) :
    1 ≤ token.column ∧ token.column ≤ text.length + 1 := by
  obtain ⟨-, before, after, rfl, place⟩ := stands
  simp only [List.length_append]
  omega

theorem ForeignAt.bounds (foreign : ForeignAt text column) :
    1 ≤ column ∧ column ≤ text.length := by
  obtain ⟨before, rfl, -, -⟩ := foreign
  simp only [List.length_append, List.length_cons]
  omega

theorem foreignAt_of_scan_eq_error (failed : scan text = .error error) :
    ForeignAt text.toList error.column := by
  obtain ⟨before, c, after, tokens, split, scans, foreign, rfl⟩ :=
    foreign_of_scanFrom_eq_error failed
  have place : 1 + before.length = before.length + 1 := Nat.add_comm _ _
  rw [place]
  exact .intro before split scans foreign

theorem bounds_of_scan_eq_ok (scanned : scan text = .ok tokens) :
    ∀ token ∈ tokens, 1 ≤ token.column ∧ token.column ≤ text.length + 1 := by
  intro token member
  have scans : Scans 1 text.toList tokens [] := scanFrom_eq_ok_iff.mp scanned
  rw [← String.length_toList]
  exact (scans.standsIn member).bounds

/-- An error stands at a column of the text or right behind it. A text that does not fall
into tokens is refused at the first character that starts none, whatever comes before it.
Any other text is refused at the token with which it becomes hopeless, or at the type
variable before that token where this opens its arguments, or at its end if it is not
hopeless and yet no type. -/
theorem read_stops_where_hopeless (failed : read typeVariables text = .error error) :
    1 ≤ error.column ∧ error.column ≤ text.length + 1 ∧
    ((∀ tokens, scan text ≠ .ok tokens) → ForeignAt text.toList error.column) ∧
    ∀ tokens, scan text = .ok tokens →
      StopsAt typeVariables tokens (text.length + 1) error.column := by
  cases scanned : scan text with
  | error found =>
    obtain rfl : found = error := by
      simp only [read, scanned, bind, Except.bind] at failed
      exact Except.error.inj failed
    have foreign := foreignAt_of_scan_eq_error scanned
    obtain ⟨lower, upper⟩ := foreign.bounds
    rw [String.length_toList] at upper
    exact ⟨lower, Nat.le_succ_of_le upper, fun _ => foreign, nofun⟩
  | ok tokens =>
    have refused : readTokens typeVariables (text.length + 1) tokens = .error error := by
      simpa only [read, scanned, bind, Except.bind] using failed
    have stops := stopsAt_of_readTokens refused
    have inside := bounds_of_scan_eq_ok scanned
    obtain ⟨lower, upper⟩ := stops.bounds (Nat.le_add_left _ _) inside
    refine ⟨lower, upper, fun none => absurd rfl (none tokens), ?_⟩
    rintro _ ⟨⟩
    exact stops

/-- A type variable is blamed for its arguments. A bracket too many is not reported where a
foreign character comes after it. -/
theorem read_stops_where_hopeless_crates :
    read ["T"] "Map<T<?>, acme.Crate[>" = .error ⟨.argumentsOfVariable "T", 5⟩ ∧
      (∃ tokens, scan "Map<T<?>, acme.Crate[>" = .ok tokens ∧ StopsAt ["T"] tokens 23 5) ∧
    read [] "List<acme.Crate>]  #" = .error ⟨.unexpectedCharacter '#', 20⟩ ∧
      ForeignAt "List<acme.Crate>]  #".toList 20 := by
  have refused : read ["T"] "Map<T<?>, acme.Crate[>" =
      .error ⟨.argumentsOfVariable "T", 5⟩ := by
    with_unfolding_all rfl
  have stray : read [] "List<acme.Crate>]  #" = .error ⟨.unexpectedCharacter '#', 20⟩ := by
    with_unfolding_all rfl
  have unscanned : ∀ tokens, scan "List<acme.Crate>]  #" ≠ .ok tokens := by
    have failed : scan "List<acme.Crate>]  #" = .error ⟨.unexpectedCharacter '#', 20⟩ := by
      with_unfolding_all rfl
    rw [failed]
    nofun
  obtain ⟨-, -, -, stops⟩ := read_stops_where_hopeless refused
  obtain ⟨-, -, foreign, -⟩ := read_stops_where_hopeless stray
  have scanned : ∃ tokens, scan "Map<T<?>, acme.Crate[>" = .ok tokens :=
    ⟨_, by with_unfolding_all rfl⟩
  obtain ⟨tokens, scanned⟩ := scanned
  exact ⟨refused, ⟨tokens, scanned, stops tokens scanned⟩, stray, foreign unscanned⟩

end ClassProfile.Notation
