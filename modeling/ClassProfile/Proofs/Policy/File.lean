import ClassProfile.Policy.File
import ClassProfile.Proofs.Policy.Document

/-! What loading a policy may end in, whatever loader reads the text. A file that is missing or
cannot be read, and a text that is not valid or no policy, are all reported as errors of the
policy. Three things escape: bytes that are no text, a loader that breaks off, and a key with
too many digits to be shown. -/
namespace ClassProfile.Policy

/-- A policy has been loaded, or what is wrong is worded as an error of the policy. -/
def Settled : Except LoadFault Policy → Prop
  | .ok _ => True
  | .error fault => fault.message?.isSome

/-- The bytes hold the text, of which every line ends in a line feed. -/
def HoldsText (bytes : List UInt8) (text : String) : Prop :=
  ∃ stored : String, stored.toUTF8 = ⟨bytes.toArray⟩ ∧
    text = String.ofList (withLineFeeds stored.toList)

/-- The value of the text cannot be given, or cannot be refused in words. -/
inductive TextEscapes (loader : Yaml.Loader) (text : String) : Prop where
  | broken {kind words : String} (failed : loader text = .error (.broken kind words))
  | key {entries : Entries} (loaded : loader text = .ok (.mapping entries))
      (long : HasOverlongKey entries)

/-- What stands in a file escapes from being reported. -/
inductive Escapes (loader : Yaml.Loader) : FileState → Prop where
  | encoding {bytes : List UInt8} (noText : ∀ text, ¬HoldsText bytes text) :
      Escapes loader (.file bytes)
  | text {bytes : List UInt8} {text : String} (held : HoldsText bytes text)
      (escapes : TextEscapes loader text) : Escapes loader (.file bytes)

/-- The value that the loader gives to the text of the file, if any, holds no half of a surrogate
pair, so that it is known what becomes of it. -/
def Decided (loader : Yaml.Loader) (state : FileState) : Prop :=
  ∀ bytes text, state = .file bytes → HoldsText bytes text → loader text ≠ .error .unpaired

variable {loader : Yaml.Loader} {bytes : List UInt8} {text : String}

theorem fromUTF8?_eq_some_iff {bytes : ByteArray} {text : String} :
    String.fromUTF8? bytes = some text ↔ text.toUTF8 = bytes := by
  rw [String.fromUTF8?]
  split
  · next valid =>
    rw [Option.some.injEq]
    constructor
    · rintro rfl
      rfl
    · rintro rfl
      rfl
  · next notValid =>
    refine ⟨nofun, ?_⟩
    rintro rfl
    exact absurd text.isValidUTF8 notValid

theorem textOf?_eq_some_iff : textOf? bytes = some text ↔ HoldsText bytes text := by
  simp only [textOf?, Option.map_eq_some_iff, fromUTF8?_eq_some_iff, HoldsText, eq_comm (b := text)]

/-- Where all keys are known, a document is refused for what stands under one of them. -/
theorem ofEntries_ne_overlongKey {entries : Entries} (known : KeysKnown entries) :
    ofEntries entries ≠ .error .overlongKey := by
  rw [ofEntries, unknownKeysOf_eq_nil_iff.mpr known]
  intro refused
  obtain extended | ⟨_, _, refused⟩ := bind_eq_error_iff.mp refused
  · cases fault_of_extendsStandard extended
  obtain iterables | ⟨_, _, refused⟩ := bind_eq_error_iff.mp refused
  · cases fault_of_textsUnder iterables
  obtain ambients | ⟨_, _, refused⟩ := bind_eq_error_iff.mp refused
  · cases fault_of_textsUnder ambients
  obtain named | ⟨_, _, ⟨⟩⟩ := bind_eq_error_iff.mp refused
  cases fault_of_fallbackOf named

theorem ofEntries_eq_overlongKey_iff {entries : Entries} :
    ofEntries entries = .error .overlongKey ↔ HasOverlongKey entries := by
  by_cases known : KeysKnown entries
  · refine iff_of_false (ofEntries_ne_overlongKey known) fun long => ?_
    exact not_keysKnown_of_hasOverlongKey long known
  · rw [ofEntries_of_unknown known, Except.error.injEq, faultOfUnknown_eq_iff known]
    constructor
    · rintro (_ | long | ⟨allKnown, _⟩)
      · exact long
      · contradiction
    · exact .overlong

theorem ofValue_eq_overlongKey_iff {value : Yaml.Value} : ofValue value = .error .overlongKey ↔
    ∃ entries, value = .mapping entries ∧ HasOverlongKey entries := by
  constructor
  · intro refused
    unfold ofValue at refused
    split at refused
    · cases refused
    · next entries => exact ⟨entries, rfl, ofEntries_eq_overlongKey_iff.mp refused⟩
    · cases refused
  · rintro ⟨entries, rfl, long⟩
    exact ofEntries_eq_overlongKey_iff.mpr long

/-- The policy of a value, or its refusal in words, is what a loaded text comes to. -/
theorem settled_ofValue_iff {value : Yaml.Value} {label : String} :
    Settled (((ofValue value).mapError TextFault.document).mapError (.text label)) ↔
      ∀ entries, value = .mapping entries → ¬HasOverlongKey entries := by
  have worded_iff : ofValue value ≠ .error .overlongKey ↔
      ∀ entries, value = .mapping entries → ¬HasOverlongKey entries := by
    rw [Ne, ofValue_eq_overlongKey_iff]
    simp only [not_exists, not_and]
  rw [← worded_iff]
  cases ofValue value with
  | ok policy => exact iff_of_true trivial nofun
  | error fault =>
    rw [Ne, Except.error.injEq, ← message?_eq_none_iff, ← Ne, ← Option.isSome_iff_ne_none]
    exact Bool.eq_iff_iff.mp Option.isSome_map

theorem settled_ofText_iff (decided : loader text ≠ .error .unpaired) {label : String} :
    Settled ((ofText loader text).mapError (.text label)) ↔ ¬TextEscapes loader text := by
  cases found : loader text with
  | error refusal =>
    have failed : ofText loader text = .error (.yaml refusal) := by rw [ofText, found]
    rw [failed]
    cases refusal with
    | invalid reason =>
      refine iff_of_true rfl ?_
      rintro (⟨broken⟩ | ⟨loaded, _⟩)
      · rw [found] at broken; cases broken
      · rw [found] at loaded; cases loaded
    | broken kind words =>
      refine iff_of_false ?_ fun none => none (.broken found)
      intro settled
      contradiction
    | unpaired => contradiction
  | ok value =>
    rw [ofText_of_loaded found, settled_ofValue_iff]
    constructor
    · rintro words (⟨broken⟩ | ⟨loaded, long⟩)
      · rw [found] at broken; cases broken
      · exact words _ (Except.ok.inj (found.symm.trans loaded)) long
    · rintro none entries rfl long
      exact none (.key found long)

/-- Whatever the loader: loading ends in a policy or in an error of the policy unless what stands
in a file escapes. A value with half of a surrogate pair is set aside. -/
theorem load_settled_exactly (loader : Yaml.Loader) (path : String) (state : FileState)
    (decided : Decided loader state) :
    Settled (load loader path state) ↔ ¬Escapes loader state := by
  cases state with
  | missing => exact iff_of_true rfl nofun
  | unreadable reason => exact iff_of_true rfl nofun
  | file bytes =>
    cases held : textOf? bytes with
    | none =>
      have noText : load loader path (.file bytes) = .error .notText := by simp only [load, held]
      rw [noText]
      refine iff_of_false nofun fun reported => reported (.encoding fun text textHeld => ?_)
      rw [textOf?_eq_some_iff.mpr textHeld] at held
      contradiction
    | some text =>
      have textHeld := textOf?_eq_some_iff.mp held
      have loaded : load loader path (.file bytes) =
          (ofText loader text).mapError (.text (normalizedPath path)) := by
        simp only [load, held]
      rw [loaded, settled_ofText_iff (decided bytes text rfl textHeld)]
      refine not_congr ⟨.text textHeld, ?_⟩
      rintro (noText | @⟨_, other, otherHeld, escapes⟩)
      · exact absurd textHeld (noText text)
      · rw [← textOf?_eq_some_iff, held, Option.some.injEq] at otherHeld
        exact otherHeld ▸ escapes

/-- The value of a text without any. -/
def emptyLoader : Yaml.Loader := fun _ => .ok (.scalar .null)

/-- A file without bytes, and one with a byte that begins no character. -/
theorem load_settled_exactly_empty :
    (Decided emptyLoader (.file []) ∧ ¬Escapes emptyLoader (.file []) ∧
      Settled (load emptyLoader "p.yaml" (.file []))) ∧
    Decided emptyLoader (.file [0xff]) ∧ Escapes emptyLoader (.file [0xff]) ∧
      ¬Settled (load emptyLoader "p.yaml" (.file [0xff])) := by
  have decided (state : FileState) : Decided emptyLoader state := fun _ _ _ _ => nofun
  have exact (state : FileState) := load_settled_exactly emptyLoader "p.yaml" state (decided state)
  have settled : Settled (load emptyLoader "p.yaml" (.file [])) := trivial
  have noText : textOf? [0xff] = none := by decide +kernel
  have escapes : Escapes emptyLoader (.file [0xff]) := .encoding fun text held => by
    rw [textOf?_eq_some_iff.mpr held] at noText
    contradiction
  exact ⟨⟨decided _, (exact _).mp settled, settled⟩, decided _, escapes,
    fun reported => (exact _).mp reported escapes⟩

/-- A byte that begins no character escapes: there is no loader under which it is reported. -/
theorem load_not_settled : ¬∃ loader, Settled (load loader "p.yaml" (.file [0xff])) := by
  rintro ⟨loader, settled⟩
  have noText : textOf? [0xff] = none := by decide +kernel
  simp only [load, noText] at settled
  contradiction

end ClassProfile.Policy
