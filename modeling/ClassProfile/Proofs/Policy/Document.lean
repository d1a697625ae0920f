import ClassProfile.Policy.Document
import ClassProfile.Proofs.Identity
import ClassProfile.Proofs.Keyed
import ClassProfile.Proofs.Reading
import Mathlib.Data.List.Perm.Basic

/-! What a policy document means. A mapping has no text for a key twice, so a document says at
most one thing under a key. The keys are looked at first and then what stands under each of
them, in a fixed order; the first check that fails is what the document is refused for. What
it says otherwise is stated by what it makes of any type: whether the type is iterable, and
whether it needs an import. -/
namespace ClassProfile.Policy

open Yaml (Scalar Value)

/-- No text is the key of two entries, as in any mapping. -/
def DistinctTexts (entries : Entries) : Prop :=
  (entries.filterMap fun entry => keyText? entry.1).Nodup

instance (entries : Entries) : Decidable (DistinctTexts entries) :=
  inferInstanceAs (Decidable (List.Nodup _))

/-- The value stands under the key. -/
def Holds (entries : Entries) (key : String) (value : Value) : Prop :=
  (Scalar.text key, value) ∈ entries

/-- The text is in the list that stands under the key. -/
def Lists (entries : Entries) (key text : String) : Prop :=
  ∃ items, Holds entries key (.list items) ∧ .scalar (.text text) ∈ items

/-- The document says that it extends the standard policy, or does not say. -/
def Extends (entries : Entries) : Prop :=
  Holds entries extendsKey (.scalar (.bool true)) ∨ ∀ value, ¬Holds entries extendsKey value

def IsKnown (key : Scalar) : Prop := ∃ text ∈ knownKeys, key = .text text

instance : DecidablePred IsKnown
  | .text text => decidable_of_iff (text ∈ knownKeys) (by simp [IsKnown])
  | .null | .bool _ | .int _ | .float _ | .notANumber _ | .day _ | .moment _ | .bytes _ =>
    .isFalse (by simp [IsKnown])

/-- What a document must keep to under a key, and what it is refused for otherwise. -/
structure Check where
  key : String
  Accepts : Value → Prop
  fault : Fault

namespace Check

def flag : Check where
  key := extendsKey
  Accepts value := ∃ flag, value = .scalar (.bool flag)
  fault := .notFlag

def texts (key : String) : Check where
  key := key
  Accepts value := ∃ texts : List String, value = .list (texts.map fun text => .scalar (.text text))
  fault := .notTexts key

def name : Check where
  key := fallbackKey
  Accepts value := ∃ name, value = .scalar (.text name) ∧ name ≠ ""
  fault := .notName

end Check

/-- The checks of the values, in the order in which they are made. -/
def checks : List Check := [.flag, .texts iterableKey, .texts ambientKey, .name]

def Check.Passes (check : Check) (entries : Entries) : Prop :=
  ∀ value, Holds entries check.key value → check.Accepts value

/-- The fault is that of the first check that fails. -/
inductive FirstFailing (entries : Entries) : List Check → Fault → Prop where
  | here {check : Check} {later : List Check} (failed : ¬check.Passes entries) :
      FirstFailing entries (check :: later) check.fault
  | later {check : Check} {later : List Check} {fault : Fault} (passed : check.Passes entries)
      (next : FirstFailing entries later fault) : FirstFailing entries (check :: later) fault

def KeysKnown (entries : Entries) : Prop := ∀ entry ∈ entries, IsKnown entry.1

/-- The unknown keys, in the order of the document. -/
def unknownKeys (entries : Entries) : List Scalar :=
  (entries.map Prod.fst).filter fun key => ¬IsKnown key

/-- A key is a whole number of too many digits to be shown. -/
def HasOverlongKey (entries : Entries) : Prop :=
  ∃ number : Int, .int number ∈ entries.map Prod.fst ∧ Decimal.firstOverlong ≤ number.natAbs

/-- What a document is refused for. -/
inductive Fails (entries : Entries) : Fault → Prop where
  /-- All unknown keys are shown, in order. -/
  | keys {shown : List String} (unknown : ¬KeysKnown entries)
      (all : (shown.map some).Perm ((unknownKeys entries).map Scalar.shown?))
      (ordered : shown.Pairwise (· ≤ ·)) : Fails entries (.unknownKeys shown)
  | overlong (long : HasOverlongKey entries) : Fails entries .overlongKey
  | values {fault : Fault} (known : KeysKnown entries)
      (first : FirstFailing entries checks fault) : Fails entries fault

/-- The document keeps to everything. -/
structure Sound (entries : Entries) : Prop where
  keys : KeysKnown entries
  values : ∀ check ∈ checks, check.Passes entries

/-- What the policy of a document makes of any type, and of one that cannot be reduced. -/
structure Means (entries : Entries) (policy : Policy) : Prop where
  isIterable : ∀ type : Identity, policy.isIterable type ↔
    Lists entries iterableKey type.name ∨
      Extends entries ∧ type.name ∈ standard.iterableTypes
  isAmbient : ∀ type : Identity, policy.isAmbient type ↔
    type.isPrimitive = false ∧ type.isArray = false ∧
      ∃ space, StandsBefore space type.name ∧
        (Lists entries ambientKey space ∨
          Extends entries ∧ (space = "java.lang" ∨ space = ""))
  fallback : ∀ name, Holds entries fallbackKey (.scalar (.text name)) →
    policy.fallback = .named name
  standardFallback : (∀ value, ¬Holds entries fallbackKey value) →
    policy.fallback = .named "java.lang.Object"

variable {entries : Entries} {key : String} {value : Value}

theorem keyText?_eq_some_iff {scalar : Scalar} :
    keyText? scalar = some key ↔ scalar = .text key := by
  cases scalar <;> simp [keyText?]

theorem entry?_eq_none_iff : entry? key entries = none ↔ ∀ value, ¬Holds entries key value := by
  simp only [ entry?, Option.map_eq_none_iff, List.find?_eq_none, beq_iff_eq, keyText?_eq_some_iff,
    Holds]
  constructor
  · intro none value held
    exact none _ held rfl
  · rintro none ⟨_, value⟩ member rfl
    exact none value member

theorem DistinctTexts.of_cons {entry : Scalar × Value} {rest : Entries}
    (distinct : DistinctTexts (entry :: rest)) : DistinctTexts rest :=
  List.Nodup.sublist ((List.sublist_cons_self entry rest).filterMap _) distinct

theorem DistinctTexts.notMem_rest {rest : Entries} {old : Value}
    (distinct : DistinctTexts ((.text key, old) :: rest)) (value : Value) :
    (.text key, value) ∉ rest := by
  intro held
  have apart : (key :: rest.filterMap fun entry => keyText? entry.1).Nodup := distinct
  rw [List.nodup_cons] at apart
  exact apart.1 (List.mem_filterMap.mpr ⟨_, held, rfl⟩)

theorem entry?_eq_some_iff (distinct : DistinctTexts entries) :
    entry? key entries = some value ↔ Holds entries key value := by
  induction entries with
  | nil => simp [ entry?, Holds]
  | cons entry rest ih =>
    obtain ⟨first, old⟩ := entry
    by_cases same : first = .text key
    · subst same
      have others : (.text key, value) ∉ rest := distinct.notMem_rest value
      have found : entry? key ((.text key, old) :: rest) = some old := by simp [ entry?, keyText?]
      rw [found, Option.some.injEq, Holds, List.mem_cons, or_iff_left others, Prod.mk.injEq,
        eq_self, true_and, eq_comm]
    · have passed : entry? key ((first, old) :: rest) = entry? key rest := by
        rw [ entry?, List.find?_cons_of_neg, entry?]
        simpa [keyText?_eq_some_iff] using same
      rw [passed, ih distinct.of_cons, Holds, Holds, List.mem_cons]
      simp [Ne.symm same]

/-- The step makes the check: it goes on if the check passes, and else fails as the check says. -/
structure Makes (step : Except Fault α) (check : Check) (entries : Entries) : Prop where
  goesOn : check.Passes entries → ∃ result, step = .ok result
  fails : ¬check.Passes entries → step = .error check.fault

/-- A step that looks at the value under the key of a check makes the check, if it accepts just
the values that the check does. -/
theorem Makes.of_entry {step : Except Fault α} {check : Check} (distinct : DistinctTexts entries)
    (key : String) (named : check.key = key)
    (absent : entry? key entries = none → ∃ result, step = .ok result)
    (accepted : ∀ value, entry? key entries = some value → check.Accepts value →
      ∃ result, step = .ok result)
    (refused : ∀ value, entry? key entries = some value → ¬check.Accepts value →
      step = .error check.fault) : Makes step check entries := by
  subst named
  cases found : entry? check.key entries with
  | none =>
    have passes : check.Passes entries := fun value held =>
      absurd held (entry?_eq_none_iff.mp found value)
    exact ⟨fun _ => absent found, fun fails => absurd passes fails⟩
  | some value =>
    have held := (entry?_eq_some_iff distinct).mp found
    have passes_iff : check.Passes entries ↔ check.Accepts value := by
      refine ⟨fun passes => passes value held, fun accepts other otherHeld => ?_⟩
      rw [← entry?_eq_some_iff distinct, found] at otherHeld
      exact Option.some.inj otherHeld ▸ accepts
    refine ⟨fun passes => ?_, fun fails => ?_⟩
    · exact accepted value found (passes_iff.mp passes)
    · exact refused value found (mt passes_iff.mpr fails)

theorem makes_extendsStandard (distinct : DistinctTexts entries) :
    Makes (extendsStandard entries) .flag entries := by
  refine .of_entry distinct extendsKey rfl ?_ ?_ ?_
  · intro absent
    exact ⟨true, by rw [extendsStandard, absent]⟩
  · rintro _ found ⟨flag, rfl⟩
    exact ⟨flag, by rw [extendsStandard, found]⟩
  · intro value found noFlag
    rw [extendsStandard, found]
    split <;> simp_all [Check.flag]

theorem textsOf?_eq_some_iff {items : List Value} {texts : List String} :
    textsOf? items = some texts ↔ items = texts.map fun text => .scalar (.text text) := by
  induction items using textsOf?.induct generalizing texts with
  | case1 => cases texts <;> simp [textsOf?]
  | case2 text rest ih => cases texts <;> simp [textsOf?, ih, and_comm]
  | case3 item rest noText => cases texts <;> simp_all [textsOf?]

theorem makes_textsUnder (distinct : DistinctTexts entries) (key : String) :
    Makes (textsUnder key entries) (.texts key) entries := by
  refine .of_entry distinct key rfl ?_ ?_ ?_
  · intro absent
    exact ⟨[], by rw [textsUnder, absent]⟩
  · rintro _ found ⟨texts, rfl⟩
    exact ⟨texts, by rw [textsUnder, found]; simp [textsOf?_eq_some_iff.mpr rfl]⟩
  · intro value found noTexts
    rw [textsUnder, found]
    split
    · contradiction
    · next items same =>
      obtain rfl := Option.some.inj same
      split
      · next texts read => exact absurd ⟨texts, congrArg _ (textsOf?_eq_some_iff.mp read)⟩ noTexts
      · rfl
    · rfl

theorem makes_fallbackOf (distinct : DistinctTexts entries) :
    Makes (fallbackOf entries) .name entries := by
  refine .of_entry distinct fallbackKey rfl ?_ ?_ ?_
  · intro absent
    exact ⟨none, by rw [fallbackOf, absent]⟩
  · rintro _ found ⟨name, rfl, notEmpty⟩
    exact ⟨some (.named name), by rw [fallbackOf, found]; simp [notEmpty]⟩
  · intro value found noName
    rw [fallbackOf, found]
    split <;> simp_all [Check.name]

theorem fault_of_extendsStandard {fault : Fault}
    (failed : extendsStandard entries = .error fault) : fault = .notFlag := by
  rw [extendsStandard] at failed
  split at failed
  · contradiction
  · contradiction
  · exact (Except.error.inj failed).symm

/-- A list is refused under the key that it stands under. -/
theorem fault_of_textsUnder {fault : Fault} (failed : textsUnder key entries = .error fault) :
    fault = .notTexts key := by
  rw [textsUnder] at failed
  split at failed
  · contradiction
  · split at failed
    · contradiction
    · exact (Except.error.inj failed).symm
  · exact (Except.error.inj failed).symm

theorem fault_of_fallbackOf {fault : Fault} (failed : fallbackOf entries = .error fault) :
    fault = .notName := by
  rw [fallbackOf] at failed
  split at failed
  · contradiction
  · split at failed
    · exact (Except.error.inj failed).symm
    · contradiction
  · exact (Except.error.inj failed).symm

/-- What comes after a step is looked at only if its check passes. -/
theorem Makes.bind_eq_error_iff {step : Except Fault α} {next : α → Except Fault β}
    {check : Check} {others : List Check} {fault : Fault} (makes : Makes step check entries)
    (rest : ∀ result, step = .ok result →
      (next result = .error fault ↔ FirstFailing entries others fault)) :
    step >>= next = .error fault ↔ FirstFailing entries (check :: others) fault := by
  by_cases passed : check.Passes entries
  · obtain ⟨result, rfl⟩ := makes.goesOn passed
    refine (rest result rfl).trans ⟨.later passed, ?_⟩
    rintro (failed | ⟨_, next⟩)
    · contradiction
    · exact next
  · rw [makes.fails passed]
    constructor
    · rintro ⟨⟩
      exact .here passed
    · rintro (_ | ⟨passes, _⟩)
      · rfl
      · contradiction

theorem exists_firstFailing_iff {list : List Check} :
    (∃ fault, FirstFailing entries list fault) ↔ ∃ check ∈ list, ¬check.Passes entries := by
  constructor
  · rintro ⟨fault, first⟩
    induction first with
    | here failed => exact ⟨_, List.mem_cons_self, failed⟩
    | later _ _ ih =>
      obtain ⟨check, member, failed⟩ := ih
      exact ⟨check, List.mem_cons_of_mem _ member, failed⟩
  · rintro ⟨check, member, failed⟩
    induction list with
    | nil => contradiction
    | cons first others ih =>
      by_cases passes : first.Passes entries
      · obtain rfl | later := List.mem_cons.mp member
        · contradiction
        · obtain ⟨fault, found⟩ := ih later
          exact ⟨fault, .later passes found⟩
      · exact ⟨first.fault, .here passes⟩

theorem any_knownKeys_iff {scalar : Scalar} :
    (keyText? scalar).any knownKeys.contains = true ↔ IsKnown scalar := by
  cases scalar <;> simp [keyText?, IsKnown]

theorem unknownKeysOf_eq (entries : Entries) : unknownKeysOf entries = unknownKeys entries := by
  have same : (fun (key : Scalar) => !(keyText? key).any knownKeys.contains) =
      fun key => decide ¬IsKnown key := by
    funext key
    rw [Bool.eq_iff_iff, decide_eq_true_eq, ← any_knownKeys_iff, Bool.not_eq_true',
      Bool.not_eq_true]
  exact congrArg (fun isUnknown => (entries.map Prod.fst).filter isUnknown) same

theorem unknownKeysOf_eq_nil_iff : unknownKeysOf entries = [] ↔ KeysKnown entries := by
  rw [unknownKeysOf_eq, unknownKeys, List.filter_eq_nil_iff]
  simp only [List.forall_mem_map, decide_eq_true_eq, not_not, KeysKnown]

theorem shown?_eq_none_iff {scalar : Scalar} : scalar.shown? = none ↔
    ∃ number : Int, scalar = .int number ∧ Decimal.firstOverlong ≤ number.natAbs := by
  cases scalar with
  | bool value => cases value <;> simp [Scalar.shown?]
  | _ => simp [Scalar.shown?]

theorem hasOverlongKey_iff :
    HasOverlongKey entries ↔ ∃ key ∈ unknownKeys entries, key.shown? = none := by
  simp only [HasOverlongKey, shown?_eq_none_iff, unknownKeys, List.mem_filter, decide_eq_true_eq]
  constructor
  · rintro ⟨number, member, long⟩
    exact ⟨_, ⟨member, by simp [IsKnown]⟩, number, rfl, long⟩
  · rintro ⟨_, ⟨member, _⟩, number, rfl, long⟩
    exact ⟨number, member, long⟩

theorem not_keysKnown_of_hasOverlongKey (long : HasOverlongKey entries) : ¬KeysKnown entries := by
  intro known
  obtain ⟨number, member, _⟩ := long
  obtain ⟨entry, held, same⟩ := List.mem_map.mp member
  have keyKnown := known entry held
  rw [same] at keyKnown
  simp [IsKnown] at keyKnown

theorem not_hasOverlongKey_of_shown {shown : List String}
    (all : (shown.map some).Perm ((unknownKeys entries).map Scalar.shown?)) :
    ¬HasOverlongKey entries := by
  rw [hasOverlongKey_iff]
  rintro ⟨key, member, hidden⟩
  have listed := all.symm.subset (List.mem_map_of_mem (f := Scalar.shown?) member)
  rw [hidden] at listed
  simp at listed

/-- Unknown keys are reported in the one way in which all of them are shown in order, unless
one of them cannot be shown. -/
theorem faultOfUnknown_eq_iff (unknown : ¬KeysKnown entries) {fault : Fault} :
    faultOfUnknown (unknownKeys entries) = fault ↔ Fails entries fault := by
  rw [faultOfUnknown]
  split
  · next shown found =>
    rw [mapM_eq_some_iff] at found
    constructor
    · rintro rfl
      refine .keys unknown ?_ (sortedBy_pairwise _ _)
      rw [found]
      exact (sortedBy_perm id shown).map some
    · rintro (⟨_, all, ordered⟩ | long | ⟨known, _⟩)
      -- There is one way to put the same texts in order.
      · rw [found, List.map_perm_map_iff fun _ _ => Option.some.inj] at all
        have same := (sortedBy_perm id shown).trans all.symm
        exact congrArg Fault.unknownKeys (same.eq_of_pairwise
          (fun _ _ _ _ => String.le_antisymm) (sortedBy_pairwise _ _) ordered)
      · exact absurd long (not_hasOverlongKey_of_shown (.of_eq found.symm))
      · contradiction
  · next hidden =>
    have long := hasOverlongKey_iff.mpr (mapM_eq_none_iff.mp hidden)
    constructor
    · rintro rfl
      exact .overlong long
    · rintro (⟨_, all, _⟩ | _ | ⟨known, _⟩)
      · exact absurd long (not_hasOverlongKey_of_shown all)
      · rfl
      · contradiction

theorem ofEntries_of_unknown (unknown : ¬KeysKnown entries) :
    ofEntries entries = .error (faultOfUnknown (unknownKeys entries)) := by
  rw [ofEntries, ← unknownKeysOf_eq]
  split
  · next none => exact absurd (unknownKeysOf_eq_nil_iff.mp none) unknown
  · rfl

theorem ofEntries_eq_error_iff_of_known (distinct : DistinctTexts entries)
    (known : KeysKnown entries) {fault : Fault} :
    ofEntries entries = .error fault ↔ FirstFailing entries checks fault := by
  rw [ofEntries, unknownKeysOf_eq_nil_iff.mpr known]
  refine (makes_extendsStandard distinct).bind_eq_error_iff fun _ _ => ?_
  refine (makes_textsUnder distinct iterableKey).bind_eq_error_iff fun _ _ => ?_
  refine (makes_textsUnder distinct ambientKey).bind_eq_error_iff fun _ _ => ?_
  exact (makes_fallbackOf distinct).bind_eq_error_iff fun _ _ => ⟨nofun, nofun⟩

theorem ofEntries_eq_error_iff (distinct : DistinctTexts entries) {fault : Fault} :
    ofEntries entries = .error fault ↔ Fails entries fault := by
  by_cases known : KeysKnown entries
  · rw [ofEntries_eq_error_iff_of_known distinct known]
    constructor
    · exact .values known
    · rintro (⟨unknown, _, _⟩ | long | ⟨_, first⟩)
      · contradiction
      · exact absurd known (not_keysKnown_of_hasOverlongKey long)
      · exact first
  · rw [ofEntries_of_unknown known, Except.error.injEq, faultOfUnknown_eq_iff known]

theorem exists_fails_iff : (∃ fault, Fails entries fault) ↔ ¬Sound entries := by
  constructor
  · rintro ⟨fault, ⟨unknown, _, _⟩ | long | ⟨_, first⟩⟩ sound
    · exact unknown sound.keys
    · exact not_keysKnown_of_hasOverlongKey long sound.keys
    · obtain ⟨check, member, failed⟩ := exists_firstFailing_iff.mp ⟨fault, first⟩
      exact failed (sound.values check member)
  · intro unsound
    by_cases known : KeysKnown entries
    · have failing : ∃ check ∈ checks, ¬check.Passes entries := by
        by_contra none
        simp only [not_exists, not_and, not_not] at none
        exact unsound ⟨known, none⟩
      obtain ⟨fault, first⟩ := exists_firstFailing_iff.mpr failing
      exact ⟨fault, .values known first⟩
    · exact ⟨_, (faultOfUnknown_eq_iff known).mp rfl⟩

theorem exists_policy_iff (distinct : DistinctTexts entries) :
    (∃ policy, ofEntries entries = .ok policy) ↔ Sound entries := by
  have refused : (∃ fault, ofEntries entries = .error fault) ↔ ¬Sound entries := by
    simp only [ofEntries_eq_error_iff distinct, exists_fails_iff]
  cases outcome : ofEntries entries with
  | ok policy => simpa [outcome] using refused
  | error fault => simpa [outcome] using refused

/-- What the parts of a policy are made of. -/
theorem ofEntries_eq_ok {policy : Policy} (made : ofEntries entries = .ok policy) :
    ∃ isExtended iterables ambients fallback?,
      extendsStandard entries = .ok isExtended ∧
      textsUnder iterableKey entries = .ok iterables ∧
      textsUnder ambientKey entries = .ok ambients ∧
      fallbackOf entries = .ok fallback? ∧
      policy.iterableTypes = (if isExtended then standard.iterableTypes else []) ++ iterables ∧
      policy.ambientNamespaces =
        (if isExtended then standard.ambientNamespaces else []) ++ ambients ∧
      policy.fallback = fallback?.getD (.named "java.lang.Object") := by
  rw [ofEntries] at made
  split at made
  · obtain ⟨isExtended, extended, made⟩ := bind_eq_ok_iff.mp made
    obtain ⟨iterables, first, made⟩ := bind_eq_ok_iff.mp made
    obtain ⟨ambients, second, made⟩ := bind_eq_ok_iff.mp made
    obtain ⟨fallback?, named, made⟩ := bind_eq_ok_iff.mp made
    obtain rfl := Except.ok.inj made
    refine ⟨isExtended, iterables, ambients, fallback?, extended, first, second, named, ?_⟩
    cases isExtended <;> exact ⟨rfl, rfl, rfl⟩
  · contradiction

theorem extends_of_extendsStandard (distinct : DistinctTexts entries) {isExtended : Bool}
    (read : extendsStandard entries = .ok isExtended) : isExtended = true ↔ Extends entries := by
  rw [Extends, ← entry?_eq_none_iff, ← entry?_eq_some_iff distinct]
  rw [extendsStandard] at read
  split at read <;> simp_all

theorem mem_iff_of_textsUnder (distinct : DistinctTexts entries) {texts : List String}
    (read : textsUnder key entries = .ok texts) {text : String} :
    text ∈ texts ↔ Lists entries key text := by
  simp only [Lists, ← entry?_eq_some_iff distinct]
  rw [textsUnder] at read
  split at read
  · next absent =>
    obtain rfl := Except.ok.inj read
    simp [absent]
  · next items found =>
    split at read
    · next listed readItems =>
      obtain rfl := Except.ok.inj read
      rw [textsOf?_eq_some_iff.mp readItems] at found
      simp [found]
    · contradiction
  · contradiction

theorem fallback_of_fallbackOf (distinct : DistinctTexts entries) {fallback? : Option Identity}
    (read : fallbackOf entries = .ok fallback?) :
    (∀ name, Holds entries fallbackKey (.scalar (.text name)) → fallback? = some (.named name)) ∧
      ((∀ value, ¬Holds entries fallbackKey value) → fallback? = none) := by
  rw [← entry?_eq_none_iff]
  simp only [← entry?_eq_some_iff distinct]
  rw [fallbackOf] at read
  split at read
  · simp_all
  · split at read <;> simp_all
  · contradiction

theorem means_of_ofEntries (distinct : DistinctTexts entries) {policy : Policy}
    (made : ofEntries entries = .ok policy) : Means entries policy := by
  obtain ⟨isExtended, iterables, ambients, fallback?, extended, first, second, named,
    iterableTypes, ambientNamespaces, fallback⟩ := ofEntries_eq_ok made
  have extends_iff := extends_of_extendsStandard distinct extended
  have listed_iff {key : String} {texts : List String} (read : textsUnder key entries = .ok texts)
      (given : List String) (text : String) :
      text ∈ (if isExtended then given else []) ++ texts ↔
        Lists entries key text ∨ Extends entries ∧ text ∈ given := by
    rw [List.mem_append, mem_iff_of_textsUnder distinct read, ← extends_iff, or_comm]
    simp
  obtain ⟨fallbackNamed, fallbackAbsent⟩ := fallback_of_fallbackOf distinct named
  constructor
  case isIterable =>
    intro type
    rw [isIterable, List.contains_iff_mem, iterableTypes, listed_iff first]
  case isAmbient =>
    intro type
    rw [isAmbient, Bool.and_eq_true, Bool.and_eq_true, Bool.not_eq_true', Bool.not_eq_true',
      List.contains_iff_mem, ambientNamespaces, listed_iff second, and_assoc]
    refine and_congr_right fun notPrimitive => and_congr_right fun notArray => ?_
    simp only [Identity.standsBefore_iff notPrimitive notArray, exists_eq_left]
    simp [standard]
  case fallback =>
    intro name held
    rw [fallback, fallbackNamed name held, Option.getD_some]
  case standardFallback =>
    intro absent
    rw [fallback, fallbackAbsent absent, Option.getD_none]

theorem message?_eq_none_iff {fault : Fault} : fault.message? = none ↔ fault = .overlongKey := by
  cases fault <;> simp [Fault.message?]

theorem FirstFailing.ne_overlongKey {fault : Fault} (first : FirstFailing entries checks fault) :
    fault ≠ .overlongKey := by
  rintro rfl
  rcases first with _ | ⟨_, _ | ⟨_, _ | ⟨_, _ | ⟨_, ⟨⟩⟩⟩⟩⟩

/-- A refusal has words unless it is for a key that has none. -/
theorem Fails.message?_isSome_iff {fault : Fault} (fails : Fails entries fault) :
    fault.message?.isSome ↔ ¬HasOverlongKey entries := by
  rw [Option.isSome_iff_ne_none, Ne, message?_eq_none_iff]
  refine not_congr ⟨?_, fun long => ?_⟩
  · rintro rfl
    obtain _ | long | ⟨_, first⟩ := fails
    · exact long
    · exact absurd rfl first.ne_overlongKey
  · have unknown := not_keysKnown_of_hasOverlongKey long
    rw [← (faultOfUnknown_eq_iff unknown).mpr fails]
    exact (faultOfUnknown_eq_iff unknown).mpr (.overlong long)

theorem ofText_of_loaded {loader : Yaml.Loader} {text : String} (loaded : loader text = .ok value) :
    ofText loader text = (ofValue value).mapError .document := by
  rw [ofText, loaded]

/-- A mapping gives a policy exactly if it keeps to everything, and else is refused for the
first check that fails; its policy makes of every type what the mapping says. The refusal is
an error of the policy unless an unknown key is too long to be shown. It is the same for any
text that is loaded as this mapping, where the error is given the label of the text. -/
theorem ofValue_mapping_exact (distinct : DistinctTexts entries) :
    ((∃ policy, ofValue (.mapping entries) = .ok policy) ↔ Sound entries) ∧
      (∀ fault, ofValue (.mapping entries) = .error fault ↔ Fails entries fault) ∧
      (∀ fault, ofValue (.mapping entries) = .error fault →
        (fault.message?.isSome ↔ ¬HasOverlongKey entries)) ∧
      (∀ policy, ofValue (.mapping entries) = .ok policy → Means entries policy) ∧
      ∀ loader text label, loader text = .ok (.mapping entries) →
        (∀ policy, ofText loader text = .ok policy ↔ ofValue (.mapping entries) = .ok policy) ∧
        ∀ cause, ofText loader text = .error cause ↔
          ∃ fault, Fails entries fault ∧ cause = .document fault ∧
            cause.message? label = fault.message?.map fun message => label ++ ": " ++ message := by
  refine ⟨exists_policy_iff distinct, fun fault => ofEntries_eq_error_iff distinct, ?_,
    fun policy => means_of_ofEntries distinct, ?_⟩
  · intro fault refused
    exact ((ofEntries_eq_error_iff distinct).mp refused).message?_isSome_iff
  · intro loader text label loaded
    rw [ofText_of_loaded loaded]
    refine ⟨fun policy => mapError_eq_ok_iff, fun cause => ?_⟩
    rw [mapError_eq_error_iff]
    constructor
    · rintro ⟨fault, refused, rfl⟩
      exact ⟨fault, (ofEntries_eq_error_iff distinct).mp refused, rfl, rfl⟩
    · rintro ⟨fault, fails, rfl, -⟩
      exact ⟨fault, (ofEntries_eq_error_iff distinct).mpr fails, rfl⟩

/-- A document that stands alone, with its own container, namespace and fallback. -/
def boxes : Entries :=
  [(.text "extends-default", .scalar (.bool false)),
    (.text "iterable-types", .list [.scalar (.text "a.Box")]),
    (.text "ambient-namespaces", .list [.scalar (.text "a")]),
    (.text "fallback-type", .scalar (.text "a.Any"))]

theorem ofValue_mapping_exact_boxes : DistinctTexts boxes ∧ Sound boxes ∧
    ∃ policy, ofValue (.mapping boxes) = .ok policy ∧ Means boxes policy ∧
      policy.isIterable (.named "a.Box") ∧ ¬policy.isIterable (.named "java.util.List") := by
  have distinct : DistinctTexts boxes := by decide
  have exact := ofValue_mapping_exact distinct
  have known : unknownKeysOf boxes = [] :=
    unknownKeysOf_eq_nil_iff.mpr (by unfold KeysKnown; decide)
  have made : ofValue (.mapping boxes) = .ok ⟨["a.Box"], ["a"], .named "a.Any"⟩ := by
    rw [ofValue, ofEntries, known]
    rfl
  exact ⟨distinct, exact.1.mp ⟨_, made⟩, _, made, exact.2.2.2.1 _ made, by decide, by decide⟩

/-- A document whose one key has 4335 digits. -/
def vastKey : Entries := [(.int (Nat.pow 16 3600), .scalar .null)]

/-- The key is unknown, and no error of the policy says so. -/
theorem vastKey_not_reported : DistinctTexts vastKey ∧ ¬Sound vastKey ∧
    ofValue (.mapping vastKey) = .error .overlongKey ∧ Fault.overlongKey.message? = none := by
  have long : HasOverlongKey vastKey := ⟨_, List.mem_cons_self, by decide +kernel⟩
  have unknown := not_keysKnown_of_hasOverlongKey long
  refine ⟨by decide, fun sound => unknown sound.keys, ?_, rfl⟩
  rw [ofValue, ofEntries_of_unknown unknown]
  exact congrArg Except.error ((faultOfUnknown_eq_iff unknown).mpr (.overlong long))

end ClassProfile.Policy
