import ClassProfile.Json.Token
import ClassProfile.Proofs.Reading

/-! Written strings read back. Every character is written in one of four ways: as
itself, by a letter set aside for it, by the number of its one unit, or by the
numbers of the two halves of a surrogate pair. Each way is undone whatever follows,
so whole strings are. -/
namespace ClassProfile

namespace Text

theorem hexValue?_hexDigit {n : Nat} (digit : n < 16) : hexValue? (hexDigit n) = some n := by
  have all : ∀ n < 16, hexValue? (hexDigit n) = some n := by decide
  exact all n digit

theorem hexNumber?_hexDigits {width n : Nat} (fits : n < Nat.pow 16 width) :
    hexNumber? (hexDigits width n) = some n := by
  induction width generalizing n with
  | zero =>
    obtain rfl : n = 0 := Nat.lt_one_iff.mp fits
    rfl
  | succ width ih =>
    have fitsAbove : n < Nat.pow 16 width * 16 := fits
    have higher : hexNumber? (hexDigits width (n / 16)) = some (n / 16) := ih (by omega)
    have lowest := hexValue?_hexDigit (n := n % 16) (by omega)
    simp only [hexNumber?] at higher
    simp [hexNumber?, hexDigits, List.foldlM_append, higher, lowest]
    omega

end Text

namespace Json

/-- The number of a character is that of no half of a pair. -/
theorem toNat_not_surrogate (c : Char) :
    isFirstHalf c.toNat = false ∧ isSecondHalf c.toNat = false ∧ c.toNat < 0x110000 := by
  have valid : c.toNat < 0xD800 ∨ 0xDFFF < c.toNat ∧ c.toNat < 0x110000 := c.valid
  simp only [isFirstHalf, isSecondHalf, Bool.and_eq_false_iff, decide_eq_false_iff_not]
  omega

theorem unit?_hexDigits {n : Nat} (fits : n < 0x10000) (rest : List Char) :
    unit? (Text.hexDigits 4 n ++ rest) = some (n, rest) := by
  obtain ⟨a, b, c, d, digits⟩ : ∃ a b c d, Text.hexDigits 4 n = [a, b, c, d] := ⟨_, _, _, _, rfl⟩
  have four : n < Nat.pow 16 4 := fits
  have number := Text.hexNumber?_hexDigits four
  rw [digits] at number
  simp [digits, unit?, number]

theorem escape?_unit {c : Char} (single : c.toNat < 0x10000) (rest : List Char) :
    escape? ('u' :: (Text.hexDigits 4 c.toNat ++ rest)) = some (some c, rest) := by
  obtain ⟨first, second, _⟩ := toNat_not_surrogate c
  simp [escape?, unit?_hexDigits single, first, second, charOfUnit?]

theorem escape?_halves {first second : Nat} (high : isFirstHalf first = true)
    (low : isSecondHalf second = true) (rest : List Char) :
    escape? ('u' :: (Text.hexDigits 4 first ++ '\\' :: 'u' :: (Text.hexDigits 4 second ++ rest))) =
      some (some (Char.ofNat (0x10000 + (first - 0xD800) * 0x400 + (second - 0xDC00))),
        rest) := by
  have bounds := high
  simp only [isFirstHalf, Bool.and_eq_true, decide_eq_true_eq] at bounds
  have bounds' := low
  simp only [isSecondHalf, Bool.and_eq_true, decide_eq_true_eq] at bounds'
  have readFirst := unit?_hexDigits (n := first) (by omega)
    ('\\' :: 'u' :: (Text.hexDigits 4 second ++ rest))
  have readSecond := unit?_hexDigits (n := second) (by omega) rest
  simp only [escape?, readFirst, high, readSecond, low, if_true]

theorem escape?_pair {c : Char} (double : 0x10000 ≤ c.toNat) (rest : List Char) :
    escape? ('u' :: (Text.hexDigits 4 (0xD800 + (c.toNat - 0x10000) / 0x400) ++
      '\\' :: 'u' :: (Text.hexDigits 4 (0xDC00 + (c.toNat - 0x10000) % 0x400) ++ rest))) =
        some (some c, rest) := by
  obtain ⟨_, _, bound⟩ := toNat_not_surrogate c
  generalize number : c.toNat = n at double bound ⊢
  have high : isFirstHalf (0xD800 + (n - 0x10000) / 0x400) = true := by
    simp only [isFirstHalf, Bool.and_eq_true, decide_eq_true_eq]
    omega
  have low : isSecondHalf (0xDC00 + (n - 0x10000) % 0x400) = true := by
    simp only [isSecondHalf, Bool.and_eq_true, decide_eq_true_eq]
    omega
  have joined : 0x10000 + (0xD800 + (n - 0x10000) / 0x400 - 0xD800) * 0x400 +
      (0xDC00 + (n - 0x10000) % 0x400 - 0xDC00) = n := by omega
  rw [escape?_halves high low, joined, ← number, Char.ofNat_toNat]

theorem stringBody?_backslash {c : Option Char} {escape rest : List Char}
    (read : escape? escape = some (c, rest)) :
    stringBody? ('\\' :: escape) =
      (stringBody? rest).map fun (body, last) => (c :: body, last) := by
  rw [stringBody?, if_neg (by decide), if_pos rfl]
  split
  · next failed => rw [read] at failed; contradiction
  · next found =>
    obtain ⟨rfl, rfl⟩ := Prod.mk.inj (Option.some.inj (read.symm.trans found))
    rfl

theorem shortEscape?_of_mem {pair : Char × Char} (member : pair ∈ shortEscapes) :
    pair.2 ≠ 'u' ∧ shortEscape? pair.2 = some pair.1 := by
  revert pair
  decide

/-- Each way of writing a character is undone, whatever follows. -/
theorem stringBody?_escaped (c : Char) (rest : List Char) :
    stringBody? (escaped c ++ rest) =
      (stringBody? rest).map fun (body, last) => (some c :: body, last) := by
  unfold escaped
  split
  · next own letter found =>
    have member := List.mem_of_find?_eq_some found
    obtain ⟨notUnit, short⟩ := shortEscape?_of_mem member
    obtain rfl : own = c := by simpa using List.find?_some found
    apply stringBody?_backslash
    simp [escape?, notUnit, short]
  · next unset =>
    split
    · next plain =>
      have notQuote : c ≠ '"' := by
        rintro rfl
        exact absurd unset (by decide)
      have notBackslash : c ≠ '\\' := by
        rintro rfl
        exact absurd unset (by decide)
      rw [List.singleton_append, stringBody?, if_neg notQuote, if_neg notBackslash,
        if_neg (by omega)]
    · split
      · next single => exact stringBody?_backslash (escape?_unit single rest)
      · next double =>
        simp only [List.cons_append, List.append_assoc]
        exact stringBody?_backslash (escape?_pair (by omega) rest)

theorem stringBody?_quoted (text rest : List Char) :
    stringBody? (text.flatMap escaped ++ '"' :: rest) = some (text.map some, rest) := by
  induction text with
  | nil => simp [stringBody?]
  | cons c text ih => simp [stringBody?_escaped, ih]

theorem stringOf_map_some (text : List Char) :
    stringOf (text.map some) = .ok (.string (String.ofList text)) := by
  have complete : (text.map some).mapM id = some text := mapM_eq_some_iff.mpr (List.map_id _)
  simp only [stringOf, complete]

end Json
end ClassProfile
