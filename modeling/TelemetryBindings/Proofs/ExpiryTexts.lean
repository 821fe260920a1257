import TelemetryBindings.Expiry
import TelemetryBindings.Proofs.DateTexts

/-!
# Texts of expiries

What a metric gives as its expiry is read as it would be written: of strings only the texts of
`never`, `expired` and dates of four-digit years, of integers those that fit a major version, and of
other nodes nothing. Nothing is trimmed, completed or converted.
-/
namespace TelemetryBindings

namespace Expiry

/-- The expiry is written as a string. -/
def Spelled : Expiry → Prop
  | .never | .expired => True
  | .date day => day.FourDigitYear
  | .version _ => False

theorem parse?_string (s : String) : parse? (.string s) =
    if s = "never" then some .never else if s = "expired" then some .expired
    else (Date.parseStrict? s).map .date := rfl

/-- Strings are read as the expiries of which they are the text. -/
theorem parse?_string_eq_some_iff (s : String) (e : Expiry) :
    parse? (.string s) = some e ↔ e.Spelled ∧ e.text = s := by
  constructor
  · intro h
    rw [parse?_string] at h
    split_ifs at h with hnever hexpired
    · cases h
      exact ⟨trivial, hnever.symm⟩
    · cases h
      exact ⟨trivial, hexpired.symm⟩
    · obtain ⟨day, hday, rfl⟩ := Option.map_eq_some_iff.mp h
      exact (Date.parseStrict?_iff_text s day).mp hday
  · rintro ⟨hspelled, rfl⟩
    cases e with
    | never => rfl
    | expired => rfl
    | date day =>
      have hday : Date.parseStrict? day.text = some day :=
        (Date.parseStrict?_iff_text _ day).mpr ⟨hspelled, rfl⟩
      have hword : ∀ word, Date.parseStrict? word = none → day.text ≠ word := by
        rintro word hnone rfl
        rw [hnone] at hday
        cases hday
      rw [parse?_string, text, if_neg (hword "never" rfl), if_neg (hword "expired" rfl), hday]
      rfl
    | version major => exact hspelled.elim

theorem exists_parse?_string_iff (s : String) :
    (∃ e, parse? (.string s) = some e) ↔ s = "never" ∨ s = "expired" ∨ Date.IsText s := by
  rw [parse?_string, ← Date.exists_parseStrict?_iff]
  by_cases hnever : s = "never"
  · simp [hnever]
  · by_cases hexpired : s = "expired"
    · simp [hexpired]
    · simp [hnever, hexpired]

theorem parse?_integer_eq_some_iff (i : Int) (e : Expiry) :
    parse? (.integer i) = some e ↔ 0 ≤ i ∧ i < 2 ^ 32 ∧ e = .version i.toNat := by
  rw [parse?, Option.ite_none_right_eq_some, Option.some.injEq, and_assoc, eq_comm (b := e)]
  norm_num

/-- A string is read exactly as the expiry of which it is the text, so reading and writing are
inverse to each other; the strings that are read are the two words and the texts of days that exist.
An integer is read as the major version of that number if it fits 32 bits, and nothing else is read
at all. Of the strings that look like a date by any notion of digits, those are read that a calendar
takes. -/
theorem parse?_strict :
    (∀ s e, parse? (.string s) = some e ↔ e.Spelled ∧ e.text = s) ∧
      (∀ s, (∃ e, parse? (.string s) = some e) ↔
        s = "never" ∨ s = "expired" ∨ Date.IsText s) ∧
      (∀ i e, parse? (.integer i) = some e ↔ 0 ≤ i ∧ i < 2 ^ 32 ∧ e = .version i.toNat) ∧
      (∀ major, (Expiry.version major).text = String.ofList (Nat.toDigits 10 major)) ∧
      (∀ node, (∃ s, node = .string s) ∨ (∃ i, node = .integer i) ∨ parse? node = none) ∧
      ∀ (D : Date.DigitClass) s, parse? (.string s) =
        if s = "never" then some .never else if s = "expired" then some .expired
        else if D.looksLikeDate s then (Date.parse? s).map .date else none := by
  refine ⟨parse?_string_eq_some_iff, exists_parse?_string_iff, parse?_integer_eq_some_iff,
    fun major => Nat.toString_eq_ofList_toDigits, ?_, fun D s => ?_⟩
  · intro node
    cases node with
    | string s => exact Or.inl ⟨s, rfl⟩
    | integer i => exact Or.inr (Or.inl ⟨i, rfl⟩)
    | _ => exact Or.inr (Or.inr rfl)
  · rw [parse?_string, Date.parseStrict?_eq D]
    split_ifs <;> rfl

end Expiry

end TelemetryBindings
