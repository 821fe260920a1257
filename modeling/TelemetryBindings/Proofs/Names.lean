import TelemetryBindings.Identifier

/-!
# The characters of names

Whatever its grammar, an accepted name consists of ASCII letters and digits, underscores, dashes
and dots.
-/
namespace TelemetryBindings.Identifier

def isNameChar (c : Char) : Bool := c.isAlphanum || c == '_' || c == '-' || c == '.'

/-- Names are written in printable ASCII characters. -/
theorem toNat_of_isNameChar {c : Char} (h : isNameChar c) : 0x20 ≤ c.toNat ∧ c.toNat < 0x80 := by
  have hbetween : ∀ low high : Char, 0x20 ≤ low.toNat → high.toNat < 0x80 →
      low.val ≤ c.val → c.val ≤ high.val → 0x20 ≤ c.toNat ∧ c.toNat < 0x80 :=
    fun _ _ hl hh hlow hhigh => ⟨Nat.le_trans hl (UInt32.le_iff_toNat_le.mp hlow),
      Nat.lt_of_le_of_lt (UInt32.le_iff_toNat_le.mp hhigh) hh⟩
  simp only [isNameChar, Bool.or_eq_true, beq_iff_eq] at h
  rcases h with ((h | rfl) | rfl) | rfl
  · rcases Bool.or_eq_true_iff.mp h with h | h
    · rcases Bool.or_eq_true_iff.mp h with h | h
      · obtain ⟨hlow, hhigh⟩ := of_decide_eq_true h
        exact hbetween 'A' 'Z' (by decide) (by decide) hlow hhigh
      · obtain ⟨hlow, hhigh⟩ := Bool.and_eq_true_iff.mp h
        exact hbetween 'a' 'z' (by decide) (by decide) (of_decide_eq_true hlow)
          (of_decide_eq_true hhigh)
    · obtain ⟨hlow, hhigh⟩ := Bool.and_eq_true_iff.mp h
      exact hbetween '0' '9' (by decide) (by decide) (of_decide_eq_true hlow)
        (of_decide_eq_true hhigh)
  all_goals decide

structure Grammar.Plain (g : Grammar) : Prop where
  begins : ∀ c, g.begins c → isNameChar c
  continues : ∀ c, g.continues c → isNameChar c

theorem Grammar.plain_code : Grammar.code.Plain := by
  constructor <;> intro c h <;>
    simp only [code, isNameChar, Char.isAlphanum, Bool.or_eq_true, beq_iff_eq] at h ⊢ <;> grind

theorem Grammar.plain_ping : Grammar.ping.Plain := by
  refine ⟨plain_code.begins, fun c h => ?_⟩
  rcases Bool.or_eq_true_iff.mp h with h | h
  · exact plain_code.continues c h
  · simp [isNameChar, beq_iff_eq.mp h]

theorem isNameChar_of_isLower {c : Char} (h : c.isLower) : isNameChar c := by
  have halpha : c.isAlpha := Bool.or_eq_true_iff.mpr (Or.inr h)
  simp [isNameChar, Char.isAlphanum, halpha]

theorem Grammar.plain_label : Grammar.label.Plain := by
  constructor <;> intro c h <;>
    simp only [label, Bool.or_eq_true, beq_iff_eq] at h
  · rcases h with h | rfl
    · exact isNameChar_of_isLower h
    · decide
  · rcases h with ((h | h) | rfl) | rfl
    · exact isNameChar_of_isLower h
    · simp [isNameChar, Char.isAlphanum, h]
    · decide
    · decide

namespace Grammar.Plain

variable {g : Grammar}

theorem mem_of_accepts (hg : g.Plain) {cs : List Char} (h : g.accepts cs) :
    ∀ c ∈ cs, isNameChar c := by
  cases cs with
  | nil => exact fun c hc => absurd hc List.not_mem_nil
  | cons c cs =>
    obtain ⟨hbegins, hcontinues⟩ := Bool.and_eq_true_iff.mp h
    rw [List.all_eq_true] at hcontinues
    exact List.forall_mem_cons.mpr
      ⟨hg.begins c hbegins, fun d hd => hg.continues d (hcontinues d hd)⟩

theorem mem_of_acceptsDotted (hg : g.Plain) {fresh : Bool} {cs : List Char}
    (h : g.acceptsDotted fresh cs) : ∀ c ∈ cs, isNameChar c := by
  induction cs generalizing fresh with
  | nil => exact fun c hc => absurd hc List.not_mem_nil
  | cons c cs ih =>
    rw [List.forall_mem_cons]
    cases fresh with
    | true =>
      obtain ⟨hbegins, hrest⟩ := Bool.and_eq_true_iff.mp h
      exact ⟨hg.begins c hbegins, ih hrest⟩
    | false =>
      rw [acceptsDotted] at h
      split at h
      · next hdot =>
        subst hdot
        exact ⟨rfl, ih h⟩
      · obtain ⟨hcontinues, hrest⟩ := Bool.and_eq_true_iff.mp h
        exact ⟨hg.continues c hcontinues, ih hrest⟩

end Grammar.Plain

def Plain (value : String) : Prop := ∀ c ∈ value.toList, isNameChar c

instance (value : String) : Decidable (Plain value) :=
  decidable_of_iff (value.toList.all isNameChar) List.all_eq_true

variable {value : String}

theorem plain_of_isIdentifier {maxLength : Nat} (h : isIdentifier value maxLength) : Plain value :=
  Grammar.plain_code.mem_of_accepts (Bool.and_eq_true_iff.mp h).2

theorem plain_of_isCategory (h : isCategory value) : Plain value :=
  Grammar.plain_code.mem_of_acceptsDotted (Bool.and_eq_true_iff.mp h).2

theorem plain_of_isPingName (h : isPingName value) : Plain value :=
  Grammar.plain_ping.mem_of_accepts (Bool.and_eq_true_iff.mp h).2

theorem plain_of_isLabel (h : isLabel value) : Plain value :=
  Grammar.plain_label.mem_of_acceptsDotted (Bool.and_eq_true_iff.mp h).2

end TelemetryBindings.Identifier
