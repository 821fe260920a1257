import Mathlib
import TelemetryBindings.Proofs.Names
import TelemetryBindings.Proofs.Words

/-!
# Splitting camel case again

Names in camel case are split into words a second time when they are capitalised. Words can run
together there: `aBC`, made of `a`, `b` and `c`, falls into `a` and `BC`. They do not as long as
every capital is followed by a small letter, and capitalising then raises the first letter only.
-/
namespace TelemetryBindings.Text

theorem alphanumericRuns_eq {run cs : List Char} (h : ∀ c ∈ cs, isAlphanumeric c) :
    alphanumericRuns run cs = [run ++ cs] := by
  induction cs generalizing run with
  | nil => simp [alphanumericRuns]
  | cons c cs ih =>
    rw [alphanumericRuns, if_pos (h c List.mem_cons_self),
      ih fun d hd => h d (List.mem_cons_of_mem _ hd), List.append_assoc]
    rfl

/-! ### Case of ASCII letters and digits -/

theorem toNat_lt_of_isAlphanum {c : Char} (h : c.isAlphanum) : c.toNat < 0x80 := by
  simp [Char.isAlphanum, Char.isAlpha, Char.isUpper, Char.isLower, Char.isDigit,
    UInt32.le_iff_toNat_le] at h
  omega

theorem isAlphanum_toLower (c : Char) : c.toLower.isAlphanum = c.isAlphanum := by
  by_cases h : c.isUpper
  · have : c.isAlpha := by simp [Char.isAlpha, h]
    simp [Char.isAlphanum, this]
  · rw [Char.toLower_eq_of_not_isUpper h]

theorem isAlphanum_toUpper (c : Char) : c.toUpper.isAlphanum = c.isAlphanum := by
  by_cases h : c.isLower
  · have : c.isAlpha := by simp [Char.isAlpha, h]
    simp [Char.isAlphanum, this]
  · rw [Char.toUpper_eq_of_not_isLower h]

theorem lowerWord_of_ascii {w : List Char} (h : ∀ c ∈ w, c.toNat < 0x80) :
    lowerWord w = w.map Char.toLower := by
  induction w with
  | nil => rfl
  | cons c cs ih =>
    have hc := h c List.mem_cons_self
    have hsigma : ¬ (c = 'Σ' ∧ cs = []) := by
      rintro ⟨rfl, -⟩
      exact absurd hc (by decide)
    rw [lowerWord, lowerChars_of_ascii hc, ih fun d hd => h d (List.mem_cons_of_mem _ hd)]
    · rfl
    · exact fun hc hcs => hsigma ⟨hc, hcs⟩

def raise : List Char → List Char
  | [] => []
  | c :: cs => c.toUpper :: cs

theorem capitalize_of_ascii {w : List Char} (h : ∀ c ∈ w, c.toNat < 0x80) :
    capitalize w = raise (w.map Char.toLower) := by
  cases w with
  | nil => rfl
  | cons c cs =>
    rw [capitalize, upperChars_of_ascii (h c List.mem_cons_self),
      lowerWord_of_ascii fun d hd => h d (List.mem_cons_of_mem _ hd)]
    simp [raise]

/-! ### Texts that fall apart at their capitals -/

/-- Every capital is followed by a small letter. -/
def spaced : List Char → Bool
  | [] => true
  | [c] => !c.isUpper
  | c :: d :: rest => (!c.isUpper || d.isLower) && spaced (d :: rest)

/-- The next character continues the current word, or begins the first one. -/
def Resumes (side : Side) (c : Char) : List Char → Prop
  | [] => side = .uncased ∧ c.isAlpha
  | _ :: rest => (∀ d ∈ rest, ¬ d.isUpper) ∧ ¬ c.isUpper ∧
      (side = .lower ∨ side = .upper ∧ c.isLower)

theorem Side.after_of_isLower {side : Side} {c : Char} (h : c.isLower) :
    side.after c = .lower := by
  have hc : c.isAlphanum := by simp [Char.isAlphanum, Char.isAlpha, h]
  rw [after, isLowercase_of_ascii (toNat_lt_of_isAlphanum hc), if_pos h]

theorem Side.after_of_isUpper {side : Side} {c : Char} (h : c.isUpper) :
    side.after c = .upper := by
  have hc : c.isAlphanum := by simp [Char.isAlphanum, Char.isAlpha, h]
  have hascii := toNat_lt_of_isAlphanum hc
  rw [after, isLowercase_of_ascii hascii, if_neg (Char.not_isLower_of_isUpper h),
    isUppercase_of_ascii hascii, if_pos h]

theorem Side.after_of_not_isAlpha {side : Side} {c : Char} (hc : c.isAlphanum)
    (h : ¬ c.isAlpha) : side.after c = side := by
  have hascii := toNat_lt_of_isAlphanum hc
  simp only [Char.isAlpha, Bool.or_eq_true, not_or] at h
  rw [after, isLowercase_of_ascii hascii, if_neg h.2, isUppercase_of_ascii hascii, if_neg h.1]

theorem raise_append {l : List Char} (h : l ≠ []) (r : List Char) :
    raise (l ++ r) = raise l ++ r := by
  cases l with
  | nil => exact absurd rfl h
  | cons c cs => rfl

theorem raise_of_isUpper {c : Char} (h : c.isUpper) (cs : List Char) :
    raise (c :: cs) = c :: cs := by
  rw [raise, Char.toUpper_eq_of_not_isLower (Char.not_isLower_of_isUpper h)]

theorem capitalize_eq_raise {c : Char} {cs : List Char} (h : ∀ d ∈ c :: cs, d.isAlphanum)
    (hsmall : ∀ d ∈ cs, ¬ d.isUpper) : capitalize (c :: cs) = raise (c :: cs) := by
  have hmap : cs.map Char.toLower = cs.map id :=
    List.map_congr_left fun d hd => Char.toLower_eq_of_not_isUpper (hsmall d hd)
  rw [capitalize_of_ascii fun d hd => toNat_lt_of_isAlphanum (h d hd)]
  simp [raise, hmap]

namespace Resumes

variable {side : Side} {word : List Char} {c : Char}

theorem capitalize (h : Resumes side c word) (hclass : ∀ d ∈ word ++ [c], d.isAlphanum) :
    Text.capitalize (word ++ [c]) = raise (word ++ [c]) := by
  cases word with
  | nil => exact capitalize_eq_raise hclass fun d hd => absurd hd List.not_mem_nil
  | cons w ws =>
    refine capitalize_eq_raise hclass fun d hd => ?_
    rcases List.mem_append.mp hd with hd | hd
    · exact h.1 d hd
    · exact List.mem_singleton.mp hd ▸ h.2.1

/-- No word ends before a capital that continues it. -/
theorem not_upper (h : Resumes side c word) (hc : c.isAlphanum) :
    ¬ (side = .upper ∧ isUppercase c) := by
  rintro ⟨rfl, hupper⟩
  rw [isUppercase_of_ascii (toNat_lt_of_isAlphanum hc)] at hupper
  cases word with
  | nil => exact absurd h.1 (by decide)
  | cons w ws => exact h.2.1 hupper

/-- After a character that ends no word the next one continues the word. -/
theorem next (h : Resumes side c word) (hc : c.isAlphanum) {d : Char}
    (hspaced : c.isUpper → d.isLower) (hstay : ¬ (side.after c = .lower ∧ d.isUpper)) :
    Resumes (side.after c) d (word ++ [c]) := by
  -- The side after `c` is `lower`, or `c` is the capital that begins the word.
  have hside : side.after c = .lower ∨ c.isUpper := by
    cases word with
    | nil =>
      rcases Bool.or_eq_true_iff.mp h.2 with hu | hl
      · exact Or.inr hu
      · exact Or.inl (Side.after_of_isLower hl)
    | cons w ws =>
      obtain ⟨-, -, rfl | ⟨rfl, hl⟩⟩ := h
      · by_cases ha : c.isAlpha
        · rcases Bool.or_eq_true_iff.mp ha with hu | hl
          · exact Or.inr hu
          · exact Or.inl (Side.after_of_isLower hl)
        · exact Or.inl (Side.after_of_not_isAlpha hc ha)
      · exact Or.inl (Side.after_of_isLower hl)
  have hd : ¬ d.isUpper := by
    rcases hside with hlower | hu
    · exact fun hupper => hstay ⟨hlower, hupper⟩
    · exact Char.not_isUpper_of_isLower (hspaced hu)
  have hlast : side.after c = .lower ∨ side.after c = .upper ∧ d.isLower := by
    rcases hside with hlower | hu
    · exact Or.inl hlower
    · exact Or.inr ⟨Side.after_of_isUpper hu, hspaced hu⟩
  cases word with
  | nil => exact ⟨fun e he => absurd he List.not_mem_nil, hd, hlast⟩
  | cons w ws =>
    refine ⟨fun e he => ?_, hd, hlast⟩
    rcases List.mem_append.mp he with he | he
    · exact h.1 e he
    · exact List.mem_singleton.mp he ▸ h.2.1

end Resumes

/-- Capitalising the words of such a text raises its first letter and nothing else. -/
theorem flatMap_capitalize_splitCase {side : Side} {word : List Char} {c : Char} {cs : List Char}
    (hclass : ∀ d ∈ word ++ c :: cs, d.isAlphanum) (hspaced : spaced (c :: cs))
    (hstate : Resumes side c word) :
    (splitCase side word (c :: cs)).flatMap capitalize = raise (word ++ c :: cs) := by
  induction cs generalizing side word c with
  | nil =>
    rw [splitCase, List.flatMap_singleton]
    exact hstate.capitalize hclass
  | cons next rest ih =>
    obtain ⟨hcapital, hrest⟩ := Bool.and_eq_true_iff.mp hspaced
    have hcapital : c.isUpper → next.isLower := fun hu => by simpa [hu] using hcapital
    have hc : c.isAlphanum := hclass c (by simp)
    have hnext : next.isAlphanum := hclass next (by simp)
    have hupper : isUppercase next = next.isUpper :=
      isUppercase_of_ascii (toNat_lt_of_isAlphanum hnext)
    have happend : word ++ c :: next :: rest = (word ++ [c]) ++ next :: rest := by simp
    rw [splitCase, hupper]
    split_ifs with hleave hsplit
    · have hbegins : Resumes .uncased next [] := ⟨rfl, by simp [Char.isAlpha, hleave.2]⟩
      have hclassNext : ∀ d ∈ [] ++ next :: rest, d.isAlphanum := fun d hd =>
        hclass d (happend ▸ List.mem_append_right _ hd)
      have hclassWord : ∀ d ∈ word ++ [c], d.isAlphanum := fun d hd =>
        hclass d (happend ▸ List.mem_append_left _ hd)
      rw [List.flatMap_cons, ih hclassNext hrest hbegins, hstate.capitalize hclassWord,
        List.nil_append, raise_of_isUpper hleave.2, happend,
        raise_append (List.append_ne_nil_of_right_ne_nil word (List.cons_ne_nil c []))]
    · exact absurd ⟨hsplit.1, hsplit.2.1⟩ (hstate.not_upper hc)
    · rw [happend, ih (happend ▸ hclass) hrest (hstate.next hc hcapital hleave)]

/-- A text of letters and digits is a single run. -/
theorem words_of_isAlphanum {cs : List Char} (h : ∀ d ∈ cs, d.isAlphanum) :
    words cs = splitCase .uncased [] cs := by
  have hruns : ∀ d ∈ cs, isAlphanumeric d := fun d hd => by
    rw [isAlphanumeric_of_ascii (toNat_lt_of_isAlphanum (h d hd))]
    exact h d hd
  rw [words, alphanumericRuns_eq hruns, List.flatMap_singleton, List.nil_append]

/-- In a text that begins with a letter and in which every capital is followed by a small letter,
capitalising keeps everything but the case of the first letter. -/
theorem pascalChars_of_spaced {c : Char} {cs : List Char} (hclass : ∀ d ∈ c :: cs, d.isAlphanum)
    (hc : c.isAlpha) (hspaced : spaced (c :: cs)) : pascalChars (c :: cs) = c.toUpper :: cs := by
  have hbegins : Resumes .uncased c [] := ⟨rfl, hc⟩
  rw [pascalChars, words_of_isAlphanum hclass, flatMap_capitalize_splitCase hclass hspaced hbegins]
  rfl

/-! ### Names whose words stay apart -/

def beginsLong : List Char → Bool
  | a :: b :: _ => a.isAlpha && b.isAlpha
  | _ => false

/-- The first word of the name begins with a letter and every other word with two. -/
def wellSeparated (name : String) : Bool :=
  match words name.toList with
  | (c :: _) :: rest => c.isAlpha && rest.all beginsLong
  | _ => false

/-- A small letter, then letters and digits, with a small letter after every capital. -/
def humped (identifier : String) : Bool :=
  match identifier.toList with
  | [] => false
  | c :: cs => c.isLower && (c :: cs).all Char.isAlphanum && spaced (c :: cs)

theorem spaced_append {l r : List Char} (hl : ∀ c ∈ l, ¬ c.isUpper) (hr : spaced r) :
    spaced (l ++ r) := by
  induction l with
  | nil => exact hr
  | cons c l ih =>
    have hc : c.isUpper = false := by simpa using hl c List.mem_cons_self
    have hrest := ih fun d hd => hl d (List.mem_cons_of_mem _ hd)
    rw [List.cons_append]
    cases htail : l ++ r with
    | nil => simp [spaced, hc]
    | cons d ds =>
      rw [htail] at hrest
      simp [spaced, hc, hrest]

theorem spaced_capitalized {w r : List Char} (hw : beginsLong w) (hr : spaced r) :
    spaced (raise (w.map Char.toLower) ++ r) := by
  match w, hw with
  | a :: b :: t, hw =>
    have hb : b.isAlpha := (Bool.and_eq_true_iff.mp hw).2
    have hrest : spaced ((b :: t).map Char.toLower ++ r) := by
      refine spaced_append (fun c hc => ?_) hr
      obtain ⟨d, -, rfl⟩ := List.mem_map.mp hc
      simp
    rw [List.map_cons, List.cons_append] at hrest
    simp [raise, spaced, hb, hrest]

theorem spaced_flatMap_capitalized {ws : List (List Char)} (h : ∀ w ∈ ws, beginsLong w) :
    spaced (ws.flatMap fun w => raise (w.map Char.toLower)) := by
  induction ws with
  | nil => rfl
  | cons w ws ih =>
    rw [List.flatMap_cons]
    exact spaced_capitalized (h w List.mem_cons_self)
      (ih fun v hv => h v (List.mem_cons_of_mem _ hv))

theorem isAlphanum_capitalize {w : List Char} (h : ∀ c ∈ w, c.isAlphanum) :
    ∀ c ∈ capitalize w, c.isAlphanum := by
  rw [capitalize_of_ascii fun c hc => toNat_lt_of_isAlphanum (h c hc)]
  cases w with
  | nil => exact fun c hc => absurd hc List.not_mem_nil
  | cons a w =>
    rw [List.map_cons, raise, List.forall_mem_cons, List.forall_mem_map, isAlphanum_toUpper,
      isAlphanum_toLower]
    exact ⟨h a List.mem_cons_self, fun c hc =>
      (isAlphanum_toLower c).trans (h c (List.mem_cons_of_mem _ hc))⟩

section

variable {name : List Char}

theorem isAlphanum_words (hascii : ∀ c ∈ name, c.toNat < 0x80) :
    ∀ w ∈ words name, ∀ c ∈ w, c.isAlphanum := by
  intro w hw c hc
  obtain ⟨hmem, hclass⟩ := mem_words hw hc
  rwa [isAlphanumeric_of_ascii (hascii c hmem)] at hclass

theorem camelChars_eq (hascii : ∀ c ∈ name, c.toNat < 0x80) {first : List Char}
    {rest : List (List Char)} (h : words name = first :: rest) :
    camelChars name = first.map Char.toLower ++ rest.flatMap capitalize := by
  have hfirst : ∀ c ∈ first, c.isAlphanum :=
    isAlphanum_words hascii first (h ▸ List.mem_cons_self)
  simp only [camelChars, h]
  rw [lowerWord_of_ascii fun c hc => toNat_lt_of_isAlphanum (hfirst c hc)]

/-- The camel case of an ASCII name consists of letters and digits. -/
theorem isAlphanum_camelChars (hascii : ∀ c ∈ name, c.toNat < 0x80) :
    ∀ c ∈ camelChars name, c.isAlphanum := by
  cases h : words name with
  | nil => simp [camelChars, h]
  | cons first rest =>
    have hwords := isAlphanum_words hascii
    rw [h, List.forall_mem_cons] at hwords
    rw [camelChars_eq hascii h, List.forall_mem_append, List.forall_mem_map,
      List.forall_mem_flatMap]
    exact ⟨fun c hc => (isAlphanum_toLower c).trans (hwords.1 c hc),
      fun w hw => isAlphanum_capitalize (hwords.2 w hw)⟩

theorem isAlphanum_pascalChars (hascii : ∀ c ∈ name, c.toNat < 0x80) :
    ∀ c ∈ pascalChars name, c.isAlphanum := by
  rw [pascalChars, List.forall_mem_flatMap]
  exact fun w hw => isAlphanum_capitalize (isAlphanum_words hascii w hw)

end

theorem plain_of_alphanum {s : String} (h : ∀ c ∈ s.toList, c.isAlphanum) : Identifier.Plain s :=
  fun c hc => by simp [Identifier.isNameChar, h c hc]

theorem plain_camel {s : String} (h : Identifier.Plain s) : Identifier.Plain (camel s) := by
  refine plain_of_alphanum ?_
  rw [camel, String.toList_ofList]
  exact isAlphanum_camelChars fun c hc => (Identifier.toNat_of_isNameChar (h c hc)).2

theorem plain_pascal {s : String} (h : Identifier.Plain s) : Identifier.Plain (pascal s) := by
  refine plain_of_alphanum ?_
  rw [pascal, String.toList_ofList]
  exact isAlphanum_pascalChars fun c hc => (Identifier.toNat_of_isNameChar (h c hc)).2

/-- A name of well separated words keeps them apart in camel case. -/
theorem humped_camel {name : String} (hascii : ∀ c ∈ name.toList, c.toNat < 0x80)
    (h : wellSeparated name) : humped (camel name) := by
  rw [wellSeparated] at h
  split at h
  · next c first rest heq =>
    obtain ⟨hc, hrest⟩ := Bool.and_eq_true_iff.mp h
    rw [List.all_eq_true] at hrest
    have hwords := isAlphanum_words hascii
    have hcapitalize : rest.flatMap capitalize =
        rest.flatMap fun w => raise (w.map Char.toLower) :=
      List.flatMap_congr fun w hw => capitalize_of_ascii fun d hd =>
        toNat_lt_of_isAlphanum (hwords w (heq ▸ List.mem_cons_of_mem _ hw) d hd)
    have hchars : camelChars name.toList =
        c.toLower :: (first.map Char.toLower ++ rest.flatMap capitalize) :=
      camelChars_eq hascii heq
    have hspaced : spaced (camelChars name.toList) := by
      rw [camelChars_eq hascii heq, hcapitalize]
      refine spaced_append (fun d hd => ?_) (spaced_flatMap_capitalized hrest)
      obtain ⟨e, -, rfl⟩ := List.mem_map.mp hd
      simp
    have hclass := List.all_eq_true.mpr (isAlphanum_camelChars hascii)
    rw [hchars] at hspaced hclass
    rw [humped, camel, String.toList_ofList, hchars]
    simp only [Char.isLower_toLower_eq_isAlpha, hc, hclass, hspaced, Bool.and_self]
  · exact absurd h (by decide)

theorem pascal_of_humped {identifier : String} (h : humped identifier) :
    ∃ c cs, identifier.toList = c :: cs ∧ c.isLower ∧
      (pascal identifier).toList = c.toUpper :: cs := by
  rw [humped] at h
  split at h
  · exact absurd h (by decide)
  · next c cs heq =>
    simp only [Bool.and_eq_true] at h
    obtain ⟨⟨hc, hclass⟩, hspaced⟩ := h
    refine ⟨c, cs, heq, hc, ?_⟩
    rw [pascal, String.toList_ofList, heq]
    exact pascalChars_of_spaced (List.all_eq_true.mp hclass) (by simp [Char.isAlpha, hc]) hspaced

/-- Identifiers whose capitals stand apart stay distinct when they are capitalised. -/
theorem pascal_injOn_humped {a b : String} (ha : humped a) (hb : humped b)
    (h : pascal a = pascal b) : a = b := by
  obtain ⟨c, cs, hca, hc, hpa⟩ := pascal_of_humped ha
  obtain ⟨d, ds, hdb, hd, hpb⟩ := pascal_of_humped hb
  have hsame : c.toUpper :: cs = d.toUpper :: ds := by rw [← hpa, ← hpb, h]
  obtain ⟨hfirst, hrest⟩ := List.cons.inj hsame
  have hlower := congrArg Char.toLower hfirst
  rw [Char.toLower_toUpper_eq_toLower, Char.toLower_toUpper_eq_toLower,
    Char.toLower_eq_of_not_isUpper (Char.not_isUpper_of_isLower hc),
    Char.toLower_eq_of_not_isUpper (Char.not_isUpper_of_isLower hd)] at hlower
  exact String.toList_inj.mp (by rw [hca, hdb, hlower, hrest])

end TelemetryBindings.Text
