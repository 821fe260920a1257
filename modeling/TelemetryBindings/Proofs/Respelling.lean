import TelemetryBindings.Proofs.CamelCase
import TelemetryBindings.Proofs.Names

/-!
# Names spelled in camel case

Camel case drops underscores, dashes and dots, so that a respelled name begins with the first letter
or digit of the declared one. It follows the grammar of identifiers exactly if that is a letter. A
name that is capitalised after it was put in camel case can lose its word boundaries, but not where
the result has a single capital in front.
-/
namespace TelemetryBindings.Text

/-- The first letter or digit of the name is a letter. -/
def leadsWithLetter (name : String) : Bool :=
  (name.toList.find? Char.isAlphanum).any Char.isAlpha

theorem head?_raise (l : List Char) : (raise l).head? = l.head?.map Char.toUpper := by
  cases l <;> rfl

section

variable {name : List Char}

theorem find?_isAlphanum (hascii : ∀ c ∈ name, c.toNat < 0x80) :
    name.find? Char.isAlphanum = (words name).flatten.head? := by
  rw [flatten_words, List.head?_filter]
  induction name with
  | nil => rfl
  | cons c cs ih =>
    obtain ⟨hc, hcs⟩ := List.forall_mem_cons.mp hascii
    rw [List.find?_cons, List.find?_cons, isAlphanumeric_of_ascii hc, ih hcs]

/-- Camel case begins with the first letter or digit of the name. -/
theorem head?_camelChars (hascii : ∀ c ∈ name, c.toNat < 0x80) :
    (camelChars name).head? = (name.find? Char.isAlphanum).map Char.toLower := by
  rw [find?_isAlphanum hascii]
  cases h : words name with
  | nil => simp [camelChars, h]
  | cons first rest =>
    have hfirst : first ≠ [] := ne_nil_of_mem_words (h ▸ List.mem_cons_self)
    rw [camelChars_eq hascii h, List.flatten_cons]
    cases first with
    | nil => exact absurd rfl hfirst
    | cons c cs => rfl

/-- Both spellings have the same words, of which only the first looks different. -/
theorem pascalChars_eq_raise (hascii : ∀ c ∈ name, c.toNat < 0x80) :
    pascalChars name = raise (camelChars name) := by
  rw [pascalChars]
  cases h : words name with
  | nil => simp [camelChars, h, raise]
  | cons first rest =>
    have hfirst : first ≠ [] := ne_nil_of_mem_words (h ▸ List.mem_cons_self)
    have hclass := isAlphanum_words hascii first (h ▸ List.mem_cons_self)
    rw [camelChars_eq hascii h, List.flatMap_cons,
      capitalize_of_ascii fun c hc => toNat_lt_of_isAlphanum (hclass c hc),
      raise_append (by simpa using hfirst)]

theorem head?_pascalChars (hascii : ∀ c ∈ name, c.toNat < 0x80) :
    (pascalChars name).head? = (name.find? Char.isAlphanum).map Char.toUpper := by
  rw [pascalChars_eq_raise hascii, head?_raise, head?_camelChars hascii]
  simp [Function.comp_def]

theorem ascii_of_isAlphanum (h : ∀ c ∈ name, c.isAlphanum) : ∀ c ∈ name, c.toNat < 0x80 :=
  fun c hc => toNat_lt_of_isAlphanum (h c hc)

/-! ### The grammar of respelled names -/

/-- A text of letters and digits follows the grammar of identifiers if it begins with a letter. -/
theorem accepts_iff_of_isAlphanum (h : ∀ c ∈ name, c.isAlphanum) :
    Identifier.Grammar.code.accepts name ↔ name.head?.any Char.isAlpha := by
  cases name with
  | nil => rfl
  | cons c cs =>
    obtain ⟨hc, hcs⟩ := List.forall_mem_cons.mp h
    have hunderscore : c ≠ '_' := by
      rintro rfl
      exact absurd hc (by decide)
    have hcontinues : cs.all Identifier.Grammar.code.continues := by
      rw [List.all_eq_true]
      intro d hd
      simp [Identifier.Grammar.code, hcs d hd]
    have hbegins : Identifier.Grammar.code.begins c = c.isAlpha := by
      simp [Identifier.Grammar.code, hunderscore]
    rw [Identifier.Grammar.accepts, hbegins, hcontinues]
    simp

end

section

variable {name : String} (hascii : ∀ c ∈ name.toList, c.toNat < 0x80)
include hascii

theorem accepts_camel_iff :
    Identifier.Grammar.code.accepts (camel name).toList ↔ leadsWithLetter name := by
  rw [camel, String.toList_ofList, accepts_iff_of_isAlphanum (isAlphanum_camelChars hascii),
    head?_camelChars hascii, leadsWithLetter]
  cases name.toList.find? Char.isAlphanum <;> simp

theorem accepts_pascal_iff :
    Identifier.Grammar.code.accepts (pascal name).toList ↔ leadsWithLetter name := by
  rw [pascal, String.toList_ofList, accepts_iff_of_isAlphanum (isAlphanum_pascalChars hascii),
    head?_pascalChars hascii, leadsWithLetter]
  cases name.toList.find? Char.isAlphanum <;> simp

theorem isAlphanum_camel : ∀ c ∈ (camel name).toList, c.isAlphanum := by
  rw [camel, String.toList_ofList]
  exact isAlphanum_camelChars hascii

theorem leadsWithLetter_camel : leadsWithLetter (camel name) = leadsWithLetter name := by
  have hiff : leadsWithLetter (camel name) ↔ leadsWithLetter name := by
    rw [← accepts_camel_iff hascii, leadsWithLetter, accepts_iff_of_isAlphanum (isAlphanum_camel hascii)]
    cases hchars : (camel name).toList with
    | nil => rfl
    | cons c cs =>
      have hc : c.isAlphanum := isAlphanum_camel hascii c (hchars ▸ List.mem_cons_self)
      simp [hc]
  exact Bool.eq_iff_iff.mpr hiff

end

/-! ### Capitalising what is in camel case -/

/-- A capital after the first character begins a word, so it stays a capital and stays behind the
first character. -/
theorem exists_isUpper_tail_splitCase {side : Side} {word : List Char} {c : Char} {cs : List Char}
    (hclass : ∀ d ∈ word ++ c :: cs, d.isAlphanum) (hside : side.after c = .lower)
    (hcapital : ∃ d ∈ cs, d.isUpper) :
    ∃ d ∈ ((splitCase side word (c :: cs)).flatMap capitalize).tail, d.isUpper := by
  induction cs generalizing side word c with
  | nil => simp at hcapital
  | cons next rest ih =>
    have happend : word ++ c :: next :: rest = (word ++ [c]) ++ next :: rest := by simp
    rw [happend] at hclass
    obtain ⟨hword, hrest⟩ := List.forall_mem_append.mp hclass
    have hc : c.isAlphanum := hword c (by simp)
    have hnext : next.isAlphanum := hrest next List.mem_cons_self
    rw [splitCase, isUppercase_of_ascii (toNat_lt_of_isAlphanum hnext)]
    split_ifs with hleave hsplit
    · -- The next character is a capital, and the word that it begins comes second.
      have hhead : (pascalChars (next :: rest)).head? = some next := by
        rw [head?_pascalChars (ascii_of_isAlphanum hrest)]
        simp [hnext, Char.toUpper_eq_of_not_isLower (Char.not_isLower_of_isUpper hleave.2)]
      have hmem : next ∈ pascalChars (next :: rest) := List.mem_of_mem_head? hhead
      have hne : capitalize (word ++ [c]) ≠ [] := by
        rw [capitalize_of_ascii (ascii_of_isAlphanum hword)]
        cases word <;> simp [raise]
      rw [List.flatMap_cons, ← words_of_isAlphanum hrest, ← pascalChars,
        List.tail_append_of_ne_nil hne]
      exact ⟨next, List.mem_append_right _ hmem, hleave.2⟩
    · -- After `c` the side is `lower`, so `c` is no capital.
      have hupper : c.isUpper := by
        simpa [isUppercase_of_ascii (toNat_lt_of_isAlphanum hc)] using hsplit.2.1
      rw [Side.after_of_isUpper hupper] at hside
      exact absurd hside (by decide)
    · have hsmall : ¬ next.isUpper := fun hupper => hleave ⟨hside, hupper⟩
      have hside' : (side.after c).after next = .lower := by
        rw [hside]
        by_cases halpha : next.isAlpha
        · exact Side.after_of_isLower ((Bool.or_eq_true_iff.mp halpha).resolve_left hsmall)
        · exact Side.after_of_not_isAlpha hnext halpha
      obtain ⟨d, hd, hupper⟩ := hcapital
      rcases List.mem_cons.mp hd with rfl | hd
      · exact absurd hupper hsmall
      · exact ih hclass hside' ⟨d, hd, hupper⟩

/-- Camel case begins with a small letter, if it begins with a letter at all. -/
theorem isLower_of_camelChars {name : List Char} (hascii : ∀ c ∈ name, c.toNat < 0x80) {x : Char}
    {xs : List Char} (h : camelChars name = x :: xs) (hx : x.isAlpha) : x.isLower := by
  have hhead := head?_camelChars hascii
  rw [h, List.head?_cons, eq_comm, Option.map_eq_some_iff] at hhead
  obtain ⟨y, -, rfl⟩ := hhead
  simpa using hx

/-- Where capitalising a name in camel case gives a letter and then no capitals, it gives what
capitalising the name itself does. -/
theorem pascal_camel_of_no_capitals {name : String} (hascii : ∀ c ∈ name.toList, c.toNat < 0x80)
    {c : Char} {cs : List Char} (h : (pascal (camel name)).toList = c :: cs) (hc : c.isAlpha)
    (hcs : ∀ d ∈ cs, ¬ d.isUpper) : pascal (camel name) = pascal name := by
  have hclass := isAlphanum_camelChars hascii
  simp only [pascal, camel, String.toList_ofList] at h ⊢
  rw [pascalChars_eq_raise hascii]
  cases hchars : camelChars name.toList with
  | nil => rfl
  | cons x xs =>
    rw [hchars] at h hclass
    have hx : x.isLower := by
      have hhead := head?_pascalChars (ascii_of_isAlphanum hclass)
      rw [h, List.find?_cons_of_pos (hclass x List.mem_cons_self), List.head?_cons,
        Option.map_some, Option.some.injEq] at hhead
      rw [hhead, Char.isAlpha_toUpper_eq_isAlpha] at hc
      exact isLower_of_camelChars hascii hchars hc
    have hxs : ∀ d ∈ xs, ¬ d.isUpper := by
      intro d hd hupper
      have htail := @exists_isUpper_tail_splitCase .uncased [] x xs hclass
        (Side.after_of_isLower hx) ⟨d, hd, hupper⟩
      rw [← words_of_isAlphanum hclass, ← pascalChars, h] at htail
      obtain ⟨e, he, hcapital⟩ := htail
      exact hcs e he hcapital
    have hspaced : spaced (x :: xs) := by
      rw [← List.append_nil (x :: xs)]
      exact spaced_append (List.forall_mem_cons.mpr ⟨Char.not_isUpper_of_isLower hx, hxs⟩) rfl
    rw [pascalChars_of_spaced hclass (by simp [Char.isAlpha, hx]) hspaced]
    rfl

end TelemetryBindings.Text
