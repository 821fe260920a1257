import TelemetryBindings.Proofs.CamelCase

/-!
# The characters of camel case

Whatever characters a name has, its spellings in camel case have no ASCII characters but letters
and digits, and the spelling that begins in lower case does not begin with a capital of ASCII. Some
characters beyond ASCII have a letter of ASCII as their other case, so the tables are checked for
what they map there.
-/
namespace TelemetryBindings.Text

def isWordChar (c : Char) : Bool := c.isAlphanum || 0x80 ≤ c.toNat

def isSmallChar (c : Char) : Bool := isWordChar c && !c.isUpper

/-! ### The tables -/

/-- All characters in the range of the shift stay beyond ASCII, or the only one becomes an allowed
character. -/
def CaseShift.keeps (allowed : Char → Bool) (s : CaseShift) : Bool :=
  (0x80 ≤ s.codes.first + s.distance && s.codes.last + s.distance < 0xD800) ||
  (0xE000 ≤ s.codes.first + s.distance && s.codes.last + s.distance < 0x110000) ||
  (s.codes.first == s.codes.last && allowed (Char.ofNat (s.codes.first + s.distance).toNat))

theorem toNat_ofNat {n : Nat} (h : n.isValidChar) : (Char.ofNat n).toNat = n := by
  rw [Char.ofNat, dif_pos h]
  rfl

theorem CaseShift.allowed_of_keeps {allowed : Char → Bool}
    (hbeyond : ∀ c : Char, 0x80 ≤ c.toNat → allowed c) {s : CaseShift} (hs : s.keeps allowed)
    {n : Nat} (hn : s.codes.contains n) : allowed (Char.ofNat (n + s.distance).toNat) := by
  simp only [keeps, Stride.contains, Bool.or_eq_true, Bool.and_eq_true, decide_eq_true_eq,
    beq_iff_eq] at hs hn
  obtain ⟨⟨hfirst, hlast⟩, -⟩ := hn
  rcases hs with (⟨hlow, hhigh⟩ | ⟨hlow, hhigh⟩) | ⟨hsingle, hallowed⟩
  · have hvalid : (n + s.distance).toNat.isValidChar := Or.inl (by omega)
    exact hbeyond _ (by rw [toNat_ofNat hvalid]; omega)
  · have hvalid : (n + s.distance).toNat.isValidChar := Or.inr (by omega)
    exact hbeyond _ (by rw [toNat_ofNat hvalid]; omega)
  · obtain rfl : n = s.codes.first := by omega
    exact hallowed

theorem allowed_of_mem_mapCase {allowed : Char → Bool}
    (hbeyond : ∀ c : Char, 0x80 ≤ c.toNat → allowed c) {expansions : List (Nat × List Nat)}
    (hexpansions : ∀ e ∈ expansions, ∀ code ∈ e.2, allowed (Char.ofNat code))
    {shifts : List CaseShift} (hshifts : ∀ s ∈ shifts, s.keeps allowed) {c : Char}
    (hc : 0x80 ≤ c.toNat) : ∀ d ∈ mapCase expansions shifts c, allowed d := by
  unfold mapCase
  split
  · next codes hlookup =>
    obtain ⟨before, after, hsplit, -⟩ := List.lookup_eq_some_iff.mp hlookup
    exact List.forall_mem_map.mpr (hexpansions (c.toNat, codes) (by simp [hsplit]))
  · split
    · next s hfind =>
      have hcontains : s.codes.contains c.toNat := by simpa using List.find?_some hfind
      exact List.forall_mem_singleton.mpr (CaseShift.allowed_of_keeps hbeyond
        (hshifts s (List.mem_of_find?_eq_some hfind)) hcontains)
    · exact List.forall_mem_singleton.mpr (hbeyond c hc)

/-! ### Words -/

theorem isWordChar_of_beyond {c : Char} (h : 0x80 ≤ c.toNat) : isWordChar c := by
  simp [isWordChar, h]

theorem isSmallChar_of_beyond {c : Char} (h : 0x80 ≤ c.toNat) : isSmallChar c := by
  have hupper : ¬ c.isUpper := by
    intro hupper
    have halphanum : c.isAlphanum := by simp [Char.isAlphanum, Char.isAlpha, hupper]
    exact absurd (toNat_lt_of_isAlphanum halphanum) (Nat.not_lt.mpr h)
  simp [isSmallChar, isWordChar_of_beyond h, hupper]

theorem isSmallChar_lowerChars {c : Char} (hc : isAlphanumeric c) :
    ∀ d ∈ lowerChars c, isSmallChar d := by
  by_cases hascii : c.toNat < 0x80
  · rw [isAlphanumeric_of_ascii hascii] at hc
    rw [lowerChars_of_ascii hascii]
    refine List.forall_mem_singleton.mpr ?_
    simp [isSmallChar, isWordChar, isAlphanum_toLower, hc]
  · rw [lowerChars, if_neg hascii]
    exact allowed_of_mem_mapCase (fun c => isSmallChar_of_beyond) (by decide +kernel)
      (by decide +kernel) (Nat.le_of_not_lt hascii)

theorem isWordChar_upperChars {c : Char} (hc : isAlphanumeric c) :
    ∀ d ∈ upperChars c, isWordChar d := by
  by_cases hascii : c.toNat < 0x80
  · rw [isAlphanumeric_of_ascii hascii] at hc
    rw [upperChars_of_ascii hascii]
    refine List.forall_mem_singleton.mpr ?_
    simp [isWordChar, isAlphanum_toUpper, hc]
  · rw [upperChars, if_neg hascii]
    exact allowed_of_mem_mapCase (fun c => isWordChar_of_beyond) (by decide +kernel)
      (by decide +kernel) (Nat.le_of_not_lt hascii)

theorem lowerChars_ne_nil (c : Char) : lowerChars c ≠ [] := by
  have hexpansions : ∀ e ∈ lowerExpansions, e.2 ≠ [] := by decide
  unfold lowerChars mapCase
  split
  · exact List.cons_ne_nil _ _
  · split
    · next codes hlookup =>
      obtain ⟨before, after, hsplit, -⟩ := List.lookup_eq_some_iff.mp hlookup
      simpa using hexpansions (c.toNat, codes) (by simp [hsplit])
    · split <;> exact List.cons_ne_nil _ _

theorem isWordChar_of_isSmallChar {c : Char} (h : isSmallChar c) : isWordChar c :=
  (Bool.and_eq_true_iff.mp h).1

theorem isSmallChar_lowerWord {w : List Char} (h : ∀ c ∈ w, isAlphanumeric c) :
    ∀ d ∈ lowerWord w, isSmallChar d := by
  fun_induction lowerWord w with
  | case1 => exact fun d hd => absurd hd List.not_mem_nil
  | case2 => exact List.forall_mem_singleton.mpr (by decide)
  | case3 c cs _ ih =>
    obtain ⟨hc, hcs⟩ := List.forall_mem_cons.mp h
    exact List.forall_mem_append.mpr ⟨isSmallChar_lowerChars hc, ih hcs⟩

theorem lowerWord_ne_nil {w : List Char} (h : w ≠ []) : lowerWord w ≠ [] := by
  fun_induction lowerWord w with
  | case1 => exact absurd rfl h
  | case2 => exact List.cons_ne_nil _ _
  | case3 c cs _ _ => exact List.append_ne_nil_of_left_ne_nil (lowerChars_ne_nil c) _

theorem isWordChar_capitalize {w : List Char} (h : ∀ c ∈ w, isAlphanumeric c) :
    ∀ d ∈ capitalize w, isWordChar d := by
  cases w with
  | nil => exact fun d hd => absurd hd List.not_mem_nil
  | cons c cs =>
    obtain ⟨hc, hcs⟩ := List.forall_mem_cons.mp h
    exact List.forall_mem_append.mpr ⟨isWordChar_upperChars hc,
      fun d hd => isWordChar_of_isSmallChar (isSmallChar_lowerWord hcs d hd)⟩

/-! ### Names -/

theorem isWordChar_pascal (name : String) : ∀ c ∈ (pascal name).toList, isWordChar c := by
  rw [pascal, String.toList_ofList, pascalChars, List.forall_mem_flatMap]
  exact fun w hw => isWordChar_capitalize fun c hc => (mem_words hw hc).2

theorem isWordChar_camel (name : String) : ∀ c ∈ (camel name).toList, isWordChar c := by
  rw [camel, String.toList_ofList, camelChars]
  split
  · exact fun c hc => absurd hc List.not_mem_nil
  · next first rest hwords =>
    have hclass : ∀ w ∈ first :: rest, ∀ c ∈ w, isAlphanumeric c :=
      hwords ▸ fun w hw c hc => (mem_words hw hc).2
    obtain ⟨hfirst, hrest⟩ := List.forall_mem_cons.mp hclass
    exact List.forall_mem_append.mpr
      ⟨fun d hd => isWordChar_of_isSmallChar (isSmallChar_lowerWord hfirst d hd),
        List.forall_mem_flatMap.mpr fun w hw => isWordChar_capitalize (hrest w hw)⟩

theorem isSmallChar_head_camel (name : String) :
    ∀ c ∈ (camel name).toList.head?, isSmallChar c := by
  rw [camel, String.toList_ofList, camelChars]
  split
  · exact fun c hc => absurd hc (Option.not_mem_none c)
  · next first rest hwords =>
    have hmem : first ∈ words name.toList := hwords ▸ List.mem_cons_self
    have hsmall := isSmallChar_lowerWord fun c hc => (mem_words hmem hc).2
    rw [List.head?_append_of_ne_nil _ (lowerWord_ne_nil (ne_nil_of_mem_words hmem))]
    exact fun c hc => hsmall c (List.mem_of_mem_head? hc)

end TelemetryBindings.Text
