import Mathlib.Data.List.Basic
import Mathlib.Tactic.IntervalCases
import Mathlib.Tactic.Linarith
import Mathlib.Tactic.SplitIfs
import TelemetryBindings.Calendar

/-!
# Texts of dates

A date of the years 0000 to 9999 has one text of four, two and two digits, and the strict reader
takes exactly these texts of days that exist. It takes what the reader for settings takes of the
texts that look like a date, whatever characters beyond the ASCII digits may stand for digits there.
-/
namespace TelemetryBindings

/-! ### Numerals -/

namespace Text

theorem digit_lt {c : Char} (h : c.isDigit) : c.toNat - '0'.toNat < 10 := by
  obtain ⟨hzero, hnine⟩ := Char.isDigit_iff_toNat.mp h
  simp only [Char.reduceToNat] at hzero hnine ⊢
  omega

theorem digitValue?_ten (c : Char) :
    digitValue? 10 c = if c.isDigit then some (c.toNat - '0'.toNat) else none := by
  rw [digitValue?, hexValue?]
  split_ifs with hdigit
  · simpa using digit_lt hdigit
  · simp
  · simp
  · rfl

/-- Digits are read as a numeral, and no other characters are. -/
theorem number?_ten (cs : List Char) :
    number? 10 cs = if cs.all Char.isDigit then some (Nat.ofDigitChars 10 cs 0) else none := by
  have hread : ∀ n, cs.foldlM (fun n c => (digitValue? 10 c).map (10 * n + ·)) n =
      if cs.all Char.isDigit then some (Nat.ofDigitChars 10 cs n) else none := by
    induction cs with
    | nil => intro n; simp
    | cons c cs ih =>
      intro n
      rw [List.foldlM_cons, digitValue?_ten]
      by_cases hdigit : c.isDigit
      · simp only [hdigit, if_true, Option.map_some, Option.bind_eq_bind, Option.bind_some,
          List.all_cons, Bool.true_and, Nat.ofDigitChars_cons]
        exact ih _
      · simp [hdigit]
  exact hread 0

theorem ofDigitChars_cons (c : Char) (cs : List Char) : Nat.ofDigitChars 10 (c :: cs) 0 =
    10 ^ cs.length * (c.toNat - '0'.toNat) + Nat.ofDigitChars 10 cs 0 := by
  rw [Nat.ofDigitChars_cons, Nat.ofDigitChars_eq_ofDigitChars_zero, Nat.mul_zero, Nat.zero_add]

theorem ofDigitChars_lt {cs : List Char} (h : ∀ c ∈ cs, c.isDigit) :
    Nat.ofDigitChars 10 cs 0 < 10 ^ cs.length := by
  induction cs with
  | nil => simp
  | cons c cs ih =>
    obtain ⟨hc, hcs⟩ := List.forall_mem_cons.mp h
    have hrest := ih hcs
    have hle : c.toNat - '0'.toNat ≤ 9 := by
      have hlt := digit_lt hc
      omega
    rw [ofDigitChars_cons, List.length_cons, pow_succ]
    nlinarith

/-- Numerals of one length are determined by their numbers. -/
theorem ofDigitChars_inj {cs ds : List Char} (hc : ∀ c ∈ cs, c.isDigit) (hd : ∀ d ∈ ds, d.isDigit)
    (hlength : cs.length = ds.length)
    (h : Nat.ofDigitChars 10 cs 0 = Nat.ofDigitChars 10 ds 0) : cs = ds := by
  induction cs generalizing ds with
  | nil => exact (List.length_eq_zero_iff.mp hlength.symm).symm
  | cons c cs ih =>
    obtain ⟨d, ds, rfl⟩ := List.exists_cons_of_length_eq_add_one hlength.symm
    obtain ⟨hc, hcs⟩ := List.forall_mem_cons.mp hc
    obtain ⟨hd, hds⟩ := List.forall_mem_cons.mp hd
    have hlengths : cs.length = ds.length := Nat.succ.inj hlength
    rw [ofDigitChars_cons, ofDigitChars_cons, ← hlengths] at h
    have hfirst := ofDigitChars_lt hcs
    have hsecond := hlengths ▸ ofDigitChars_lt hds
    -- The first digits are the quotients of the numbers by the weight of the first place.
    have hpos : 0 < 10 ^ cs.length := by positivity
    have hdigits := congrArg (· / 10 ^ cs.length) h
    simp only [Nat.mul_add_div hpos, Nat.div_eq_of_lt hfirst, Nat.div_eq_of_lt hsecond,
      Nat.add_zero] at hdigits
    rw [hdigits] at h
    have hchar : c = d := by
      have hczero := (Char.isDigit_iff_toNat.mp hc).1
      have hdzero := (Char.isDigit_iff_toNat.mp hd).1
      apply Char.toNat_inj.mp
      omega
    rw [hchar, ih hcs hds hlengths (Nat.add_left_cancel h)]

end Text

namespace Date

theorem toList_padded (width n : Nat) : (padded width n).toList =
    List.replicate (width - (Nat.toDigits 10 n).length) '0' ++ Nat.toDigits 10 n := by
  simp [padded]

theorem isDigit_padded (width n : Nat) : ∀ c ∈ (padded width n).toList, c.isDigit := by
  rw [toList_padded]
  refine List.forall_mem_append.mpr ⟨fun c hc => ?_, fun c hc => ?_⟩
  · rw [List.eq_of_mem_replicate hc]
    rfl
  · exact Nat.isDigit_of_mem_toDigits (by decide) (by decide) hc

theorem ofDigitChars_padded (width n : Nat) :
    Nat.ofDigitChars 10 (padded width n).toList 0 = n := by
  rw [toList_padded, Nat.ofDigitChars_append, Nat.ofDigitChars_replicate_zero, Nat.mul_zero,
    Nat.ofDigitChars_ten_toDigits]

theorem length_padded {width n : Nat} (hwidth : 0 < width) (h : n < 10 ^ width) :
    (padded width n).toList.length = width := by
  have hle := (Nat.length_toDigits_le_iff (b := 10) (by decide) hwidth).mpr h
  rw [toList_padded, List.length_append, List.length_replicate]
  omega

/-- A numeral is filled up to what it was. -/
theorem padded_ofDigitChars {width : Nat} (hwidth : 0 < width) {cs : List Char}
    (hlength : cs.length = width) (h : ∀ c ∈ cs, c.isDigit) :
    (padded width (Nat.ofDigitChars 10 cs 0)).toList = cs := by
  subst hlength
  apply Text.ofDigitChars_inj (isDigit_padded _ _) h
  · exact length_padded hwidth (Text.ofDigitChars_lt h)
  · exact ofDigitChars_padded _ _

/-! ### Days -/

def HasLeapDay (year : Nat) : Prop := 4 ∣ year ∧ (100 ∣ year → 400 ∣ year)

/-- A day of the Gregorian calendar, extended to all years from 0 on. -/
structure Gregorian (year month day : Nat) : Prop where
  exists_month : 1 ≤ month ∧ month ≤ 12
  exists_day : 1 ≤ day ∧ day ≤ 31
  short_month : month ∈ [4, 6, 9, 11] → day ≤ 30
  short_february : month = 2 → day ≤ 28 ∨ (day = 29 ∧ HasLeapDay year)

theorem isLeapYear_iff (year : Nat) : isLeapYear year = true ↔ HasLeapDay year := by
  simp only [isLeapYear, HasLeapDay, Bool.and_eq_true, Bool.or_eq_true, beq_iff_eq, bne_iff_ne]
  omega

theorem le_daysInMonth_iff {year month : Nat} (h : 1 ≤ month ∧ month ≤ 12) (day : Nat) :
    day ≤ daysInMonth year month ↔ day ≤ 31 ∧ (month ∈ [4, 6, 9, 11] → day ≤ 30) ∧
      (month = 2 → day ≤ 28 ∨ (day = 29 ∧ HasLeapDay year)) := by
  obtain ⟨hlow, hhigh⟩ := h
  by_cases hleap : HasLeapDay year
  · have hyear := (isLeapYear_iff year).mpr hleap
    interval_cases month <;> simp [daysInMonth, hyear, hleap] <;> omega
  · have hyear := (isLeapYear_iff year).not.mpr hleap
    interval_cases month <;> simp [daysInMonth, hyear, hleap] <;> omega

theorem isDay_iff {year month day : Nat} (h : year ≤ 9999) :
    isDay year month day = true ↔ Gregorian year month day := by
  have hyear : -262143 ≤ (year : Int) ∧ (year : Int) ≤ 262142 := by omega
  simp only [isDay, Bool.and_eq_true, decide_eq_true_eq]
  by_cases hmonth : 1 ≤ month ∧ month ≤ 12
  · rw [le_daysInMonth_iff hmonth]
    constructor
    · rintro ⟨⟨-, hlow⟩, hhigh, hshort, hfebruary⟩
      exact ⟨hmonth, ⟨hlow, hhigh⟩, hshort, hfebruary⟩
    · rintro ⟨-, ⟨hlow, hhigh⟩, hshort, hfebruary⟩
      exact ⟨⟨hyear, hlow⟩, hhigh, hshort, hfebruary⟩
  · have hnone : daysInMonth year month = 0 := by
      rcases Nat.lt_or_ge month 1 with hzero | hone
      · rw [Nat.lt_one_iff.mp hzero]
        rfl
      · obtain ⟨more, rfl⟩ := Nat.exists_eq_add_of_le (show 13 ≤ month by omega)
        rw [Nat.add_comm]
        rfl
    constructor
    · rintro ⟨⟨-, hlow⟩, hhigh⟩
      omega
    · exact fun hday => absurd hday.exists_month hmonth

/-! ### Dates as texts -/

/-- Four characters, two and two, with dashes between them. -/
structure Form (s : String) (y m d : List Char) : Prop where
  toList_eq : s.toList = y ++ '-' :: (m ++ '-' :: d)
  length_year : y.length = 4
  length_month : m.length = 2
  length_day : d.length = 2

/-- The text is of the form of dates, has ASCII digits between its dashes and names a day that
exists. -/
def IsText (s : String) : Prop :=
  ∃ y m d : List Char, Form s y m d ∧ (∀ c ∈ y ++ m ++ d, c.isDigit) ∧
    Gregorian (Nat.ofDigitChars 10 y 0) (Nat.ofDigitChars 10 m 0) (Nat.ofDigitChars 10 d 0)

def ofNumerals? (y m d : List Char) : Option Date :=
  ofParts? (Nat.ofDigitChars 10 y 0) (Nat.ofDigitChars 10 m 0) (Nat.ofDigitChars 10 d 0)

theorem ofNumerals?_eq_some_iff {y m d : List Char} {date : Date} :
    ofNumerals? y m d = some date ↔ date.year = Nat.ofDigitChars 10 y 0 ∧
      date.month = Nat.ofDigitChars 10 m 0 ∧ date.day = Nat.ofDigitChars 10 d 0 := by
  rw [ofNumerals?, ofParts?]
  split_ifs with hday
  · rw [Option.some.injEq]
    constructor
    · rintro rfl
      exact ⟨rfl, rfl, rfl⟩
    · intro hdate
      cases date
      obtain ⟨rfl, rfl, rfl⟩ := hdate
      rfl
  · refine iff_of_false (fun h => nomatch h) fun hdate => ?_
    obtain ⟨hyear, hmonth, hday'⟩ := hdate
    exact hday (hyear ▸ hmonth ▸ hday' ▸ date.exists_day)

section

variable {s : String} {y m d : List Char}

theorem parseStrict?_of_form (h : Form s y m d) : parseStrict? s =
    if (y ++ m ++ d).all Char.isDigit then ofNumerals? y m d else none := by
  obtain ⟨hs, hy, hm, hd⟩ := h
  obtain ⟨y₁, y₂, y₃, y₄, rfl⟩ := List.length_eq_four.mp hy
  obtain ⟨m₁, m₂, rfl⟩ := List.length_eq_two.mp hm
  obtain ⟨d₁, d₂, rfl⟩ := List.length_eq_two.mp hd
  have hchars : s.toList = [y₁, y₂, y₃, y₄, '-', m₁, m₂, '-', d₁, d₂] := hs
  rw [parseStrict?, hchars]
  simp only [number?, Text.number?_ten, List.all_append, Bool.and_eq_true]
  by_cases hydigits : [y₁, y₂, y₃, y₄].all Char.isDigit
  · by_cases hmdigits : [m₁, m₂].all Char.isDigit
    · by_cases hddigits : [d₁, d₂].all Char.isDigit
      · simp only [hydigits, hmdigits, hddigits, if_true, and_self]
        rfl
      · simp [hydigits, hmdigits, hddigits]
    · simp [hydigits, hmdigits]
  · simp [hydigits]

theorem exists_form_of_parseStrict? {date : Date} (h : parseStrict? s = some date) :
    ∃ y m d, Form s y m d := by
  unfold parseStrict? at h
  split at h
  · next y₁ y₂ y₃ y₄ m₁ m₂ d₁ d₂ hs =>
    exact ⟨[y₁, y₂, y₃, y₄], [m₁, m₂], [d₁, d₂], hs, rfl, rfl, rfl⟩
  · cases h

theorem parseStrict?_eq_some_iff {date : Date} : parseStrict? s = some date ↔
    ∃ y m d, Form s y m d ∧ (∀ c ∈ y ++ m ++ d, c.isDigit) ∧ ofNumerals? y m d = some date := by
  constructor
  · intro h
    obtain ⟨y, m, d, hform⟩ := exists_form_of_parseStrict? h
    rw [parseStrict?_of_form hform, Option.ite_none_right_eq_some, List.all_eq_true] at h
    exact ⟨y, m, d, hform, h⟩
  · rintro ⟨y, m, d, hform, hdigits, hdate⟩
    rw [parseStrict?_of_form hform, if_pos (List.all_eq_true.mpr hdigits), hdate]

/-- A year of four digits is one that the calendar covers. -/
theorem Form.year_le (h : Form s y m d) (hdigits : ∀ c ∈ y ++ m ++ d, c.isDigit) :
    Nat.ofDigitChars 10 y 0 ≤ 9999 := by
  simp only [List.forall_mem_append] at hdigits
  have hlt := Text.ofDigitChars_lt hdigits.1.1
  rw [h.length_year] at hlt
  omega

theorem exists_parseStrict?_iff : (∃ date, parseStrict? s = some date) ↔ IsText s := by
  constructor
  · rintro ⟨date, h⟩
    obtain ⟨y, m, d, hform, hdigits, hdate⟩ := parseStrict?_eq_some_iff.mp h
    obtain ⟨hyear, hmonth, hday⟩ := ofNumerals?_eq_some_iff.mp hdate
    have hexists := date.exists_day
    rw [hyear, hmonth, hday, isDay_iff (hform.year_le hdigits)] at hexists
    exact ⟨y, m, d, hform, hdigits, hexists⟩
  · rintro ⟨y, m, d, hform, hdigits, hgregorian⟩
    have hday := (isDay_iff (hform.year_le hdigits)).mpr hgregorian
    exact ⟨⟨_, _, _, hday⟩, parseStrict?_eq_some_iff.mpr
      ⟨y, m, d, hform, hdigits, ofNumerals?_eq_some_iff.mpr ⟨rfl, rfl, rfl⟩⟩⟩

end

def FourDigitYear (date : Date) : Prop := 0 ≤ date.year ∧ date.year ≤ 9999

theorem toList_text {date : Date} (h : date.FourDigitYear) : date.text.toList =
    (padded 4 date.year.toNat).toList ++
      '-' :: ((padded 2 date.month).toList ++ '-' :: (padded 2 date.day).toList) := by
  rw [text, yearText, if_pos ⟨h.1, h.2⟩]
  simp

theorem form_text {date : Date} (h : date.FourDigitYear) : Form date.text
    (padded 4 date.year.toNat).toList (padded 2 date.month).toList (padded 2 date.day).toList := by
  have hyear : (date.year.toNat : Int) = date.year := Int.toNat_of_nonneg h.1
  have hlt : date.year.toNat ≤ 9999 := by
    have hhigh := h.2
    omega
  have hday : Gregorian date.year.toNat date.month date.day := by
    rw [← isDay_iff hlt, hyear]
    exact date.exists_day
  have hmonth := hday.exists_month.2
  have hdays := hday.exists_day.2
  exact ⟨toList_text h, length_padded (by decide) (by omega),
    length_padded (by decide) (by omega), length_padded (by decide) (by omega)⟩

/-- The strict reader and the texts of dates are inverse to each other. -/
theorem parseStrict?_iff_text (s : String) (date : Date) :
    parseStrict? s = some date ↔ date.FourDigitYear ∧ date.text = s := by
  constructor
  · intro h
    obtain ⟨y, m, d, hform, hdigits, hdate⟩ := parseStrict?_eq_some_iff.mp h
    obtain ⟨hyear, hmonth, hday⟩ := ofNumerals?_eq_some_iff.mp hdate
    have hfour : date.FourDigitYear := by
      have hle := hform.year_le hdigits
      rw [FourDigitYear, hyear]
      omega
    simp only [List.forall_mem_append] at hdigits
    obtain ⟨⟨hydigits, hmdigits⟩, hddigits⟩ := hdigits
    refine ⟨hfour, ?_⟩
    rw [← String.toList_inj, toList_text hfour, hyear, hmonth, hday, Int.toNat_natCast,
      padded_ofDigitChars (by decide) hform.length_year hydigits,
      padded_ofDigitChars (by decide) hform.length_month hmdigits,
      padded_ofDigitChars (by decide) hform.length_day hddigits, hform.toList_eq]
  · rintro ⟨hfour, rfl⟩
    refine parseStrict?_eq_some_iff.mpr ⟨_, _, _, form_text hfour, ?_, ?_⟩
    · simp only [List.forall_mem_append]
      exact ⟨⟨isDigit_padded _ _, isDigit_padded _ _⟩, isDigit_padded _ _⟩
    · apply ofNumerals?_eq_some_iff.mpr
      simp only [ofDigitChars_padded, and_self, and_true]
      exact (Int.toNat_of_nonneg hfour.1).symm

/-! ### Texts that look like a date -/

/-- The characters that stand for a digit: the ASCII digits and maybe others, but neither blanks nor
signs. -/
structure DigitClass where
  contains : Char → Bool
  ascii : ∀ c, c.isDigit → contains c
  no_blank : ∀ c, contains c → Text.isBlank c = false
  no_sign : ∀ c, contains c → c ≠ '-' ∧ c ≠ '+'

namespace DigitClass

variable (D : DigitClass)

def looksLikeDate (s : String) : Bool :=
  match s.toList with
  | [y₁, y₂, y₃, y₄, '-', m₁, m₂, '-', d₁, d₂] =>
    ([y₁, y₂, y₃, y₄] ++ [m₁, m₂] ++ [d₁, d₂]).all D.contains
  | _ => false

theorem looksLikeDate_iff (s : String) : D.looksLikeDate s ↔
    ∃ y m d, Form s y m d ∧ ∀ c ∈ y ++ m ++ d, D.contains c := by
  constructor
  · intro h
    unfold looksLikeDate at h
    split at h
    · next y₁ y₂ y₃ y₄ m₁ m₂ d₁ d₂ hs =>
      exact ⟨[y₁, y₂, y₃, y₄], [m₁, m₂], [d₁, d₂], ⟨hs, rfl, rfl, rfl⟩, List.all_eq_true.mp h⟩
    · cases h
  · rintro ⟨y, m, d, ⟨hs, hy, hm, hd⟩, hclass⟩
    obtain ⟨y₁, y₂, y₃, y₄, rfl⟩ := List.length_eq_four.mp hy
    obtain ⟨m₁, m₂, rfl⟩ := List.length_eq_two.mp hm
    obtain ⟨d₁, d₂, rfl⟩ := List.length_eq_two.mp hd
    have hchars : s.toList = [y₁, y₂, y₃, y₄, '-', m₁, m₂, '-', d₁, d₂] := hs
    rw [looksLikeDate, hchars]
    exact List.all_eq_true.mpr hclass

variable {D} {c : Char}

theorem skipBlanks_cons (h : D.contains c) (cs : List Char) : skipBlanks (c :: cs) = c :: cs := by
  simp [skipBlanks, D.no_blank c h]

theorem takeDash?_cons (h : D.contains c) (cs : List Char) : takeDash? (c :: cs) = none := by
  rw [takeDash?, skipBlanks_cons h]
  split
  · next heq => exact absurd (List.cons.inj heq).1 (D.no_sign c h).1
  · rfl

theorem takeDash?_dash {cs : List Char} (hne : cs ≠ []) (h : ∀ c ∈ cs, D.contains c)
    (rest : List Char) : takeDash? ('-' :: (cs ++ rest)) = some (cs ++ rest) := by
  obtain ⟨c, cs, rfl⟩ := List.exists_cons_of_ne_nil hne
  have hc := h c List.mem_cons_self
  have hdash : skipBlanks ('-' :: (c :: cs ++ rest)) = '-' :: c :: (cs ++ rest) := by
    have hblank : Text.isBlank '-' = false := by decide
    simp [skipBlanks, hblank]
  rw [takeDash?, hdash]
  simp only [skipBlanks_cons hc]
  rfl

theorem takeYear?_cons (h : D.contains c) (cs : List Char) : takeYear? (c :: cs) =
    (takeNumber? (some 4) (c :: cs)).map fun r => ((r.1 : Int), r.2) := by
  obtain ⟨hminus, hplus⟩ := D.no_sign c h
  unfold takeYear?
  split
  · next heq => exact absurd (List.cons.inj heq).1 hminus
  · next heq => exact absurd (List.cons.inj heq).1 hplus
  · rfl

end DigitClass

/-- A field of digits is read as its numeral. -/
theorem takeNumber?_digits {cs : List Char} (hne : cs ≠ []) (h : ∀ c ∈ cs, c.isDigit)
    (rest : List Char) :
    takeNumber? (some cs.length) (cs ++ rest) = some (Nat.ofDigitChars 10 cs 0, rest) := by
  have hrun : ((cs ++ rest).takeWhile Char.isDigit).take cs.length = cs := by
    rw [List.takeWhile_append_of_pos h, List.take_left]
  simp only [takeNumber?, hrun]
  rw [if_neg (by simpa using hne), number?, Text.number?_ten, if_pos (List.all_eq_true.mpr h)]
  simp

/-- A field with another character in it is read up to that character at most. -/
theorem exists_of_takeNumber? {cs rest more : List Char} {n : Nat}
    (h : takeNumber? (some cs.length) (cs ++ rest) = some (n, more))
    (hcs : ¬ ∀ c ∈ cs, c.isDigit) : ∃ c ∈ cs, ∃ cs', more = c :: cs' := by
  obtain ⟨digits, c, cs', rfl, hdigits, hc⟩ :
      ∃ digits c cs', cs = digits ++ c :: cs' ∧ (∀ d ∈ digits, d.isDigit) ∧ c.isDigit = false := by
    have hsome : (cs.find? fun c => !c.isDigit).isSome := by simpa using hcs
    obtain ⟨c, hfind⟩ := Option.isSome_iff_exists.mp hsome
    obtain ⟨hc, digits, cs', hsplit, hdigits⟩ := List.find?_eq_some_iff_append.mp hfind
    exact ⟨digits, c, cs', hsplit, by simpa using hdigits, by simpa using hc⟩
  have hrun : (digits ++ c :: cs' ++ rest).takeWhile Char.isDigit = digits := by
    rw [List.append_assoc, List.takeWhile_append_of_pos hdigits]
    simp [hc]
  have htake : digits.take (digits ++ c :: cs').length = digits :=
    List.take_of_length_le (by simp)
  simp only [takeNumber?, hrun, htake] at h
  split_ifs at h
  obtain ⟨k, -, hread⟩ := Option.map_eq_some_iff.mp h
  refine ⟨c, by simp, cs' ++ rest, ?_⟩
  simpa using (Prod.mk.inj hread).2.symm

/-- Where whatever follows a numeral refuses characters of the class, a field of them is either a
numeral or refused. -/
theorem takeNumber?_bind {α : Type} {D : DigitClass} {cs : List Char} (hne : cs ≠ [])
    (hclass : ∀ c ∈ cs, D.contains c) (rest : List Char) {f : Nat × List Char → Option α}
    (hf : ∀ n c cs', D.contains c → f (n, c :: cs') = none) :
    (takeNumber? (some cs.length) (cs ++ rest)).bind f =
      if cs.all Char.isDigit then f (Nat.ofDigitChars 10 cs 0, rest) else none := by
  split_ifs with hdigits
  · rw [takeNumber?_digits hne (List.all_eq_true.mp hdigits)]
    rfl
  · cases hread : takeNumber? (some cs.length) (cs ++ rest) with
    | none => rfl
    | some r =>
      obtain ⟨c, hc, cs', hrest⟩ :=
        exists_of_takeNumber? hread fun h => hdigits (List.all_eq_true.mpr h)
      rw [Option.bind_some, ← Prod.eta r, hrest, hf _ _ _ (hclass c hc)]

/-- The rest of reading a date, behind its year and its month. -/
def readDay? (year : Int) (month : Nat) (cs : List Char) : Option Date :=
  (takeNumber? (some 2) cs).bind fun r =>
    if (skipBlanks r.2).isEmpty then ofParts? year month r.1 else none

/-- The rest of reading a date, behind its year. -/
def readMonth? (year : Int) (cs : List Char) : Option Date :=
  (takeNumber? (some 2) cs).bind fun r => (takeDash? r.2).bind (readDay? year r.1)

theorem parse?_eq (s : String) : parse? s =
    (takeYear? (skipBlanks s.toList)).bind fun r => (takeDash? r.2).bind (readMonth? r.1) := rfl

section

variable {D : DigitClass} {y m d : List Char}

theorem readDay?_of_class (hlength : d.length = 2) (hclass : ∀ c ∈ d, D.contains c) (year : Int)
    (month : Nat) : readDay? year month d =
      if d.all Char.isDigit then ofParts? year month (Nat.ofDigitChars 10 d 0) else none := by
  have hne : d ≠ [] := List.ne_nil_of_length_pos (by omega)
  have h := takeNumber?_bind hne hclass []
    (f := fun r => if (skipBlanks r.2).isEmpty then ofParts? year month r.1 else none)
    fun n c cs' hc => by simp [DigitClass.skipBlanks_cons hc]
  rwa [hlength, List.append_nil] at h

theorem readMonth?_of_class (hlength : m.length = 2) (hclass : ∀ c ∈ m, D.contains c)
    (hdlength : d.length = 2) (hdclass : ∀ c ∈ d, D.contains c) (year : Int) :
    readMonth? year (m ++ '-' :: d) =
      if m.all Char.isDigit then readDay? year (Nat.ofDigitChars 10 m 0) d else none := by
  have hne : m ≠ [] := List.ne_nil_of_length_pos (by omega)
  have hdash := DigitClass.takeDash?_dash (List.ne_nil_of_length_pos (by omega)) hdclass []
  have h := takeNumber?_bind hne hclass ('-' :: d)
    (f := fun r => (takeDash? r.2).bind (readDay? year r.1))
    fun n c cs' hc => by simp [DigitClass.takeDash?_cons hc]
  rw [List.append_nil] at hdash
  rwa [hlength, hdash] at h

theorem parse?_of_form {s : String} (h : Form s y m d) (hclass : ∀ c ∈ y ++ m ++ d, D.contains c) :
    parse? s = if (y ++ m ++ d).all Char.isDigit then ofNumerals? y m d else none := by
  obtain ⟨hs, hy, hm, hd⟩ := h
  simp only [List.forall_mem_append] at hclass
  obtain ⟨⟨hyclass, hmclass⟩, hdclass⟩ := hclass
  have hyear : takeYear? (skipBlanks s.toList) =
      (takeNumber? (some 4) (y ++ '-' :: (m ++ '-' :: d))).map fun r => ((r.1 : Int), r.2) := by
    obtain ⟨c, y, rfl⟩ := List.exists_cons_of_length_eq_add_one hy
    have hc := hyclass c List.mem_cons_self
    rw [hs, List.cons_append, DigitClass.skipBlanks_cons hc, DigitClass.takeYear?_cons hc]
  have hdash :=
    DigitClass.takeDash?_dash (List.ne_nil_of_length_pos (by omega)) hmclass ('-' :: d)
  have hrest := takeNumber?_bind (List.ne_nil_of_length_pos (by omega)) hyclass
    ('-' :: (m ++ '-' :: d))
    (f := fun r => (takeDash? r.2).bind (readMonth? (r.1 : Int)))
    fun n c cs' hc => by simp [DigitClass.takeDash?_cons hc]
  rw [hy] at hrest
  rw [parse?_eq, hyear, Option.bind_map]
  refine hrest.trans ?_
  simp only [hdash, Option.bind_some, readMonth?_of_class hm hmclass hd hdclass,
    readDay?_of_class hd hdclass, List.all_append, Bool.and_eq_true, ofNumerals?]
  split_ifs <;> simp_all

end

/-- The reader for settings takes no digits but the ASCII ones, so of the texts that look like a
date it takes those that the strict reader takes. -/
theorem parseStrict?_eq (D : DigitClass) (s : String) :
    parseStrict? s = if D.looksLikeDate s then parse? s else none := by
  split_ifs with hlooks
  · obtain ⟨y, m, d, hform, hclass⟩ := (D.looksLikeDate_iff s).mp hlooks
    rw [parseStrict?_of_form hform, parse?_of_form hform hclass]
  · rw [Option.eq_none_iff_forall_ne_some]
    intro date h
    obtain ⟨y, m, d, hform, hdigits, -⟩ := parseStrict?_eq_some_iff.mp h
    exact hlooks ((D.looksLikeDate_iff s).mpr
      ⟨y, m, d, hform, fun c hc => D.ascii c (hdigits c hc)⟩)

def DigitClass.arabic : DigitClass where
  contains c := c.isDigit || (0x660 ≤ c.toNat && c.toNat ≤ 0x669)
  ascii c h := by simp [h]
  no_blank c h := by
    rw [Bool.or_eq_true, Char.isDigit_iff_toNat, Bool.and_eq_true, decide_eq_true_eq,
      decide_eq_true_eq] at h
    simp only [Char.reduceToNat] at h
    simp [Text.isBlank, Text.inRanges, Text.blankCodes, ← Char.toNat_inj]
    split_ifs <;> omega
  no_sign c h := by
    constructor <;> rintro rfl <;> exact absurd h (by decide)

example : DigitClass.arabic.looksLikeDate "٢٠٣٠-٠١-٣١" ∧ parseStrict? "٢٠٣٠-٠١-٣١" = none := by
  decide

end Date

end TelemetryBindings
