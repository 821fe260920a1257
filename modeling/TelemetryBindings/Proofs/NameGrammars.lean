import Mathlib.Computability.Language
import Mathlib.Data.Char
import Mathlib.Order.Interval.Set.Basic
import TelemetryBindings.Proofs.Admission

/-!
# The grammars of names

The recognisers of names take exactly the texts of their grammars, whatever characters a text has.
Those of categories and labels read a text in one pass; the grammar is words joined by single dots,
which is to say that all segments between the dots are words. A name has no dots, so that what
stands in front of the last dot of `category.name` is the category.
-/
namespace TelemetryBindings

namespace Identifier

open Computability

/-! ### Patterns -/

def oneOf (chars : Set Char) : Language Char := {[c] | c ∈ chars}

def words (first others : Set Char) : Language Char := oneOf first * (oneOf others)∗

def dotted (words : Language Char) : Language Char := words * (oneOf {'.'} * words)∗

def smallLetters : Set Char := Set.Icc 'a' 'z'

def letters : Set Char := Set.Icc 'A' 'Z' ∪ smallLetters

def digits : Set Char := Set.Icc '0' '9'

/-- The pattern `[A-Za-z_][A-Za-z0-9_]*`. -/
def identifiers : Language Char := words (letters ∪ {'_'}) (letters ∪ digits ∪ {'_'})

/-- The pattern `[A-Za-z_][A-Za-z0-9_-]*`. -/
def pingNames : Language Char := words (letters ∪ {'_'}) (letters ∪ digits ∪ {'_', '-'})

/-- The pattern `[a-z_][a-z0-9_-]*`. -/
def labelWords : Language Char :=
  words (smallLetters ∪ {'_'}) (smallLetters ∪ digits ∪ {'_', '-'})

section

variable {first others : Set Char} {cs : List Char}

theorem mem_kstar_oneOf : cs ∈ (oneOf others)∗ ↔ ∀ c ∈ cs, c ∈ others := by
  rw [Language.mem_kstar]
  constructor
  · rintro ⟨parts, rfl, hparts⟩ c hc
    obtain ⟨part, hpart, hc⟩ := List.mem_flatten.mp hc
    obtain ⟨d, hd, rfl⟩ := hparts part hpart
    rwa [List.mem_singleton.mp hc]
  · intro h
    refine ⟨cs.map fun c => [c], ?_, List.forall_mem_map.mpr fun c hc => ⟨c, h c hc, rfl⟩⟩
    rw [← List.flatMap_def, List.flatMap_singleton']

theorem mem_words : cs ∈ words first others ↔
    ∃ c rest, cs = c :: rest ∧ c ∈ first ∧ ∀ d ∈ rest, d ∈ others := by
  rw [words, Language.mem_mul]
  constructor
  · rintro ⟨_, ⟨c, hc, rfl⟩, rest, hrest, rfl⟩
    exact ⟨c, rest, rfl, hc, mem_kstar_oneOf.mp hrest⟩
  · rintro ⟨c, rest, rfl, hc, hrest⟩
    exact ⟨[c], ⟨c, hc, rfl⟩, rest, mem_kstar_oneOf.mpr hrest, rfl⟩

end

theorem intercalate_cons (sep : Char) (part : List Char) (parts : List (List Char)) :
    [sep].intercalate (part :: parts) = part ++ (parts.map (sep :: ·)).flatten := by
  induction parts generalizing part with
  | nil => simp [List.intercalate]
  | cons next parts ih =>
    have hnext := ih next
    simp only [List.intercalate, List.intersperse_cons_cons, List.flatten_cons] at hnext ⊢
    rw [hnext]
    simp

section

variable {words : Language Char} (hwords : ∀ word ∈ words, '.' ∉ word)

include hwords

theorem segments_of_dotted {word : List Char} (hword : word ∈ words) {parts : List (List Char)}
    (hparts : ∀ part ∈ parts, part ∈ oneOf {'.'} * words) :
    ∀ segment ∈ (word ++ parts.flatten).splitOn '.', segment ∈ words := by
  induction parts generalizing word with
  | nil =>
    rw [List.flatten_nil, List.append_nil, List.splitOn_eq_singleton (hwords word hword)]
    exact List.forall_mem_singleton.mpr hword
  | cons part parts ih =>
    obtain ⟨hpart, hrest⟩ := List.forall_mem_cons.mp hparts
    obtain ⟨_, ⟨c, hdot, rfl⟩, next, hnext, rfl⟩ := Language.mem_mul.mp hpart
    rw [Set.mem_singleton_iff.mp hdot, List.flatten_cons, List.singleton_append, List.cons_append,
      List.splitOn_append_cons_self, List.splitOn_eq_singleton (hwords word hword),
      List.singleton_append, List.forall_mem_cons]
    exact ⟨hword, ih hnext hrest⟩

/-- In a pattern of words without dots, the segments of a text are its words. -/
theorem mem_dotted_iff {cs : List Char} :
    cs ∈ dotted words ↔ ∀ segment ∈ cs.splitOn '.', segment ∈ words := by
  rw [dotted, Language.mem_mul]
  constructor
  · rintro ⟨word, hword, more, hmore, rfl⟩
    obtain ⟨parts, rfl, hparts⟩ := Language.mem_kstar.mp hmore
    exact segments_of_dotted hwords hword hparts
  · intro h
    obtain ⟨word, parts, hsplit⟩ := List.exists_cons_of_ne_nil (List.splitOn_ne_nil '.' cs)
    rw [hsplit, List.forall_mem_cons] at h
    refine ⟨word, h.1, (parts.map ('.' :: ·)).flatten, ?_, ?_⟩
    · refine Language.join_mem_kstar (List.forall_mem_map.mpr fun part hpart => ?_)
      exact Language.mem_mul.mpr ⟨['.'], ⟨'.', rfl, rfl⟩, part, h.2 part hpart, rfl⟩
    · rw [← intercalate_cons, ← hsplit, List.intercalate_splitOn]

end

/-! ### Recognisers -/

namespace Grammar

variable {g : Grammar} {first others : Set Char}

structure Takes (g : Grammar) (first others : Set Char) : Prop where
  begins : ∀ c, g.begins c ↔ c ∈ first
  continues : ∀ c, g.continues c ↔ c ∈ others

theorem Takes.accepts_iff (h : g.Takes first others) {cs : List Char} :
    g.accepts cs ↔ cs ∈ words first others := by
  rw [mem_words]
  cases cs with
  | nil => simp [accepts]
  | cons c cs => simp [accepts, h.begins, h.continues]

/-- A text is accepted at the beginning of a word exactly if all of its segments are words, and
inside a word exactly if the first segment continues it and the others are words. -/
theorem acceptsDotted_segments (hdot : g.begins '.' = false) (cs : List Char) :
    ∃ segment rest, cs.splitOn '.' = segment :: rest ∧
      (g.acceptsDotted true cs ↔ g.accepts segment ∧ ∀ s ∈ rest, g.accepts s) ∧
      (g.acceptsDotted false cs ↔ segment.all g.continues ∧ ∀ s ∈ rest, g.accepts s) := by
  induction cs with
  | nil => exact ⟨[], [], rfl, by simp [acceptsDotted, accepts], by simp [acceptsDotted]⟩
  | cons c cs ih =>
    obtain ⟨segment, rest, hsplit, hfresh, hinside⟩ := ih
    rw [List.splitOn_cons_eq_if_modifyHead, hsplit]
    by_cases hc : c = '.'
    · subst hc
      refine ⟨[], segment :: rest, rfl, ?_, ?_⟩
      · simp [acceptsDotted, accepts, hdot]
      · simp [acceptsDotted, hfresh]
    · refine ⟨c :: segment, rest, by simp [hc], ?_, ?_⟩
      · simp [acceptsDotted, accepts, hinside, and_assoc]
      · simp [acceptsDotted, hc, hinside, and_assoc]

theorem acceptsDotted_iff (hdot : g.begins '.' = false) {cs : List Char} :
    g.acceptsDotted true cs ↔ ∀ segment ∈ cs.splitOn '.', g.accepts segment := by
  obtain ⟨segment, rest, hsplit, hfresh, -⟩ := acceptsDotted_segments hdot cs
  rw [hfresh, hsplit, List.forall_mem_cons]

theorem isLower_iff {c : Char} : c.isLower ↔ c ∈ smallLetters := by
  have hlower : c.isLower = (c.val ≥ 'a'.val && c.val ≤ 'z'.val) := rfl
  simp [hlower, smallLetters, Char.le_def]

theorem isAlpha_iff {c : Char} : c.isAlpha ↔ c ∈ letters := by
  have hupper : c.isUpper = decide (c.val ≥ 'A'.val ∧ c.val ≤ 'Z'.val) := rfl
  have halpha : c.isAlpha = (c.isUpper || c.isLower) := rfl
  simp [halpha, hupper, letters, isLower_iff, Char.le_def]

theorem isDigit_iff {c : Char} : c.isDigit ↔ c ∈ digits := by
  have hdigit : c.isDigit = (c.val ≥ '0'.val && c.val ≤ '9'.val) := rfl
  simp [hdigit, digits, Char.le_def]

theorem takes_code : code.Takes (letters ∪ {'_'}) (letters ∪ digits ∪ {'_'}) := by
  constructor <;> intro c <;>
    simp only [code, Char.isAlphanum, Bool.or_eq_true, beq_iff_eq, isAlpha_iff, isDigit_iff,
      Set.mem_union, Set.mem_singleton_iff]

theorem takes_ping : ping.Takes (letters ∪ {'_'}) (letters ∪ digits ∪ {'_', '-'}) := by
  refine ⟨takes_code.begins, fun c => ?_⟩
  simp only [ping, Bool.or_eq_true, beq_iff_eq, takes_code.continues, Set.mem_union,
    Set.mem_insert_iff, Set.mem_singleton_iff, or_assoc]

theorem takes_label : label.Takes (smallLetters ∪ {'_'}) (smallLetters ∪ digits ∪ {'_', '-'}) := by
  constructor <;> intro c <;>
    simp only [label, Bool.or_eq_true, beq_iff_eq, isLower_iff, isDigit_iff, Set.mem_union,
      Set.mem_insert_iff, Set.mem_singleton_iff, or_assoc]

end Grammar

/-- The recogniser takes the texts of at most so many bytes that match the pattern of words joined
by single dots, which is to say that every segment is a word. -/
structure RecognisesDotted (recognises : String → Bool) (maxLength : Nat)
    (words : Language Char) : Prop where
  pattern : ∀ v, recognises v ↔ v.utf8ByteSize ≤ maxLength ∧ v.toList ∈ dotted words
  segments : ∀ v, recognises v ↔
    v.utf8ByteSize ≤ maxLength ∧ ∀ segment ∈ v.toList.splitOn '.', segment ∈ words

namespace Grammar.Takes

variable {g : Grammar} {first others : Set Char} (h : g.Takes first others)
  (hbegins : g.begins '.' = false) (hcontinues : g.continues '.' = false)

include h hbegins hcontinues

theorem dot_notMem {word : List Char} (hword : word ∈ words first others) : '.' ∉ word := by
  obtain ⟨c, rest, rfl, hc, hrest⟩ := mem_words.mp hword
  refine List.not_mem_cons_of_ne_of_not_mem ?_ fun hmem => ?_
  · rintro rfl
    exact absurd ((h.begins '.').mpr hc) (by simp [hbegins])
  · exact absurd ((h.continues '.').mpr (hrest '.' hmem)) (by simp [hcontinues])

theorem recognisesDotted (maxLength : Nat) :
    RecognisesDotted (fun v => v.utf8ByteSize ≤ maxLength && g.acceptsDotted true v.toList)
      maxLength (words first others) := by
  have hsegments : ∀ v : String, g.acceptsDotted true v.toList ↔
      ∀ segment ∈ v.toList.splitOn '.', segment ∈ words first others := by
    intro v
    rw [acceptsDotted_iff hbegins]
    exact forall₂_congr fun _ _ => h.accepts_iff
  constructor <;> intro v
  · rw [Bool.and_eq_true, decide_eq_true_iff, hsegments,
      mem_dotted_iff fun _ => h.dot_notMem hbegins hcontinues]
  · rw [Bool.and_eq_true, decide_eq_true_iff, hsegments]

end Grammar.Takes

theorem isIdentifier_iff {v : String} {maxLength : Nat} :
    isIdentifier v maxLength ↔ v.utf8ByteSize ≤ maxLength ∧ v.toList ∈ identifiers := by
  rw [isIdentifier, Bool.and_eq_true, decide_eq_true_iff, Grammar.takes_code.accepts_iff]
  rfl

theorem isPingName_iff {v : String} :
    isPingName v ↔ v.utf8ByteSize ≤ 30 ∧ v.toList ∈ pingNames := by
  rw [isPingName, Bool.and_eq_true, decide_eq_true_iff, Grammar.takes_ping.accepts_iff]
  rfl

theorem recognisesDotted_isCategory : RecognisesDotted isCategory 40 identifiers :=
  Grammar.takes_code.recognisesDotted (by decide) (by decide) 40

theorem recognisesDotted_isLabel : RecognisesDotted isLabel 71 labelWords :=
  Grammar.takes_label.recognisesDotted (by decide) (by decide) 71

/-! ### Names without dots -/

section

variable {v : String} {maxLength : Nat}

theorem dot_notMem_of_isIdentifier (h : isIdentifier v maxLength) : '.' ∉ v.toList :=
  Grammar.takes_code.dot_notMem (by decide) (by decide) (isIdentifier_iff.mp h).2

theorem isPingName_of_isIdentifier (h : isIdentifier v 30) : isPingName v := by
  obtain ⟨hlength, hname⟩ := isIdentifier_iff.mp h
  obtain ⟨c, rest, hv, hc, hrest⟩ := mem_words.mp hname
  refine isPingName_iff.mpr ⟨hlength, mem_words.mpr ⟨c, rest, hv, hc, fun d hd => ?_⟩⟩
  exact (hrest d hd).imp_right Or.inl

theorem isCategory_of_isIdentifier (h : isIdentifier v 40) : isCategory v := by
  obtain ⟨hlength, hname⟩ := isIdentifier_iff.mp h
  refine (recognisesDotted_isCategory.segments v).mpr ⟨hlength, ?_⟩
  rw [List.splitOn_eq_singleton (dot_notMem_of_isIdentifier h)]
  exact List.forall_mem_singleton.mpr hname

end

/-- What stands behind the last dot ends the text. -/
theorem dot_inj {category category' name name' : String} (hname : '.' ∉ name.toList)
    (hname' : '.' ∉ name'.toList) (h : category ++ "." ++ name = category' ++ "." ++ name') :
    category = category' ∧ name = name' := by
  have hchars : category.toList ++ '.' :: name.toList =
      category'.toList ++ '.' :: name'.toList := by
    simpa using congrArg String.toList h
  simp only [← String.toList_inj]
  -- A dot that the texts do not share would stand in one of the names.
  rcases List.append_eq_append_iff.mp hchars with ⟨more, hmore, hrest⟩ | ⟨more, hmore, hrest⟩
  · cases more with
    | nil => exact ⟨by simpa using hmore.symm, by simpa using hrest⟩
    | cons c more =>
      rw [List.cons_append, List.cons.injEq] at hrest
      exact absurd (hrest.2 ▸ List.mem_append_right more List.mem_cons_self) hname
  · cases more with
    | nil => exact ⟨by simpa using hmore, by simpa using hrest.symm⟩
    | cons c more =>
      rw [List.cons_append, List.cons.injEq] at hrest
      exact absurd (hrest.2 ▸ List.mem_append_right more List.mem_cons_self) hname'

end Identifier

/-! ### Metrics -/

open Identifier

def Metric.Validated (m : Metric) : Prop :=
  ∃ p documents model, buildModel p documents = .ok model ∧ m ∈ model.metrics

namespace Metric

variable {m m' : Metric}

theorem Validated.isIdentifier (h : m.Validated) : isIdentifier m.name 30 := by
  obtain ⟨p, documents, model, hbuild, hm⟩ := h
  obtain ⟨ha, rfl⟩ := buildModel_eq_ok_iff.mp hbuild
  have hadmitted := admitted_instrumentsOf (acceptable_findingsOf_iff.mp ha).1 (.metric m)
    (List.mem_append_left _ (List.mem_map_of_mem hm))
  exact (Metric.Admitted.name hadmitted).grammar

/-- Metrics of the internal category are the only ones without a dot in their identifiers. -/
theorem key_eq_of_identifier (hm : '.' ∉ m.name.toList) (hm' : '.' ∉ m'.name.toList)
    (h : m.identifier = m'.identifier) : m.key = m'.key := by
  have hdot : ∀ category name : String, '.' ∈ (category ++ "." ++ name).toList := by simp
  rw [identifier, identifier] at h
  rw [key, key, Prod.mk.injEq]
  split_ifs at h with hempty hempty' hempty'
  · exact ⟨hempty.trans hempty'.symm, h⟩
  · exact absurd (h ▸ hdot _ _) hm
  · exact absurd (h.symm ▸ hdot _ _) hm'
  · exact dot_inj hm hm' h

theorem Validated.key_eq (hm : m.Validated) (hm' : m'.Validated)
    (h : m.identifier = m'.identifier) : m.key = m'.key :=
  key_eq_of_identifier (dot_notMem_of_isIdentifier hm.isIdentifier)
    (dot_notMem_of_isIdentifier hm'.isIdentifier) h

theorem injOn_identifier {p : Policy} {documents : List SourceDocument} {model : Model}
    (h : buildModel p documents = .ok model) : Set.InjOn identifier {m | m ∈ model.metrics} := by
  intro m hm m' hm' heq
  have hkey := Validated.key_eq ⟨p, documents, model, h, hm⟩ ⟨p, documents, model, h, hm'⟩ heq
  obtain ⟨ha, rfl⟩ := buildModel_eq_ok_iff.mp h
  exact List.inj_on_of_nodup_map ha.metrics hm hm' hkey

end Metric

/-- The recognisers take exactly the texts of their grammars that are short enough. A metric name
that is short enough for a ping is a ping name and, as one segment, a category. Behind a category,
whatever it is, a name can be told from it, so that the identifier of a validated metric gives its
category and its name, and two metrics of one model never share it. -/
theorem recognisers_exact :
    (∀ v maxLength, isIdentifier v maxLength ↔
      v.utf8ByteSize ≤ maxLength ∧ v.toList ∈ identifiers) ∧
    (∀ v, isPingName v ↔ v.utf8ByteSize ≤ 30 ∧ v.toList ∈ pingNames) ∧
    RecognisesDotted isCategory 40 identifiers ∧
    RecognisesDotted isLabel 71 labelWords ∧
    (∀ v, isIdentifier v 30 → isPingName v ∧ isCategory v ∧ '.' ∉ v.toList) ∧
    (∀ category category' name name', isIdentifier name 30 → isIdentifier name' 30 →
      category ++ "." ++ name = category' ++ "." ++ name' →
        category = category' ∧ name = name') ∧
    (∀ m m' : Metric, m.Validated → m'.Validated → m.identifier = m'.identifier →
      m.category = m'.category ∧ m.name = m'.name) ∧
    ∀ p documents model, buildModel p documents = .ok model →
      Set.InjOn Metric.identifier {m | m ∈ model.metrics} := by
  refine ⟨fun v maxLength => isIdentifier_iff, fun v => isPingName_iff,
    recognisesDotted_isCategory, recognisesDotted_isLabel, ?_, ?_, ?_, ?_⟩
  · intro v h
    have hlength : isIdentifier v 40 := by
      rw [isIdentifier_iff] at h ⊢
      exact ⟨h.1.trans (by decide), h.2⟩
    exact ⟨isPingName_of_isIdentifier h, isCategory_of_isIdentifier hlength,
      dot_notMem_of_isIdentifier h⟩
  · intro category category' name name' hname hname' h
    exact dot_inj (dot_notMem_of_isIdentifier hname) (dot_notMem_of_isIdentifier hname') h
  · intro m m' hm hm' h
    exact Prod.mk.injEq .. |>.mp (hm.key_eq hm' h)
  · exact fun p documents model h => Metric.injOn_identifier h

/-- Metrics whose categories and names have the same words, divided at different dots, and one of
the internal category. -/
def dividedDocuments : List SourceDocument :=
  [.ofEntries "m.yaml" .metrics [
    ("a.b", .mapping [("c", sampleCounter "First.")]),
    ("a", .mapping [("b", sampleCounter "Second."), ("c", sampleCounter "Third.")]),
    ("glean.internal.metrics", .mapping [("c", sampleCounter "Fourth.")])]]

theorem recognisers_exact_divided :
    isCategory "a.b" ∧ ¬isCategory "a..b" ∧ ¬isLabel "a.b\n" ∧ isPingName "c" ∧ isCategory "c" ∧
      ∃ model, buildModel ⟨{ allowReserved := true }, none⟩ dividedDocuments = .ok model ∧
        model.metrics.map Metric.identifier = ["a.b.c", "a.b", "a.c", "c"] ∧
        Set.InjOn Metric.identifier {m | m ∈ model.metrics} := by
  obtain ⟨-, -, -, -, hname, -, -, hmodel⟩ := recognisers_exact
  obtain ⟨hping, hsegment, -⟩ := hname "c" (by decide)
  have hidentifiers : (buildModel ⟨{ allowReserved := true }, none⟩ dividedDocuments).toOption.map
      (fun model => model.metrics.map Metric.identifier) = some ["a.b.c", "a.b", "a.c", "c"] := by
    set_option maxRecDepth 4000 in decide
  refine ⟨by decide, by decide, by decide, hping, hsegment, ?_⟩
  cases h : buildModel ⟨{ allowReserved := true }, none⟩ dividedDocuments with
  | error errors => simp [h, Except.toOption] at hidentifiers
  | ok model =>
    exact ⟨model, rfl, by simpa [h, Except.toOption] using hidentifiers, hmodel _ _ _ h⟩

end TelemetryBindings
