import TelemetryBindings.Proofs.LineBreaks
import TelemetryBindings.Proofs.StringLiterals

/-!
# Enums are read back

The enum that stands before a declaration has one constant a line. A reader that goes from line to
line finds its name and its constants in the order in which they were written, and in Swift the
raw value of each.
-/
namespace TelemetryBindings

open Text

/-! ### Lines between fixed texts -/

def Text.between? (beginning ending line : String) : Option String := do
  let rest ← Json.expect? beginning.toList line.toList
  let inside ← Json.expect? ending.toList.reverse rest.reverse
  return String.ofList inside.reverse

theorem Text.between?_append (beginning inside ending : String) :
    between? beginning ending (beginning ++ inside ++ ending) = some inside := by
  have hbeginning := Json.expect?_append beginning.toList (inside.toList ++ ending.toList)
  have hending := Json.expect?_append ending.toList.reverse inside.toList.reverse
  simp [between?, List.append_assoc, hbeginning, hending]

/-! ### Names -/

theorem Instrument.isWordChar_enumSuffix (i : Instrument) :
    ∀ c ∈ i.enumSuffix.toList, isWordChar c := by
  rw [← List.all_eq_true]
  cases i <;> rw [enumSuffix] <;> decide

theorem Kotlin.isWordChar_enumName (i : Instrument) :
    ∀ c ∈ (enumName i).toList, isWordChar c := by
  rw [enumName, String.toList_append, List.forall_mem_append]
  exact ⟨isWordChar_camel i.name, i.isWordChar_enumSuffix⟩

theorem Swift.isWordChar_enumName (i : Instrument) :
    ∀ c ∈ (enumName i).toList, isWordChar c := by
  rw [enumName, String.toList_append, List.forall_mem_append]
  exact ⟨isWordChar_pascal i.name, i.isWordChar_enumSuffix⟩

/-! ### Kotlin -/

namespace Kotlin

/-- The constants of an enum, from its second line on: a comma stands after all but the last. -/
def readConstants? : List String → Option (List String)
  | [last, "\x7d"] => do
    let constant ← between? "    " "" last
    return [constant]
  | line :: rest => do
    let constant ← between? "    " "," line
    let constants ← readConstants? rest
    return constant :: constants
  | [] => none

def readEnum? (block : String) : Option (String × List String) :=
  match lines block with
  | [] => none
  | heading :: rest => do
    let name ← between? "enum class " " \x7b" heading
    let constants ← readConstants? rest
    return (name, constants)

theorem readConstants?_last (constant : String) :
    readConstants? ["    " ++ constant, "\x7d"] = some [constant] := by
  have h := between?_append "    " constant ""
  rw [String.append_empty] at h
  rw [readConstants?, h]
  rfl

theorem readConstants?_cons (constant : String) {rest : List String} (h : rest ≠ ["\x7d"]) :
    readConstants? (("    " ++ constant ++ ",") :: rest) =
      (readConstants? rest).map (constant :: ·) := by
  rw [readConstants?.eq_2 _ _ h, between?_append]
  cases readConstants? rest <;> rfl

theorem readConstants?_joinWith (constant : String) {constants : List String}
    (h : ∀ c ∈ constant :: constants, OneLine c) :
    readConstants? (lines (joinWith ",\n" ((constant :: constants).map (indent ++ ·)) ++
      "\n\x7d")) = some (constant :: constants) := by
  have hindented : ∀ c, OneLine c → OneLine ("    " ++ c) := fun c hc =>
    oneLine_append.mpr ⟨by decide, hc⟩
  induction constants generalizing constant with
  | nil =>
    have htext : joinWith ",\n" ([constant].map (indent ++ ·)) ++ "\n\x7d" =
        "    " ++ constant ++ "\n" ++ "\x7d" := by
      simp [← String.toList_inj, joinWith, indent]
    rw [htext, lines_oneLine_append (hindented constant (h constant List.mem_cons_self))]
    exact readConstants?_last constant
  | cons next constants ih =>
    obtain ⟨hconstant, hrest⟩ := List.forall_mem_cons.mp h
    have hread := ih next hrest
    have hline : OneLine ("    " ++ constant ++ ",") :=
      oneLine_append.mpr ⟨hindented constant hconstant, by decide⟩
    have htext : joinWith ",\n" ((constant :: next :: constants).map (indent ++ ·)) ++ "\n\x7d" =
        "    " ++ constant ++ "," ++ "\n" ++
          (joinWith ",\n" ((next :: constants).map (indent ++ ·)) ++ "\n\x7d") := by
      simp [← String.toList_inj, joinWith, indent]
    have hmore : lines (joinWith ",\n" ((next :: constants).map (indent ++ ·)) ++ "\n\x7d") ≠
        ["\x7d"] := by
      intro hbrace
      rw [hbrace] at hread
      cases hread
    rw [htext, lines_oneLine_append hline, readConstants?_cons constant hmore, hread]
    rfl

/-- Constants of one line each are read back. -/
theorem readEnum?_enumClass {name : String} (hname : OneLine name) {constants : List String}
    (hne : constants ≠ []) (h : ∀ c ∈ constants, OneLine c) :
    readEnum? (enumClass name constants) = some (name, constants) := by
  obtain ⟨constant, constants, rfl⟩ := List.exists_cons_of_ne_nil hne
  have hheading : OneLine ("enum class " ++ name ++ " \x7b") :=
    oneLine_append.mpr ⟨oneLine_append.mpr ⟨by decide, hname⟩, by decide⟩
  have htext : enumClass name (constant :: constants) = "enum class " ++ name ++ " \x7b" ++ "\n" ++
      (joinWith ",\n" ((constant :: constants).map (indent ++ ·)) ++ "\n\x7d") := by
    simp [← String.toList_inj, enumClass]
  rw [readEnum?, htext, lines_oneLine_append hheading]
  simp only [between?_append, readConstants?_joinWith constant h]
  rfl

end Kotlin

/-! ### Swift -/

namespace Swift

def readCase? (line : String) : Option (String × Nat) := do
  let rest ← Json.expect? "    case ".toList line.toList
  let digits ← Json.expect? " = ".toList (rest.dropWhile (· ≠ ' '))
  let position ← (String.ofList digits).toNat?
  return (String.ofList (rest.takeWhile (· ≠ ' ')), position)

def readCases : List String → List (String × Nat)
  | [] => []
  | line :: rest =>
    match readCase? line with
    | some c => c :: readCases rest
    | none => []

def readEnum? (block : String) : Option (String × List (String × Nat)) :=
  match lines block with
  | [] => none
  | heading :: rest => do
    let heading ← Json.expect? "enum ".toList heading.toList
    return (String.ofList (heading.takeWhile (· ≠ ':')), readCases rest)

theorem takeWhile_ne_append {name : List Char} {c : Char} (h : ∀ d ∈ name, d ≠ c)
    (rest : List Char) : (name ++ c :: rest).takeWhile (· ≠ c) = name := by
  rw [List.takeWhile_append_of_pos (by simpa using h)]
  simp

theorem dropWhile_ne_append {name : List Char} {c : Char} (h : ∀ d ∈ name, d ≠ c)
    (rest : List Char) : (name ++ c :: rest).dropWhile (· ≠ c) = c :: rest := by
  rw [List.dropWhile_append_of_pos (by simpa using h)]
  simp

theorem readCase?_caseLine (position : Nat) (key : String) :
    readCase? (caseLine position key) = some (camel key, position) := by
  have hname : ∀ c ∈ (camel key).toList, c ≠ ' ' := by
    rintro _ hc rfl
    exact absurd (isWordChar_camel key _ hc) (by decide)
  have hdigits : (toString position).toNat? = some position := Nat.toNat?_repr position
  have hline : (caseLine position key).toList = "    case ".toList ++
      ((camel key).toList ++ ' ' :: ("= ".toList ++ (toString position).toList)) := by
    simp [caseLine, indent]
  have hequals : ' ' :: ("= ".toList ++ (toString position).toList) =
      " = ".toList ++ (toString position).toList := rfl
  rw [readCase?, hline, Json.expect?_append, Option.bind_eq_bind, Option.bind_some,
    takeWhile_ne_append hname, dropWhile_ne_append hname, hequals, Json.expect?_append,
    Option.bind_eq_bind, Option.bind_some, String.ofList_toList, String.ofList_toList, hdigits]
  rfl

theorem readCases_blank (rest : List String) : readCases ("" :: rest) = [] := by
  have hblank : readCase? "" = none := by decide
  rw [readCases, hblank]

theorem readCases_append (keys : List String) (start : Nat) {rest : List String}
    (h : readCases rest = []) :
    readCases (keys.mapIdx (fun n key => caseLine (start + n) key) ++ rest) =
      keys.mapIdx fun n key => (camel key, start + n) := by
  induction keys generalizing start with
  | nil => exact h
  | cons key keys ih =>
    have hrest := ih (start + 1)
    simp only [Nat.add_assoc, Nat.add_comm 1] at hrest
    simp [List.mapIdx_cons, readCases, readCase?_caseLine, hrest]

theorem oneLine_caseLine (position : Nat) (key : String) : OneLine (caseLine position key) := by
  have hposition : OneLine (toString position) := by
    refine oneLine_of_isWordChar fun c hc => ?_
    have hdigit : c.isDigit := Nat.isDigit_of_mem_toDigits (b := 10) (by decide) (by decide)
      (show c ∈ Nat.toDigits 10 position by simpa [toString, Nat.repr] using hc)
    simp [isWordChar, Char.isAlphanum, hdigit]
  rw [caseLine]
  simp only [oneLine_append]
  exact ⟨⟨⟨by decide, oneLine_camel key⟩, by decide⟩, hposition⟩

/-- Whatever the keys are, their enum is read back. -/
theorem readEnum?_indexedEnum {name : String} (hname : ∀ c ∈ name.toList, isWordChar c)
    {rawType conformance : String} (hraw : OneLine rawType) (hconformance : OneLine conformance)
    (keys : List String) :
    readEnum? (indexedEnum name rawType conformance keys) =
      some (name, keys.mapIdx fun n key => (camel key, n)) := by
  obtain ⟨heading, hheading⟩ : ∃ heading,
      heading = ": " ++ rawType ++ ", " ++ conformance ++ " \x7b" := ⟨_, rfl⟩
  have hline : OneLine ("enum " ++ name ++ heading) := by
    simp only [hheading, oneLine_append]
    exact ⟨⟨by decide, oneLine_of_isWordChar hname⟩,
      ⟨⟨⟨by decide, hraw⟩, by decide⟩, hconformance⟩, by decide⟩
  have hcases : ∀ line ∈ keys.mapIdx caseLine, OneLine line := by
    intro line hline
    obtain ⟨position, _, rfl⟩ := List.mem_mapIdx.mp hline
    exact oneLine_caseLine position _
  -- The cases end at an empty line.
  obtain ⟨method, htext⟩ : ∃ method, indexedEnum name rawType conformance keys =
      "enum " ++ name ++ heading ++ "\n" ++
        (unlines (keys.mapIdx caseLine) ++ ("" ++ "\n" ++ method)) := by
    have hfeed : (" \x7b\n" : String) = " \x7b" ++ "\n" := rfl
    unfold indexedEnum
    simp only [hheading, hfeed, String.append_assoc, String.empty_append]
    exact ⟨_, rfl⟩
  have hread : readCases (keys.mapIdx caseLine ++ "" :: lines method) =
      keys.mapIdx fun n key => (camel key, n) := by
    simpa using readCases_append keys 0 (readCases_blank (lines method))
  have hcolon : ∀ c ∈ name.toList, c ≠ ':' := by
    rintro _ hc rfl
    exact absurd (hname _ hc) (by decide)
  have hafter : heading.toList =
      ':' :: (" " ++ rawType ++ ", " ++ conformance ++ " \x7b").toList := by
    simp [hheading]
  rw [readEnum?, htext, lines_oneLine_append hline, lines_unlines_append hcases,
    lines_oneLine_append (by decide)]
  simp only [hread, String.toList_append, List.append_assoc, Json.expect?_append, hafter]
  rw [Option.bind_eq_bind, Option.bind_some, takeWhile_ne_append hcolon]
  simp

end Swift

end TelemetryBindings
