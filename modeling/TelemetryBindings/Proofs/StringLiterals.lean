import TelemetryBindings.Document.Json
import TelemetryBindings.Proofs.Occurrence
import TelemetryBindings.Target.Basic

/-!
# Strings of generated code are read back

A string in generated code is read by the rules of its language: those of JSON, or a backslash
before some characters and all others as they stand, except that no line ends inside a string and
that what begins an interpolation cannot stand for itself. Under these rules a string that was
written for a text is read as that text and ends where it was ended, whatever follows it. So lists
of strings are read as the lists that were written.
-/
namespace TelemetryBindings

namespace Text

/-! ### Reading strings -/

structure StringSyntax where
  /-- What a character after a backslash stands for. -/
  escaped? : Char → Option Char
  /-- The characters that do not stand for themselves. -/
  excluded : List Char

namespace StringSyntax

/-- The characters up to the closing quote, and the text after it. -/
def rest? (x : StringSyntax) : List Char → Option (List Char × List Char)
  | [] => none
  | '"' :: cs => some ([], cs)
  | '\\' :: e :: cs => do
    let c ← x.escaped? e
    let (text, rest) ← x.rest? cs
    return (c :: text, rest)
  | c :: cs =>
    if c = '\\' ∨ c ∈ x.excluded then none
    else (x.rest? cs).map fun (text, rest) => (c :: text, rest)

def read? (x : StringSyntax) : List Char → Option (String × List Char)
  | '"' :: cs => (x.rest? cs).map fun (text, rest) => (String.ofList text, rest)
  | _ => none

def Reads (x : StringSyntax) (written : Char → List Char) : Prop :=
  ∀ c cs, x.rest? (written c ++ cs) = (x.rest? cs).map fun (text, rest) => (c :: text, rest)

variable {x : StringSyntax} {written : Char → List Char}

theorem rest?_escaped {e c : Char} (h : x.escaped? e = some c) (cs : List Char) :
    x.rest? ('\\' :: e :: cs) = (x.rest? cs).map fun (text, rest) => (c :: text, rest) := by
  rw [rest?, h]
  cases x.rest? cs <;> rfl

theorem rest?_verbatim {c : Char} (hquote : c ≠ '"') (hbackslash : c ≠ '\\')
    (h : c ∉ x.excluded) (cs : List Char) :
    x.rest? (c :: cs) = (x.rest? cs).map fun (text, rest) => (c :: text, rest) := by
  rw [rest?.eq_4 _ _ _ hquote fun _ _ hc _ => hbackslash hc, if_neg (not_or.mpr ⟨hbackslash, h⟩)]

theorem read?_quote (h : x.Reads written) (s : String) (cs : List Char) :
    x.read? ((quote written s).toList ++ cs) = some (s, cs) := by
  have hrest : x.rest? (s.toList.flatMap written ++ '"' :: cs) = some (s.toList, cs) := by
    induction s.toList with
    | nil => rfl
    | cons c rest ih =>
      rw [List.flatMap_cons, List.append_assoc, h, ih]
      rfl
  simp [quote, quoteChars, read?, hrest]

end StringSyntax

/-! ### Interpolation -/

/-- A character as it stands in a string: by itself, or behind a backslash. -/
inductive Mark where
  | plain (c : Char)
  | escaped (c : Char)
  deriving DecidableEq, Repr

def marks : List Char → List Mark
  | [] => []
  | '\\' :: c :: cs => .escaped c :: marks cs
  | c :: cs => .plain c :: marks cs

theorem marks_plain {c : Char} (h : c ≠ '\\') (cs : List Char) :
    marks (c :: cs) = .plain c :: marks cs :=
  marks.eq_3 _ _ fun _ _ hc _ => h hc

/-- Every character is written as one mark, and never as the given one. -/
def Avoids (written : Char → List Char) (mark : Mark) : Prop :=
  ∀ c, ∃ m, m ≠ mark ∧ ∀ cs, marks (written c ++ cs) = m :: marks cs

theorem notMem_marks_quote {written : Char → List Char} {mark : Mark} (h : Avoids written mark)
    (hquote : mark ≠ .plain '"') (s : String) : mark ∉ marks (quote written s).toList := by
  have hinside : ∀ cs : List Char, mark ∉ marks (cs.flatMap written ++ ['"']) := by
    intro cs
    induction cs with
    | nil => simpa [marks] using hquote
    | cons c cs ih =>
      obtain ⟨m, hm, hmarks⟩ := h c
      rw [List.flatMap_cons, List.append_assoc, hmarks]
      exact List.not_mem_cons_of_ne_of_not_mem hm.symm ih
  rw [quote, String.toList_ofList, quoteChars, List.cons_append, marks_plain (by decide)]
  exact List.not_mem_cons_of_ne_of_not_mem hquote (hinside _)

/-! ### Line ends -/

def KeepsLine (written : Char → List Char) : Prop := ∀ c, ∀ d ∈ written c, d ≠ '\n' ∧ d ≠ '\r'

theorem oneLine_quote {written : Char → List Char} (h : KeepsLine written) (s : String) :
    OneLine (quote written s) := by
  rw [OneLine, quote, String.toList_ofList, quoteChars, List.cons_append, List.forall_mem_cons,
    List.forall_mem_append, List.forall_mem_flatMap]
  exact ⟨by decide, fun c _ => h c, List.forall_mem_singleton.mpr (by decide)⟩

theorem keepsLine_plainEscape : KeepsLine plainEscape := by
  intro c
  unfold plainEscape
  split
  case h_6 hfeed hreturn _ => simpa using ⟨hfeed, hreturn⟩
  all_goals simp

theorem keepsLine_templateEscape : KeepsLine templateEscape := by
  intro c
  rw [templateEscape]
  split
  · simp
  · exact keepsLine_plainEscape c

theorem keepsLine_jsonEscape : KeepsLine jsonEscape := by
  intro c
  unfold jsonEscape
  split
  case h_8 hfeed _ hreturn =>
    split
    · have hdigit : ∀ n < 16, Nat.digitChar n ≠ '\n' ∧ Nat.digitChar n ≠ '\r' := by decide
      have hdigits : ∀ n, Nat.digitChar (n % 16) ≠ '\n' ∧ Nat.digitChar (n % 16) ≠ '\r' :=
        fun n => hdigit _ (Nat.mod_lt n (by decide))
      simp [hexDigits, hdigits]
    · simpa using ⟨hfeed, hreturn⟩
  all_goals simp

end Text

namespace Json

/-! ### JSON -/

theorem number?_hexDigits : ∀ n < 0x20, Text.number? 16 (Text.hexDigits n) = some n := by decide

theorem joinPieces?_unit {n : Nat} (hn : n < 0x20) (read : List Char) (pieces : List Piece) :
    joinPieces? read (.unit n :: pieces) = joinPieces? (.ofNat n :: read) pieces := by
  have hhigh : isHighSurrogate n = false := by simp [isHighSurrogate]; omega
  have hlow : isLowSurrogate n = false := by simp [isLowSurrogate]; omega
  cases pieces with
  | nil => simp [joinPieces?, hhigh, hlow]
  | cons piece pieces => cases piece <;> simp [joinPieces?, hhigh, hlow]

/-- Every character is written as one piece, which stands for it. -/
theorem exists_piece (c : Char) : ∃ piece,
    (∀ read cs, pieces? read (Text.jsonEscape c ++ cs) = pieces? (piece :: read) cs) ∧
    ∀ read pieces, joinPieces? read (piece :: pieces) = joinPieces? (c :: read) pieces := by
  unfold Text.jsonEscape
  split
  case h_8 hquote hbackslash _ _ _ _ _ =>
    by_cases hcontrol : c.toNat < 0x20
    · refine ⟨.unit c.toNat, fun read cs => ?_, fun read pieces => ?_⟩
      · have hnumber := number?_hexDigits _ hcontrol
        rw [if_pos hcontrol]
        simp only [Text.hexDigits, List.map_cons, List.map_nil, List.cons_append,
          List.nil_append] at hnumber ⊢
        rw [pieces?, hnumber]
      · rw [joinPieces?_unit hcontrol, Char.ofNat_toNat]
    · refine ⟨.char c, fun read cs => ?_, fun read pieces => rfl⟩
      rw [if_neg hcontrol, List.singleton_append, pieces?.eq_5 _ _ _ hquote
        (fun _ _ _ _ _ hc _ => hbackslash hc) (fun _ _ hc _ => hbackslash hc),
        if_neg (not_or.mpr ⟨hbackslash, hcontrol⟩)]
  all_goals exact ⟨.char _, fun read cs => rfl, fun read pieces => rfl⟩

theorem exists_pieces (text : List Char) : ∃ pieces,
    (∀ read cs, pieces? read (text.flatMap Text.jsonEscape ++ cs) =
      pieces? (pieces.reverse ++ read) cs) ∧
    ∀ read, joinPieces? read pieces = some (read.reverse ++ text) := by
  induction text with
  | nil => exact ⟨[], fun _ _ => rfl, fun read => by simp [joinPieces?]⟩
  | cons c text ih =>
    obtain ⟨piece, hpiece, hjoin⟩ := exists_piece c
    obtain ⟨pieces, hpieces, hjoins⟩ := ih
    refine ⟨piece :: pieces, fun read cs => ?_, fun read => ?_⟩
    · rw [List.flatMap_cons, List.append_assoc, hpiece, hpieces, List.reverse_cons,
        List.append_assoc, List.singleton_append]
    · rw [hjoin, hjoins, List.reverse_cons, List.append_assoc, List.singleton_append]

theorem string?_written (text rest : List Char) :
    string? (text.flatMap Text.jsonEscape ++ '"' :: rest) = some (String.ofList text, rest) := by
  obtain ⟨pieces, hpieces, hjoin⟩ := exists_pieces text
  have hread : pieces? [] (text.flatMap Text.jsonEscape ++ '"' :: rest) = some (pieces, rest) := by
    rw [hpieces, pieces?, List.append_nil, List.reverse_reverse]
  rw [string?, hread]
  simp [hjoin]

/-! ### Lists -/

theorem expect?_append (beginning cs : List Char) :
    expect? beginning (beginning ++ cs) = some cs := by
  induction beginning with
  | nil => rfl
  | cons c beginning ih => rw [List.cons_append, expect?, if_pos rfl, ih]

section Items

variable {item : List Char → Option (String × List Char)} {written : String → String}

def itemChars (written : String → String) (items : List String) : List Char :=
  (Text.joinWith ", " (items.map written)).toList

theorem itemChars_cons_cons (s s' : String) (ss : List String) :
    itemChars written (s :: s' :: ss) =
      (written s).toList ++ ',' :: ' ' :: itemChars written (s' :: ss) := by
  simp [itemChars, Text.joinWith]

theorem exists_itemChars_cons (hopening : ∀ s, ∃ cs, (written s).toList = '"' :: cs)
    (s : String) (ss : List String) : ∃ cs, itemChars written (s :: ss) = '"' :: cs := by
  obtain ⟨cs, hcs⟩ := hopening s
  cases ss with
  | nil => exact ⟨cs, hcs⟩
  | cons s' ss => exact ⟨_, by rw [itemChars_cons_cons, hcs, List.cons_append]⟩

theorem length_le_itemChars (hopening : ∀ s, ∃ cs, (written s).toList = '"' :: cs)
    (items : List String) : items.length ≤ (itemChars written items).length := by
  induction items with
  | nil => exact Nat.zero_le _
  | cons s ss ih =>
    cases ss with
    | nil =>
      obtain ⟨cs, hcs⟩ := exists_itemChars_cons hopening s []
      simp [hcs]
    | cons s' ss =>
      rw [itemChars_cons_cons]
      simp only [List.length_append, List.length_cons] at ih ⊢
      omega

theorem items?_itemChars (hitem : ∀ s cs, item ((written s).toList ++ cs) = some (s, cs))
    (hopening : ∀ s, ∃ cs, (written s).toList = '"' :: cs) {closing : Char}
    (hclosing : closing ∈ [']', ')']) (s : String) (ss read : List String) (rest : List Char)
    {fuel : Nat} (hfuel : ss.length < fuel) :
    items? item closing fuel read (itemChars written (s :: ss) ++ closing :: rest) =
      some (read.reverse ++ s :: ss, rest) := by
  induction ss generalizing s read fuel with
  | nil =>
    obtain ⟨fuel, rfl⟩ : ∃ n, fuel = n + 1 := ⟨fuel - 1, by omega⟩
    rw [itemChars, List.map_singleton, Text.joinWith, items?, hitem]
    obtain rfl | rfl : closing = ']' ∨ closing = ')' := by simpa using hclosing
    all_goals simp [skipBlanks, isBlank]
  | cons s' ss ih =>
    obtain ⟨fuel, rfl⟩ : ∃ n, fuel = n + 1 := ⟨fuel - 1, by omega⟩
    obtain ⟨cs, hcs⟩ := exists_itemChars_cons hopening s' ss
    -- The comma is followed by one blank, and the blank by the quote of the next item.
    have hcomma : skipBlanks (',' :: ' ' :: (itemChars written (s' :: ss) ++ closing :: rest)) =
        ',' :: ' ' :: (itemChars written (s' :: ss) ++ closing :: rest) := rfl
    have hblank : skipBlanks (' ' :: (itemChars written (s' :: ss) ++ closing :: rest)) =
        itemChars written (s' :: ss) ++ closing :: rest := by
      rw [hcs]
      rfl
    have hfuel' : ss.length < fuel := by simpa using hfuel
    have hrest := ih s' (s :: read) hfuel'
    rw [itemChars_cons_cons, List.append_assoc, items?, hitem]
    simp only [List.cons_append, hcomma, hblank, hrest, Option.bind_eq_bind, Option.bind_some,
      List.reverse_cons, List.append_assoc, List.nil_append]

/-- A list is read as its items, whatever follows it. -/
theorem collection?_itemChars (hitem : ∀ s cs, item ((written s).toList ++ cs) = some (s, cs))
    (hopening : ∀ s, ∃ cs, (written s).toList = '"' :: cs) {closing : Char}
    (hclosing : closing ∈ [']', ')']) (items : List String) (rest : List Char) :
    collection? item closing (itemChars written items ++ closing :: rest) = some (items, rest) := by
  cases items with
  | nil =>
    obtain rfl | rfl : closing = ']' ∨ closing = ')' := by simpa using hclosing
    all_goals rfl
  | cons s ss =>
    obtain ⟨cs, hcs⟩ := exists_itemChars_cons hopening s ss
    have hquote : ∀ cs, skipBlanks ('"' :: cs) = '"' :: cs := fun _ => rfl
    have hfuel : ss.length < (itemChars written (s :: ss) ++ closing :: rest).length := by
      have := length_le_itemChars hopening (s :: ss)
      simp only [List.length_append, List.length_cons] at this ⊢
      omega
    have hne : '"' ≠ closing := by
      rintro rfl
      simp at hclosing
    rw [collection?, hcs, List.cons_append, hquote, List.head?_cons, ← List.cons_append, ← hcs,
      if_neg fun h => hne (Option.some.inj h)]
    exact items?_itemChars hitem hopening hclosing s ss [] rest hfuel

end Items

end Json

/-! ### Targets -/

namespace Kotlin

def stringSyntax : Text.StringSyntax where
  escaped?
    | '"' => some '"'
    | '\\' => some '\\'
    | '$' => some '$'
    | 'n' => some '\n'
    | 'r' => some '\r'
    | 't' => some '\t'
    | _ => none
  excluded := ['\n', '\r', '$']

theorem reads_stringSyntax : stringSyntax.Reads Text.templateEscape := by
  intro c cs
  unfold Text.templateEscape
  split
  case isTrue h =>
    subst h
    exact stringSyntax.rest?_escaped rfl cs
  case isFalse hdollar =>
    unfold Text.plainEscape
    split
    case h_6 hquote hbackslash hfeed hreturn _ =>
      have hexcluded : c ∉ stringSyntax.excluded := by
        simpa [stringSyntax, hdollar] using ⟨hfeed, hreturn⟩
      exact stringSyntax.rest?_verbatim hquote hbackslash hexcluded cs
    all_goals exact stringSyntax.rest?_escaped rfl cs

theorem avoids_templateEscape : Text.Avoids Text.templateEscape (.plain '$') := by
  intro c
  unfold Text.templateEscape
  split
  case isTrue => exact ⟨.escaped '$', by decide, fun _ => rfl⟩
  case isFalse hdollar =>
    unfold Text.plainEscape
    split
    case h_6 _ hbackslash _ _ _ =>
      exact ⟨.plain c, by simpa using hdollar, Text.marks_plain hbackslash⟩
    all_goals exact ⟨.escaped _, by decide, fun _ => rfl⟩

end Kotlin

namespace Swift

def stringSyntax : Text.StringSyntax where
  escaped?
    | '"' => some '"'
    | '\\' => some '\\'
    | 'n' => some '\n'
    | 'r' => some '\r'
    | 't' => some '\t'
    | _ => none
  excluded := ['\n', '\r']

theorem reads_stringSyntax : stringSyntax.Reads Text.plainEscape := by
  intro c cs
  unfold Text.plainEscape
  split
  case h_6 hquote hbackslash hfeed hreturn _ =>
    have hexcluded : c ∉ stringSyntax.excluded := by
      simpa [stringSyntax] using ⟨hfeed, hreturn⟩
    exact stringSyntax.rest?_verbatim hquote hbackslash hexcluded cs
  all_goals exact stringSyntax.rest?_escaped rfl cs

theorem avoids_plainEscape : Text.Avoids Text.plainEscape (.escaped '(') := by
  intro c
  unfold Text.plainEscape
  split
  case h_6 _ hbackslash _ _ _ => exact ⟨.plain c, nofun, Text.marks_plain hbackslash⟩
  all_goals exact ⟨.escaped _, by decide, fun _ => rfl⟩

end Swift

namespace Target

def readString? : Target → List Char → Option (String × List Char)
  | .javascript, '"' :: cs => Json.string? cs
  | .javascript, _ => none
  | .kotlin _, cs => Kotlin.stringSyntax.read? cs
  | .swift _, cs => Swift.stringSyntax.read? cs

/-- What begins an interpolation in a string. -/
def interpolation? : Target → Option Text.Mark
  | .javascript => none
  | .kotlin _ => some (.plain '$')
  | .swift _ => some (.escaped '(')

def readItems? (t : Target) (opening : String) (closing : Char) (cs : List Char) :
    Option (List String × List Char) := do
  let inside ← Json.expect? opening.toList cs
  Json.collection? t.readString? closing inside

def readList? : Target → List Char → Option (List String × List Char)
  | .kotlin k => Target.readItems? (.kotlin k) "listOf(" ')'
  | t => t.readItems? "[" ']'

def readSet? : Target → List Char → Option (List String × List Char)
  | .kotlin k => Target.readItems? (.kotlin k) "setOf(" ')'
  | t => t.readItems? "[" ']'

theorem readString?_string (t : Target) (s : String) (rest : List Char) :
    t.readString? ((t.literal (.string s)).toList ++ rest) = some (s, rest) := by
  cases t with
  | javascript =>
    have h := Json.string?_written s.toList rest
    rw [String.ofList_toList] at h
    simpa [literal, JavaScript.literal, JavaScript.string, Text.quote, Text.quoteChars,
      readString?] using h
  | kotlin _ => exact Text.StringSyntax.read?_quote Kotlin.reads_stringSyntax s rest
  | swift _ => exact Text.StringSyntax.read?_quote Swift.reads_stringSyntax s rest

theorem oneLine_string (t : Target) (s : String) : Text.OneLine (t.literal (.string s)) := by
  cases t with
  | javascript => exact Text.oneLine_quote Text.keepsLine_jsonEscape s
  | kotlin _ => exact Text.oneLine_quote Text.keepsLine_templateEscape s
  | swift _ => exact Text.oneLine_quote Text.keepsLine_plainEscape s

theorem exists_string_cons (t : Target) (s : String) :
    ∃ cs, (t.literal (.string s)).toList = '"' :: cs := by
  cases t <;> exact ⟨_, String.toList_ofList⟩

theorem notMem_marks_string (t : Target) (s : String) :
    ∀ mark ∈ t.interpolation?, mark ∉ Text.marks (t.literal (.string s)).toList := by
  cases t with
  | javascript => exact fun _ h => absurd h (Option.not_mem_none _)
  | kotlin _ =>
    rintro _ ⟨⟩
    exact Text.notMem_marks_quote Kotlin.avoids_templateEscape (by decide) s
  | swift _ =>
    rintro _ ⟨⟩
    exact Text.notMem_marks_quote Swift.avoids_plainEscape (by decide) s

theorem readItems?_written (t : Target) (opening : String) {ending : String} {closing : Char}
    (hending : ending.toList = [closing]) (hclosing : closing ∈ [']', ')']) (items : List String)
    (rest : List Char) :
    t.readItems? opening closing ((opening ++
      Text.joinWith ", " (items.map fun s => t.literal (.string s)) ++ ending).toList ++ rest) =
        some (items, rest) := by
  have hitems := Json.collection?_itemChars t.readString?_string t.exists_string_cons hclosing
    items rest
  rw [readItems?, String.toList_append, String.toList_append, hending, List.append_assoc,
    List.append_assoc, Json.expect?_append]
  exact hitems

theorem readList?_list (t : Target) (items : List String) (rest : List Char) :
    t.readList? ((t.literal (.list items)).toList ++ rest) = some (items, rest) := by
  cases t with
  | javascript => exact readItems?_written .javascript "[" (by decide) (by decide) items rest
  | kotlin k => exact readItems?_written (.kotlin k) "listOf(" (by decide) (by decide) items rest
  | swift w => exact readItems?_written (.swift w) "[" (by decide) (by decide) items rest

theorem readSet?_set (t : Target) (items : List String) (rest : List Char) :
    t.readSet? ((t.literal (.set items)).toList ++ rest) = some (items, rest) := by
  cases t with
  | javascript => exact readItems?_written .javascript "[" (by decide) (by decide) items rest
  | kotlin k => exact readItems?_written (.kotlin k) "setOf(" (by decide) (by decide) items rest
  | swift w => exact readItems?_written (.swift w) "[" (by decide) (by decide) items rest

/-- A string is read as the text it was written for and ends where it was ended; it stands on one
line, without an interpolation. Lists and sets of strings are read as the given list. -/
theorem literals_readBack (t : Target) (s : String) (items : List String) (rest : List Char) :
    t.readString? ((t.literal (.string s)).toList ++ rest) = some (s, rest) ∧
      Text.OneLine (t.literal (.string s)) ∧
      (∀ mark ∈ t.interpolation?, mark ∉ Text.marks (t.literal (.string s)).toList) ∧
      t.readList? ((t.literal (.list items)).toList ++ rest) = some (items, rest) ∧
      t.readSet? ((t.literal (.set items)).toList ++ rest) = some (items, rest) :=
  ⟨t.readString?_string s rest, t.oneLine_string s, t.notMem_marks_string s,
    t.readList?_list items rest, t.readSet?_set items rest⟩

end Target

end TelemetryBindings
