import TelemetryBindings.Proofs.LineBreaks
import TelemetryBindings.Target.Kotlin

/-!
# The types that code names

Where the texts of strings are left out, code falls into words. A word that begins with a capital
names a type, and what follows a dot in it is a member of that type.
-/
namespace TelemetryBindings.Text

/-! ### Strings -/

/-- Where a reader of code is: outside of strings, in a string, or behind a backslash in one. -/
inductive Place where
  | outside
  | inside
  | escaped
  deriving DecidableEq, Repr

/-- The place behind a character. A string ends at the latest where its line does. -/
def Place.after : Place → Char → Place
  | _, '\n' => .outside
  | .outside, '"' => .inside
  | .outside, _ => .outside
  | .inside, '"' => .outside
  | .inside, '\\' => .escaped
  | .inside, _ => .inside
  | .escaped, _ => .inside

def Place.isBare (p : Place) (c : Char) : Bool :=
  p == .outside || c == '\n' || (p == .inside && c == '"')

/-- Code without the texts of its strings, of which the quotes remain. -/
def bare (p : Place) : List Char → List Char
  | [] => []
  | c :: cs => if p.isBare c then c :: bare (p.after c) cs else bare (p.after c) cs

theorem bare_append (p : Place) (a b : List Char) :
    bare p (a ++ b) = bare p a ++ bare (a.foldl Place.after p) b := by
  induction a generalizing p with
  | nil => rfl
  | cons c cs ih =>
    rw [List.cons_append, bare, bare, ih, List.foldl_cons]
    split <;> rfl

theorem bare_lineFeed (p : Place) (cs : List Char) :
    bare p ('\n' :: cs) = '\n' :: bare .outside cs := by
  cases p <;> rfl

theorem bare_outside {a : List Char} (h : '"' ∉ a) (b : List Char) :
    bare .outside (a ++ b) = a ++ bare .outside b := by
  induction a with
  | nil => rfl
  | cons c cs ih =>
    obtain ⟨hc, hcs⟩ := List.ne_and_not_mem_of_not_mem_cons h
    have hafter : Place.outside.after c = .outside := by
      unfold Place.after
      split <;> simp_all
    rw [List.cons_append, bare, hafter, ih hcs]
    rfl

theorem bare_string (s : String) (b : List Char) :
    bare .outside ((Kotlin.string s).toList ++ b) = '"' :: '"' :: bare .outside b := by
  have hescape : ∀ c cs, bare .inside (templateEscape c ++ cs) = bare .inside cs := by
    intro c cs
    unfold templateEscape plainEscape
    split_ifs with hdollar
    · rfl
    · split
      case h_6 hquote hbackslash hfeed _ _ =>
        have hafter : Place.inside.after c = .inside := by
          unfold Place.after
          split <;> simp_all
        have hbare : Place.inside.isBare c = false := by
          simpa [Place.isBare] using ⟨hfeed, hquote⟩
        rw [List.singleton_append, bare, hafter, hbare]
        rfl
      all_goals rfl
  have hinside : ∀ cs : List Char, bare .inside (cs.flatMap templateEscape ++ '"' :: b) =
      '"' :: bare .outside b := by
    intro cs
    induction cs with
    | nil => rfl
    | cons c cs ih => rw [List.flatMap_cons, List.append_assoc, hescape, ih]
  have hopening := hinside s.toList
  simp only [Kotlin.string, quote, quoteChars, String.toList_ofList, List.cons_append,
    List.append_assoc, List.nil_append]
  exact congrArg ('"' :: ·) hopening

/-! ### Words -/

/-- A character of the words of code, a dot between two names included. -/
def isCodeChar (c : Char) : Bool := isWordChar c || c == '_' || c == '.'

def typeName? : List Char → Option String
  | [] => none
  | c :: cs => if c.isUpper then some (String.ofList ((c :: cs).takeWhile (· ≠ '.'))) else none

def typesIn (text : List Char) : List String :=
  (text.splitOnP (!isCodeChar ·)).filterMap typeName?

def codeTypes (code : List Char) : List String := typesIn (bare .outside code)

def typeNames (code : String) : List String := codeTypes code.toList

theorem typesIn_append {c : Char} (h : isCodeChar c = false) (a b : List Char) :
    typesIn (a ++ c :: b) = typesIn a ++ typesIn b := by
  rw [typesIn, List.splitOnP_append_cons a b (by simpa using h), List.filterMap_append]
  rfl

theorem typesIn_word {w : List Char} (h : ∀ c ∈ w, isCodeChar c) :
    typesIn w = (typeName? w).toList := by
  rw [typesIn, List.splitOnP_eq_singleton (fun c hc => by simp [h c hc])]
  cases hname : typeName? w <;> simp [hname]

theorem typesIn_cons {c : Char} (h : isCodeChar c = false) (cs : List Char) :
    typesIn (c :: cs) = typesIn cs := typesIn_append h [] cs

theorem typesIn_concat {c : Char} (h : isCodeChar c = false) (cs : List Char) :
    typesIn (cs ++ [c]) = typesIn cs := by
  rw [typesIn_append h]
  exact List.append_nil _

theorem typesIn_separators {cs : List Char} (h : ∀ c ∈ cs, isCodeChar c = false)
    (text : List Char) : typesIn (cs ++ text) = typesIn text := by
  induction cs with
  | nil => rfl
  | cons c cs ih =>
    obtain ⟨hc, hcs⟩ := List.forall_mem_cons.mp h
    rw [List.cons_append, typesIn_cons hc, ih hcs]

/-! ### Texts outside of strings -/

def Unquoted (text : String) : Prop := '"' ∉ text.toList

theorem unquoted_append {a b : String} : Unquoted (a ++ b) ↔ Unquoted a ∧ Unquoted b := by
  rw [Unquoted, String.toList_append, List.mem_append, not_or]
  rfl

instance (text : String) : Decidable (Unquoted text) :=
  inferInstanceAs (Decidable ('"' ∉ text.toList))

theorem typeNames_unquoted {text : String} (h : Unquoted text) :
    typeNames text = typesIn text.toList := by
  have hbare := bare_outside h []
  rw [List.append_nil, bare, List.append_nil] at hbare
  rw [typeNames, codeTypes, hbare]

/-- The text separates words, and names no type of its own. -/
def separates (text : String) : Bool :=
  !text.toList.contains '"' && text.toList.head?.any (!isCodeChar ·) &&
    text.toList.getLast?.any (!isCodeChar ·) && (typesIn text.toList).isEmpty

theorem typeNames_between {a separator : String} (ha : Unquoted a) (hs : separates separator)
    (b : String) : typeNames (a ++ separator ++ b) = typeNames a ++ typeNames b := by
  simp only [separates, Bool.and_eq_true, Bool.not_eq_true', List.contains_eq_mem,
    decide_eq_false_iff_not, Option.any_eq_true, List.isEmpty_iff] at hs
  obtain ⟨⟨⟨hquote, c, hhead, hc⟩, d, hlast, hd⟩, htypes⟩ := hs
  obtain ⟨after, hafter⟩ := List.head?_eq_some_iff.mp hhead
  obtain ⟨before, hbefore⟩ := List.getLast?_eq_some_iff.mp hlast
  rw [hbefore, typesIn_concat hd] at htypes
  have htext : (a ++ separator ++ b).toList = a.toList ++ (separator.toList ++ b.toList) := by simp
  have hbegins : ∀ cs, typesIn (a.toList ++ (separator.toList ++ cs)) =
      typesIn a.toList ++ typesIn (separator.toList ++ cs) := by
    intro cs
    rw [hafter, List.cons_append, typesIn_append hc, typesIn_cons hc]
  have hends : ∀ cs, typesIn (separator.toList ++ cs) = typesIn cs := by
    intro cs
    rw [hbefore, List.append_assoc, List.singleton_append, typesIn_append hd, htypes,
      List.nil_append]
  rw [typeNames_unquoted ha, typeNames, htext, codeTypes, bare_outside ha, bare_outside hquote,
    hbegins, hends]
  rfl

theorem typeNames_before {a separator : String} (ha : Unquoted a) (hs : separates separator) :
    typeNames (a ++ separator) = typeNames a := by
  have h := typeNames_between ha hs ""
  rw [String.append_empty] at h
  rw [h]
  exact List.append_nil _

theorem all_isCodeChar {w : String} (h : ∀ c ∈ w.toList, isWordChar c) :
    w.toList.all isCodeChar := by
  rw [List.all_eq_true]
  intro c hc
  simp [isCodeChar, h c hc]

theorem unquoted_of_word {w : String} (h : w.toList.all isCodeChar) : Unquoted w :=
  fun hquote => absurd (List.all_eq_true.mp h _ hquote) (by decide)

theorem typeNames_word {w : String} (h : w.toList.all isCodeChar) :
    typeNames w = (typeName? w.toList).toList := by
  rw [typeNames_unquoted (unquoted_of_word h), typesIn_word (List.all_eq_true.mp h)]

/-! ### Lines -/

theorem codeTypes_lineFeed (a b : List Char) :
    codeTypes (a ++ '\n' :: b) = codeTypes a ++ codeTypes b := by
  rw [codeTypes, bare_append, bare_lineFeed, typesIn_append (by decide)]
  rfl

/-- At the end of a text a separating character makes no difference, whether or not a string is open
there. -/
theorem codeTypes_concat {c : Char} (h : isCodeChar c = false) (a : List Char) :
    codeTypes (a ++ [c]) = codeTypes a := by
  rw [codeTypes, bare_append, bare, bare]
  split
  · exact typesIn_concat h _
  · rw [List.append_nil]
    rfl

def putBefore (front : List Char) : List (List Char) → List (List Char)
  | [] => [front]
  | line :: rest => (front ++ line) :: rest

theorem putBefore_consLine (front : List Char) (c : Char) (ls : List (List Char)) :
    putBefore front (consLine c ls) = putBefore (front ++ [c]) ls := by
  cases ls <;> simp [putBefore, consLine]

theorem flatMap_putBefore_nil (ls : List (List Char)) :
    (putBefore [] ls).flatMap codeTypes = ls.flatMap codeTypes := by
  cases ls <;> rfl

/-- Lines can be read one by one; `front` is what was read of the first. -/
theorem codeTypes_splitLines (front text : List Char) :
    codeTypes (front ++ text) = (putBefore front (splitLines text)).flatMap codeTypes := by
  fun_induction splitLines text generalizing front with
  | case1 => simp [putBefore]
  | case2 cs ih =>
    have hrest := ih []
    rw [List.nil_append, flatMap_putBefore_nil] at hrest
    rw [codeTypes_lineFeed, hrest, putBefore, List.append_nil, List.flatMap_cons]
  | case3 cs ih =>
    have hrest := ih []
    have hsplit : front ++ '\r' :: '\n' :: cs = (front ++ ['\r']) ++ '\n' :: cs := by simp
    rw [List.nil_append, flatMap_putBefore_nil] at hrest
    rw [hsplit, codeTypes_lineFeed, codeTypes_concat (by decide), hrest, putBefore,
      List.append_nil, List.flatMap_cons]
  | case4 c cs _ _ ih =>
    rw [putBefore_consLine, ← ih, List.append_assoc, List.singleton_append]

theorem typeNames_lineFeed (a b : String) :
    typeNames (a ++ "\n" ++ b) = typeNames a ++ typeNames b := by
  have htext : (a ++ "\n" ++ b).toList = a.toList ++ '\n' :: b.toList := by simp
  rw [typeNames, htext, codeTypes_lineFeed]
  rfl

theorem typeNames_lines (text : String) : typeNames text = (lines text).flatMap typeNames := by
  have h := codeTypes_splitLines [] text.toList
  rw [List.nil_append, flatMap_putBefore_nil] at h
  rw [typeNames, h, lines, List.flatMap_map]
  exact List.flatMap_congr fun line _ => by rw [typeNames, String.toList_ofList]

theorem typeNames_joinWith_lineFeed (ls : List String) :
    typeNames (joinWith "\n" ls) = ls.flatMap typeNames := by
  match ls with
  | [] => rfl
  | [line] => simp [joinWith]
  | line :: next :: rest =>
    rw [joinWith_cons_cons, typeNames_lineFeed, typeNames_joinWith_lineFeed]
    rfl

/-- Arguments can be read one by one. -/
theorem typeNames_joinWith_comma (parts : List String) :
    typeNames (joinWith ",\n" parts) = parts.flatMap typeNames := by
  match parts with
  | [] => rfl
  | [part] => simp [joinWith]
  | part :: next :: rest =>
    have hseparator : part ++ ",\n" ++ joinWith ",\n" (next :: rest) =
        part ++ "," ++ "\n" ++ joinWith ",\n" (next :: rest) := by
      simp [← String.toList_inj]
    have hcomma : typeNames (part ++ ",") = typeNames part := by
      rw [typeNames, String.toList_append]
      exact codeTypes_concat (by decide) part.toList
    rw [joinWith_cons_cons, hseparator, typeNames_lineFeed, hcomma, typeNames_joinWith_comma]
    rfl

theorem typeNames_indent (text : String) : typeNames (Kotlin.indent ++ text) = typeNames text := by
  have htext : (Kotlin.indent ++ text).toList = "    ".toList ++ text.toList := String.toList_append
  rw [typeNames, htext, codeTypes, bare_outside (by decide)]
  rfl

theorem typeNames_indentAll (text : String) :
    typeNames (indentAll Kotlin.indent text) = typeNames text := by
  rw [indentAll, typeNames_joinWith_lineFeed, List.flatMap_map, typeNames_lines text]
  exact List.flatMap_congr fun line _ => typeNames_indent line

theorem typeNames_indentContinuation (text : String) :
    typeNames (indentContinuation Kotlin.indent text) = typeNames text := by
  rw [indentContinuation, typeNames_lines text]
  split
  · next hlines =>
    rw [hlines]
    rfl
  · next first rest hlines =>
    rw [hlines, typeNames_joinWith_lineFeed, List.flatMap_cons, List.flatMap_map]
    exact congrArg _ (List.flatMap_congr fun line _ => typeNames_indent line)

end TelemetryBindings.Text
