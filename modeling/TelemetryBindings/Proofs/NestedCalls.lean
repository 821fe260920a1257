import TelemetryBindings.Proofs.KeyOrder
import TelemetryBindings.Proofs.KotlinTypes
import TelemetryBindings.Proofs.LineFeeds
import TelemetryBindings.Proofs.ReservedUnits

/-!
# Calls inside calls

The arguments of a call in generated Kotlin are read from its text by their names: what follows the
name, and the lines below that are indented further or close a bracket. Strings keep to one line, so
that no other line can be taken for the beginning of an argument. The metric inside a labeled one is
read as the call of a metric that stands alone.
-/
namespace TelemetryBindings

open Text

namespace Text

variable {ls : List String}

theorem OneLine.unbroken {text : String} (h : OneLine text) : Unbroken text :=
  fun hfeed => (h _ hfeed).1 rfl

theorem unlines_append_last (ls : List String) (last : String) :
    unlines ls ++ last = joinWith "\n" (ls ++ [last]) := by
  induction ls with
  | nil => exact String.empty_append
  | cons line ls ih =>
    rw [unlines, String.append_assoc, ih]
    cases ls <;> rfl

theorem append_joinWith (separator opening part : String) (parts : List String) :
    opening ++ joinWith separator (part :: parts) =
      joinWith separator ((opening ++ part) :: parts) := by
  cases parts with
  | nil => rfl
  | cons next parts =>
    rw [joinWith_cons_cons, joinWith_cons_cons]
    simp only [String.append_assoc]

theorem pieces_joinWith {last : String} (h : ∀ line ∈ ls ++ [last], Unbroken line) :
    pieces (joinWith "\n" (ls ++ [last])) = ls ++ [last] := by
  obtain ⟨hls, hlast⟩ := List.forall_mem_append.mp h
  rw [← unlines_append_last, pieces_unlines_append hls,
    pieces_of_unbroken (hlast last (List.mem_singleton_self _))]

theorem lines_joinWith {last : String} (h : ∀ line ∈ ls ++ [last], OneLine line)
    (hne : last ≠ "") : lines (joinWith "\n" (ls ++ [last])) = ls ++ [last] := by
  obtain ⟨hls, hlast⟩ := List.forall_mem_append.mp h
  rw [← unlines_append_last, lines_unlines_append hls,
    lines_of_oneLine (hlast last (List.mem_singleton_self _)) hne]

theorem indentContinuation_joinWith (indent : String) {first last : String}
    (h : ∀ line ∈ first :: ls ++ [last], OneLine line) (hne : last ≠ "") :
    indentContinuation indent (joinWith "\n" (first :: ls ++ [last])) =
      joinWith "\n" (first :: (ls ++ [last]).map (indent ++ ·)) := by
  rw [indentContinuation, lines_joinWith h hne]
  rfl

/-- A part that was joined itself is joined with the others. -/
theorem joinWith_flatten (separator : String) {before parts after : List String}
    (hparts : parts ≠ []) : joinWith separator (before ++ [joinWith separator parts] ++ after) =
      joinWith separator (before ++ parts ++ after) := by
  have hrest : joinWith separator (joinWith separator parts :: after) =
      joinWith separator (parts ++ after) := by
    by_cases hafter : after = []
    · rw [hafter, List.append_nil]
      rfl
    · rw [joinWith_cons _ _ hafter, joinWith_append _ hparts hafter]
  rw [List.append_assoc, List.append_assoc, List.singleton_append]
  by_cases hbefore : before = []
  · rw [hbefore, List.nil_append, List.nil_append, hrest]
  · rw [joinWith_append _ hbefore (List.cons_ne_nil _ _), hrest,
      joinWith_append _ hbefore (List.append_ne_nil_of_left_ne_nil hparts after)]

theorem joinWith_comma_lineFeed (ls : List String) (last : String) :
    joinWith ",\n" (ls ++ [last]) = joinWith "\n" (ls.map (· ++ ",") ++ [last]) := by
  have hseparator : (",\n" : String) = "," ++ "\n" := rfl
  induction ls with
  | nil => rfl
  | cons line ls ih =>
    rw [List.map_cons, List.cons_append, List.cons_append, joinWith_cons _ _ (by simp),
      joinWith_cons _ _ (by simp), ih, hseparator]
    simp only [String.append_assoc]

end Text

namespace Kotlin

/-! ### Reading a call -/

def afterName? (name line : String) : Option String :=
  (line.toList.dropPrefix? (indent ++ name ++ " = ").toList).map String.ofList

/-- A line of a call inside the value of an argument, without the indent of the call: it is
indented further, or closes a bracket. -/
def inside? (line : String) : Option String :=
  match line.toList.dropPrefix? indent.toList with
  | some (c :: cs) => if c = ' ' ∨ c = ')' then some (String.ofList (c :: cs)) else none
  | _ => none

def insideLines : List String → List String
  | [] => []
  | line :: rest =>
    match inside? line with
    | some text => text :: insideLines rest
    | none => []

def withoutComma (value : String) : String :=
  match value.toList.dropSuffix? [','] with
  | some cs => String.ofList cs
  | none => value

def readArgument? (name : String) : List String → Option String
  | [] => none
  | line :: below =>
    match afterName? name line with
    | some first => some (withoutComma (joinWith "\n" (first :: insideLines below)))
    | none => readArgument? name below

/-- The value of an argument in the text of a call: what follows its name, up to the comma in front
of the next argument, with the indent of the call removed from all lines but the first. -/
def argument? (name call : String) : Option String := readArgument? name (pieces call)

/-- A name that can be told from what follows it and from what stands inside a value. -/
def IsName (name : String) : Prop :=
  ' ' ∉ name.toList ∧ name ≠ "" ∧ name.toList.head? ≠ some ')'

instance (name : String) : Decidable (IsName name) :=
  inferInstanceAs (Decidable (' ' ∉ name.toList ∧ name ≠ "" ∧ name.toList.head? ≠ some ')'))

theorem IsName.exists_cons {name : String} (h : IsName name) :
    ∃ c cs, name.toList = c :: cs ∧ c ≠ ' ' ∧ c ≠ ')' := by
  obtain ⟨hblank, hne, hhead⟩ := h
  obtain ⟨c, cs, hname⟩ := List.exists_cons_of_ne_nil (mt String.toList_eq_nil_iff.mp hne)
  rw [hname] at hblank hhead
  exact ⟨c, cs, hname, fun heq => hblank (heq ▸ List.mem_cons_self),
    fun heq => hhead (congrArg some heq)⟩

def argumentLine (a : String × String) : String := indent ++ a.1 ++ " = " ++ a.2

theorem withoutComma_comma (value : String) : withoutComma (value ++ ",") = value := by
  have hdrop : (value ++ ",").toList.dropSuffix? [','] = some value.toList :=
    List.dropSuffix?_eq_some_iff.mpr ⟨[','], by simp, by simp⟩
  rw [withoutComma, hdrop]
  exact String.ofList_toList

theorem withoutComma_of_last {value : String} (h : value.toList.getLast? ≠ some ',') :
    withoutComma value = value := by
  rw [withoutComma]
  split
  · next cs hdrop =>
    obtain ⟨comma, hvalue, hcomma⟩ := List.dropSuffix?_eq_some_iff.mp hdrop
    rw [hvalue, eq_of_beq hcomma] at h
    simp at h
  · rfl

theorem afterName?_argumentLine_self (a : String × String) :
    afterName? a.1 (argumentLine a) = some a.2 := by
  rw [afterName?, argumentLine, String.toList_append, List.dropPrefix?_append_of_beq _ (by simp)]
  simp

theorem afterName?_argumentLine_of_ne {name : String} {a : String × String}
    (hname : ' ' ∉ name.toList) (ha : ' ' ∉ a.1.toList) (hne : name ≠ a.1) :
    afterName? name (argumentLine a) = none := by
  rw [afterName?, Option.map_eq_none_iff, Option.eq_none_iff_forall_ne_some]
  intro rest hdrop
  obtain ⟨opening, hline, hopening⟩ := List.dropPrefix?_eq_some_iff.mp hdrop
  rw [eq_of_beq hopening] at hline
  -- Up to the blank behind it, both texts hold the name and nothing else.
  have hchars : a.1.toList ++ ' ' :: ("= " ++ a.2).toList =
      name.toList ++ ' ' :: ("= ".toList ++ rest) := by
    simpa [argumentLine] using hline
  have hword : ∀ {word : List Char}, ' ' ∉ word → ∀ more,
      (word ++ ' ' :: more).takeWhile (· != ' ') = word := by
    intro word hblank more
    rw [List.takeWhile_append_of_pos, List.takeWhile_cons_of_neg (by simp), List.append_nil]
    exact fun c hc => bne_iff_ne.mpr fun heq => hblank (heq ▸ hc)
  have hsame := congrArg (List.takeWhile (· != ' ')) hchars
  rw [hword ha, hword hname] at hsame
  exact hne (String.toList_inj.mp hsame.symm)

theorem inside?_argumentLine {a : String × String} (ha : IsName a.1) :
    inside? (argumentLine a) = none := by
  obtain ⟨c, cs, hcs, hblank, hbracket⟩ := ha.exists_cons
  have hdrop : (argumentLine a).toList.dropPrefix? indent.toList =
      some (c :: (cs ++ (" = " ++ a.2).toList)) := by
    refine List.dropPrefix?_eq_some_iff.mpr ⟨indent.toList, ?_, by simp⟩
    simp [argumentLine, hcs]
  rw [inside?, hdrop]
  simp [hblank, hbracket]

/-- The line is inside the brackets of a call that stands alone, or closes them. -/
def IsInner (line : String) : Prop := ∃ c ∈ line.toList.head?, c = ' ' ∨ c = ')'

theorem inside?_indent {line : String} (h : IsInner line) :
    inside? (indent ++ line) = some line := by
  obtain ⟨c, hc, hinner⟩ := h
  obtain ⟨cs, hcs⟩ := List.head?_eq_some_iff.mp hc
  rw [inside?, String.toList_append, List.dropPrefix?_append_of_beq _ (by simp), hcs]
  simp only [if_pos hinner, ← hcs, String.ofList_toList]

theorem insideLines_indent {ls : List String} (h : ∀ line ∈ ls, IsInner line) {next : String}
    (hnext : inside? next = none) (rest : List String) :
    insideLines (ls.map (indent ++ ·) ++ next :: rest) = ls := by
  induction ls with
  | nil => rw [List.map_nil, List.nil_append, insideLines, hnext]
  | cons line ls ih =>
    obtain ⟨hline, hls⟩ := List.forall_mem_cons.mp h
    rw [List.map_cons, List.cons_append, insideLines, inside?_indent hline, ih hls]

theorem inside?_bracket : inside? ")" = none := by decide

theorem afterName?_of_head {line : String} (h : line.toList.head? ≠ some ' ') (name : String) :
    afterName? name line = none := by
  rw [afterName?, Option.map_eq_none_iff, Option.eq_none_iff_forall_ne_some]
  intro rest hdrop
  obtain ⟨opening, hline, hopening⟩ := List.dropPrefix?_eq_some_iff.mp hdrop
  rw [hline, eq_of_beq hopening] at h
  simp [indent] at h

/-- What stands inside a value is not the beginning of an argument. -/
theorem afterName?_indent {name line : String} (hname : IsName name) (h : IsInner line) :
    afterName? name (indent ++ line) = none := by
  rw [afterName?, Option.map_eq_none_iff, Option.eq_none_iff_forall_ne_some]
  intro rest hdrop
  obtain ⟨opening, hline, hopening⟩ := List.dropPrefix?_eq_some_iff.mp hdrop
  obtain ⟨c, cs, hcs, hblank, hbracket⟩ := hname.exists_cons
  obtain ⟨d, hd, hinner⟩ := h
  rw [eq_of_beq hopening, String.toList_append, String.toList_append, String.toList_append,
    List.append_assoc, List.append_assoc, List.append_cancel_left_eq] at hline
  have hsame : d = c := by simpa [hline, hcs] using hd.symm
  rcases hinner with rfl | rfl
  · exact hblank hsame.symm
  · exact hbracket hsame.symm

theorem readArgument?_indent {name : String} (hname : IsName name) {ls : List String}
    (h : ∀ line ∈ ls, IsInner line) :
    readArgument? name (ls.map (indent ++ ·) ++ [")"]) = none := by
  induction ls with
  | nil => rw [List.map_nil, List.nil_append, readArgument?, afterName?_of_head (by decide),
      readArgument?]
  | cons line ls ih =>
    obtain ⟨hline, hls⟩ := List.forall_mem_cons.mp h
    rw [List.map_cons, List.cons_append, readArgument?, afterName?_indent hname hline, ih hls]

def listedLine (a : String × String) : String := argumentLine (a.1, a.2 ++ ",")

/-- Arguments of one line each are read as they are listed, and other names behind them. -/
theorem readArgument?_listed {name : String} (hname : ' ' ∉ name.toList)
    {own : List (String × String)} (hown : ∀ a ∈ own, IsName a.1) {next : String}
    (hnext : inside? next = none) (rest : List String) :
    readArgument? name (own.map listedLine ++ next :: rest) =
      (own.lookup name).or (readArgument? name (next :: rest)) := by
  induction own with
  | nil => rfl
  | cons a own ih =>
    obtain ⟨ha, hown⟩ := List.forall_mem_cons.mp hown
    rw [List.map_cons, List.cons_append, readArgument?, List.lookup_cons]
    by_cases hsame : name = a.1
    · -- The value ends with the line, since what stands below is not inside it.
      have hbelow : insideLines (own.map listedLine ++ next :: rest) = [] := by
        cases own with
        | nil => rw [List.map_nil, List.nil_append, insideLines, hnext]
        | cons a' own =>
          have ha' : IsName (a'.1, a'.2 ++ ",").1 := (List.forall_mem_cons.mp hown).1
          rw [List.map_cons, List.cons_append, insideLines, listedLine, inside?_argumentLine ha']
      have hvalue : afterName? name (listedLine a) = some (a.2 ++ ",") :=
        hsame ▸ afterName?_argumentLine_self (a.1, a.2 ++ ",")
      rw [hvalue, hbelow, hsame]
      simp [joinWith, withoutComma_comma]
    · have hother : afterName? name (listedLine a) = none :=
        afterName?_argumentLine_of_ne (a := (a.1, a.2 ++ ",")) hname ha.1 hsame
      rw [hother, beq_false_of_ne hsame, ih hown]

/-- An argument whose value goes on below its line, as the last of a call. -/
theorem readArgument?_nested {name : String} (hname : IsName name) {last first : String}
    (hlast : ' ' ∉ last.toList) {below : List String} (hbelow : ∀ line ∈ below, IsInner line)
    (hcomma : (joinWith "\n" (first :: below)).toList.getLast? ≠ some ',') :
    readArgument? name (argumentLine (last, first) :: (below.map (indent ++ ·) ++ [")"])) =
      [(last, joinWith "\n" (first :: below))].lookup name := by
  rw [List.lookup_cons, List.lookup_nil, readArgument?]
  by_cases hsame : name = last
  · have hvalue : afterName? name (argumentLine (last, first)) = some first :=
      hsame ▸ afterName?_argumentLine_self (last, first)
    rw [hvalue, hsame, beq_self_eq_true]
    simp only [insideLines_indent hbelow inside?_bracket, withoutComma_of_last hcomma]
  · have hvalue : afterName? name (argumentLine (last, first)) = none :=
      afterName?_argumentLine_of_ne hname.1 hlast hsame
    rw [hvalue, beq_false_of_ne hsame]
    exact readArgument?_indent hname hbelow

/-! ### The text of a call -/

def callLines (constructor : String) (own : List (String × String)) (last : List String) :
    List String :=
  (constructor ++ "(") :: own.map listedLine ++ last ++ [")"]

theorem callWith_eq {arguments : List Argument} {extra own : List (String × String)}
    {last : String × String} (h : spellArguments literal arguments ++ extra = own ++ [last])
    (constructor : String) : callWith constructor arguments extra =
      joinWith "\n" (callLines constructor own [argumentLine last]) := by
  have hlisted : (own.map argumentLine).map (· ++ ",") = own.map listedLine := by
    rw [List.map_map]
    refine List.map_congr_left fun a _ => ?_
    simp only [Function.comp_apply, listedLine, argumentLine, String.append_assoc]
  have harguments : argumentLines (own ++ [last]) " = " indent =
      joinWith "\n" (own.map listedLine ++ [argumentLine last]) := by
    rw [← hlisted, ← joinWith_comma_lineFeed, argumentLines, List.map_append]
    rfl
  have hopening : ("(\n" : String) = "(" ++ "\n" := rfl
  have hclosing : ("\n)" : String) = "\n" ++ ")" := rfl
  have hlines : own.map listedLine ++ [argumentLine last] ≠ [] := by simp
  rw [callWith, h, harguments, callLines, List.cons_append, List.cons_append,
    joinWith_cons _ _ (by simp), joinWith_append _ hlines (List.cons_ne_nil _ _), hopening,
    hclosing]
  simp only [joinWith, String.append_assoc]

/-- The last argument goes on below its line. -/
theorem callWith_eq_nested {arguments : List Argument} {extra own : List (String × String)}
    {last first : String} {rest : List String}
    (h : spellArguments literal arguments ++ extra =
      own ++ [(last, joinWith "\n" (first :: rest))]) (constructor : String) :
    callWith constructor arguments extra =
      joinWith "\n" (callLines constructor own (argumentLine (last, first) :: rest)) := by
  have hlines : argumentLine (last, joinWith "\n" (first :: rest)) =
      joinWith "\n" (argumentLine (last, first) :: rest) := append_joinWith _ _ _ _
  rw [callWith_eq h, callLines, hlines, joinWith_flatten _ (List.cons_ne_nil _ _), callLines]

theorem isInner_argumentLine (a : String × String) : IsInner (argumentLine a) :=
  ⟨' ', by simp [argumentLine, indent], Or.inl rfl⟩

structure FitsLine (a : String × String) : Prop where
  isName : IsName a.1
  name : OneLine a.1
  value : OneLine a.2

theorem FitsLine.of {name value : String} (hw : IsName name) (hn : OneLine name)
    (hv : OneLine value) : FitsLine (name, value) := ⟨hw, hn, hv⟩

theorem FitsLine.argumentLine {a : String × String} (h : FitsLine a) :
    OneLine (argumentLine a) := by
  simp only [Kotlin.argumentLine, oneLine_append]
  exact ⟨⟨⟨by decide, h.name⟩, by decide⟩, h.value⟩

theorem FitsLine.listedLine {a : String × String} (h : FitsLine a) : OneLine (listedLine a) :=
  FitsLine.argumentLine ⟨h.isName, h.name, oneLine_append.mpr ⟨h.value, by decide⟩⟩

/-- A call whose arguments fit one line each has nothing but its class at the left. -/
theorem exists_lines_callWith {constructor : String} (hc : OneLine constructor)
    {arguments : List Argument} (hne : arguments ≠ [])
    (h : ∀ a ∈ spellArguments literal arguments, FitsLine a) :
    ∃ inner, callWith constructor arguments [] =
        joinWith "\n" ((constructor ++ "(") :: inner ++ [")"]) ∧
      OneLine (constructor ++ "(") ∧ ∀ line ∈ inner, OneLine line ∧ IsInner line := by
  have hspelled : spellArguments literal arguments ≠ [] := by simpa [spellArguments] using hne
  obtain ⟨own, last, hown⟩ := (List.eq_nil_or_concat _).resolve_left hspelled
  rw [List.concat_eq_append] at hown
  rw [hown, List.forall_mem_append, List.forall_mem_singleton] at h
  refine ⟨own.map listedLine ++ [argumentLine last], callWith_eq (by rw [hown, List.append_nil]) _,
    oneLine_append.mpr ⟨hc, by decide⟩, List.forall_mem_append.mpr ⟨?_, ?_⟩⟩
  · exact List.forall_mem_map.mpr fun a ha => ⟨(h.1 a ha).listedLine, isInner_argumentLine _⟩
  · exact List.forall_mem_singleton.mpr ⟨h.2.argumentLine, isInner_argumentLine _⟩

/-- A call is read as its arguments are listed, also where the last of them goes on below its
line. -/
theorem argument?_callWith {name : String} (hname : IsName name) {constructor : String}
    (hc : OneLine constructor) (hhead : (constructor ++ "(").toList.head? ≠ some ' ')
    {arguments : List Argument} {extra own : List (String × String)} {last first : String}
    {below : List String}
    (h : spellArguments literal arguments ++ extra =
      own ++ [(last, joinWith "\n" (first :: below.map (indent ++ ·)))])
    (hown : ∀ a ∈ own, FitsLine a) (hlast : FitsLine (last, first))
    (hbelow : ∀ line ∈ below, OneLine line ∧ IsInner line)
    (hcomma : (joinWith "\n" (first :: below)).toList.getLast? ≠ some ',') :
    argument? name (callWith constructor arguments extra) =
      (own ++ [(last, joinWith "\n" (first :: below))]).lookup name := by
  have hlines : ∀ line ∈ callLines constructor own
      (argumentLine (last, first) :: below.map (indent ++ ·)), Unbroken line := by
    simp only [callLines, List.forall_mem_append, List.forall_mem_cons, List.forall_mem_map]
    refine ⟨⟨⟨?_, fun a ha => (hown a ha).listedLine.unbroken⟩, hlast.argumentLine.unbroken,
      fun line hline => ?_⟩, by decide, fun line hline => absurd hline List.not_mem_nil⟩
    · exact unbroken_append.mpr ⟨hc.unbroken, by decide⟩
    · exact unbroken_append.mpr ⟨by decide, (hbelow line hline).1.unbroken⟩
  have hnested := readArgument?_nested hname hlast.isName.1 (fun line hline =>
    (hbelow line hline).2) hcomma
  rw [argument?, callWith_eq_nested h, callLines, pieces_joinWith hlines, List.cons_append,
    List.cons_append, readArgument?, afterName?_of_head hhead, List.append_assoc, List.cons_append,
    List.lookup_append, ← hnested]
  exact readArgument?_listed hname.1 (fun a ha => (hown a ha).isName)
    (inside?_argumentLine hlast.isName) _

/-! ### Labeled metrics -/

variable {k : Kotlin}

/-- Texts are escaped, so that every value keeps to one line. -/
theorem oneLine_literal (l : Literal) : OneLine (literal l) := by
  have hword : ∀ {front word : String}, OneLine front → Identifier.Plain word →
      OneLine (front ++ pascal word) :=
    fun hfront hword => oneLine_append.mpr ⟨hfront, oneLine_of_plain (plain_pascal hword)⟩
  have hstring : ∀ s, OneLine (string s) := (Target.kotlin ⟨"", ""⟩).oneLine_string
  have hitems : ∀ items, OneLine (strings items) := fun items =>
    oneLine_joinWith (by decide) (List.forall_mem_map.mpr fun s _ => hstring s)
  cases l with
  | bool b => cases b <;> decide
  | int i => cases i with
    | ofNat n => exact oneLine_append.mpr ⟨oneLine_of_plain (plain_natToString n), by decide⟩
    | negSucc n =>
      exact oneLine_append.mpr ⟨oneLine_append.mpr
        ⟨by decide, oneLine_of_plain (plain_natToString (n + 1))⟩, by decide⟩
  | string s => exact hstring s
  | lifetime l => exact hword (by decide) (plain_lifetime l)
  | timeUnit u => exact hword (by decide) (plain_timeUnit u)
  | memoryUnit u => exact hword (by decide) (plain_memoryUnit u)
  | histogramType t => exact hword (by decide) (plain_histogramType t)
  | list items | set items =>
    exact oneLine_append.mpr ⟨oneLine_append.mpr ⟨by decide, hitems items⟩, by decide⟩


theorem fitsLine_spellArguments {arguments : List Argument}
    (h : ∀ a ∈ arguments, IsName (camel a.name)) :
    ∀ a ∈ spellArguments literal arguments, FitsLine a :=
  List.forall_mem_map.mpr fun a ha => ⟨h a ha, oneLine_camel a.name, oneLine_literal a.value⟩

theorem map_camel_argumentsNamed (m : Metric) (name : String) :
    (m.argumentsNamed name).map (camel ·.name) =
      ["category", "name", "sendInPings", "lifetime", "disabled"] := by
  have hnames : ["category", "name", "send_in_pings", "lifetime", "disabled"].map camel =
      ["category", "name", "sendInPings", "lifetime", "disabled"] := by decide
  exact hnames

theorem isName_argumentsNamed (m : Metric) (name : String) :
    ∀ a ∈ m.argumentsNamed name, IsName (camel a.name) := by
  have h : ∀ word ∈ (m.argumentsNamed name).map (camel ·.name), IsName word := by
    rw [map_camel_argumentsNamed]
    simp only [List.forall_mem_cons, List.not_mem_nil, false_imp_iff, implies_true, and_true]
    exact ⟨by decide, by decide, by decide, by decide, by decide⟩
  exact fun a ha => h _ (List.mem_map_of_mem ha)

theorem oneLine_className (v : Variant) : OneLine (k.className v).name := by
  rw [name_className]
  cases v <;> decide

theorem head?_className (v : Variant) :
    ((k.className v).name ++ "(").toList.head? ≠ some ' ' := by
  rw [name_className]
  cases v <;> decide

end Kotlin

def LabeledInner.type : LabeledInner → MetricType
  | .boolean => .boolean
  | .counter => .counter
  | .string => .string

/-- The metric that stands alone has what the labeled one passes on to the metric inside it. -/
structure Metric.Wraps (m : Metric) (inner : LabeledInner) (plain : Metric) : Prop where
  type : plain.type = inner.type
  name : plain.name = m.name ++ "_label"
  category : plain.category = m.category
  sendInPings : plain.sendInPings = m.sendInPings
  lifetime : plain.lifetime = m.lifetime
  disabled : plain.disabled = m.disabled

namespace Kotlin

variable {k : Kotlin} {m plain : Metric} {inner : LabeledInner} {labels : Option (List String)}

/-- The inner types have no arguments of their own. -/
theorem call_wrapped (h : m.Wraps inner plain) :
    k.call (.metric plain) = k.subMetricCall m inner := by
  have htype : plain.type.arguments = [] ∧ plain.variant = inner.variant ∧
      k.extraArguments plain = [] := by
    rw [Metric.variant, extraArguments, h.type]
    cases inner <;> exact ⟨rfl, rfl, rfl⟩
  have harguments : plain.arguments = m.argumentsNamed (m.name ++ "_label") := by
    rw [Metric.arguments, htype.1, List.append_nil, Metric.commonArguments, Metric.argumentsNamed,
      h.category, h.name, h.sendInPings, h.lifetime, h.disabled]
    rfl
  rw [call, metricCall, htype.2.1, htype.2.2, harguments, subMetricCall]

/-- The arguments of the call of a labeled metric in front of the metric inside it. -/
def ownArguments (m : Metric) (labels : Option (List String)) : List (String × String) :=
  spellArguments literal m.arguments ++ labels.toList.map fun l => ("labels", literal (.set l))

/-- The metric inside a labeled one is indented below the line on which it begins. -/
theorem exists_lines_subMetricCall (k : Kotlin) (m : Metric) (inner : LabeledInner) :
    ∃ first below, OneLine first ∧ (∀ line ∈ below, OneLine line ∧ IsInner line) ∧
      k.subMetricCall m inner = joinWith "\n" (first :: below) ∧
      indentContinuation indent (k.subMetricCall m inner) =
        joinWith "\n" (first :: below.map (indent ++ ·)) := by
  have hne : m.argumentsNamed (m.name ++ "_label") ≠ [] := List.cons_ne_nil _ _
  obtain ⟨inside, hcall, hfirst, hinside⟩ := exists_lines_callWith
    (oneLine_className (k := k) inner.variant) hne
    (fitsLine_spellArguments (isName_argumentsNamed m (m.name ++ "_label")))
  have hbracket : OneLine ")" ∧ IsInner ")" := ⟨by decide, ')', rfl, Or.inr rfl⟩
  have hbelow : ∀ line ∈ inside ++ [")"], OneLine line ∧ IsInner line :=
    List.forall_mem_append.mpr ⟨hinside, List.forall_mem_singleton.mpr hbracket⟩
  refine ⟨_, inside ++ [")"], hfirst, hbelow, hcall, ?_⟩
  rw [subMetricCall, hcall]
  exact indentContinuation_joinWith _ (List.forall_mem_cons.mpr
    ⟨hfirst, fun line hline => (hbelow line hline).1⟩) (by decide)

theorem fitsLine_ownArguments (h : m.arguments = m.argumentsNamed m.name) :
    ∀ a ∈ ownArguments m labels, FitsLine a := by
  refine List.forall_mem_append.mpr ⟨fitsLine_spellArguments ?_, List.forall_mem_map.mpr ?_⟩
  · rw [h]
    exact isName_argumentsNamed m m.name
  · exact fun l _ => .of (by decide) (by decide) (oneLine_literal (.set l))

theorem argument?_call {name : String} (hname : IsName name) (h : m.type = .labeled inner labels) :
    argument? name (k.call (.metric m)) =
      (ownArguments m labels ++ [("subMetric", k.subMetricCall m inner)]).lookup name := by
  have harguments : m.arguments = m.argumentsNamed m.name := by
    rw [Metric.arguments, h]
    exact List.append_nil _
  obtain ⟨first, below, hfirst, hbelow, hcall, hindented⟩ := exists_lines_subMetricCall k m inner
  have hlisted : spellArguments literal m.arguments ++ k.extraArguments m = ownArguments m labels ++
      [("subMetric", joinWith "\n" (first :: below.map (indent ++ ·)))] := by
    rw [extraArguments, h, ownArguments, List.append_assoc, ← hindented]
    cases labels <;> rfl
  have hcomma : (joinWith "\n" (first :: below)).toList.getLast? ≠ some ',' := by
    rw [← hcall, subMetricCall, getLast?_callWith]
    decide
  rw [hcall]
  exact argument?_callWith hname (oneLine_className m.variant) (head?_className m.variant) hlisted
    (fitsLine_ownArguments harguments) (.of (by decide) (by decide) hfirst) hbelow hcomma

theorem lookup_spellArguments {arguments : List Argument}
    (hnames : (arguments.map (camel ·.name)).Nodup) {a : Argument} (ha : a ∈ arguments) :
    (spellArguments literal arguments).lookup (camel a.name) = some (literal a.value) := by
  induction arguments with
  | nil => exact absurd ha List.not_mem_nil
  | cons b arguments ih =>
    obtain ⟨hb, hrest⟩ := List.nodup_cons.mp hnames
    rw [spellArguments, List.map_cons, List.lookup_cons]
    rcases List.mem_cons.mp ha with rfl | ha
    · rw [beq_self_eq_true]
    · have hmem : camel a.name ∈ arguments.map (camel ·.name) := List.mem_map_of_mem ha
      have hne : camel a.name ≠ camel b.name := by
        intro heq
        rw [heq] at hmem
        exact hb hmem
      rw [beq_false_of_ne hne]
      exact ih hrest ha

/-- Labels and the inner metric are not among the arguments that every metric has. -/
theorem lookup_ownArguments (h : m.arguments = m.argumentsNamed m.name) {name : String}
    (hname : name ∉ ["category", "name", "sendInPings", "lifetime", "disabled"]) :
    (ownArguments m labels).lookup name =
      (labels.toList.map fun l => ("labels", literal (.set l))).lookup name := by
  have hnone : (spellArguments literal m.arguments).lookup name = none := by
    refine List.lookup_eq_none_iff.mpr (List.forall_mem_map.mpr fun a ha => bne_iff_ne.mpr ?_)
    rintro rfl
    rw [← map_camel_argumentsNamed m m.name, ← h] at hname
    exact hname (List.mem_map_of_mem ha)
  rw [ownArguments, List.lookup_append, hnone, Option.none_or]

/-- The metric inside a labeled one is constructed as the metric that stands alone under the longer
name, indented below its first line; all other arguments, the name among them, are those of the
labeled metric itself. -/
theorem argument?_labeled (k : Kotlin) (h : m.type = .labeled inner labels) :
    (∀ plain, m.Wraps inner plain →
      argument? "subMetric" (k.call (.metric m)) = some (k.call (.metric plain))) ∧
    (∀ a ∈ m.arguments, argument? (camel a.name) (k.call (.metric m)) = some (literal a.value)) ∧
    argument? "name" (k.call (.metric m)) = some (string m.name) ∧
    argument? "labels" (k.call (.metric m)) = labels.map fun l => literal (.set l) := by
  have harguments : m.arguments = m.argumentsNamed m.name := by
    rw [Metric.arguments, h]
    exact List.append_nil _
  have hcommon : ∀ a ∈ m.arguments,
      argument? (camel a.name) (k.call (.metric m)) = some (literal a.value) := by
    intro a ha
    have hnames : (m.arguments.map (camel ·.name)).Nodup := by
      rw [harguments, map_camel_argumentsNamed]
      decide
    rw [argument?_call (isName_argumentsNamed m m.name a (harguments ▸ ha)) h, ownArguments,
      List.append_assoc, List.lookup_append, lookup_spellArguments hnames ha, Option.some_or]
  refine ⟨fun plain hplain => ?_, hcommon, ?_, ?_⟩
  · rw [argument?_call (by decide) h, List.lookup_append,
      lookup_ownArguments harguments (by decide), call_wrapped hplain]
    cases labels <;> rfl
  · have hname : camel "name" = "name" := by decide
    have hread := hcommon ⟨"name", .string m.name⟩ (by simp [harguments, Metric.argumentsNamed])
    rwa [hname] at hread
  · rw [argument?_call (by decide) h, List.lookup_append,
      lookup_ownArguments harguments (by decide)]
    cases labels <;> rfl

/-- A labeled metric whose texts hold line feeds, quotes and what generated calls consist of. -/
def unrulyLabeled : Metric :=
  { sampleMetric "a\"$" "taps\n    subMetric = )" with
    type := .labeled .string (some ["x,\n", "    )"]), disabled := true }

theorem argument?_labeled_unruly :
    unrulyLabeled.type = .labeled .string (some ["x,\n", "    )"]) ∧
    argument? "subMetric" (call ⟨"a", "b"⟩ (.metric unrulyLabeled)) = some (call ⟨"a", "b"⟩
      (.metric { unrulyLabeled with
        type := .string, name := "taps\n    subMetric = )_label", expires := .expired })) ∧
    argument? "category" (call ⟨"a", "b"⟩ (.metric unrulyLabeled)) = some "\"a\\\"\\$\"" ∧
    argument? "name" (call ⟨"a", "b"⟩ (.metric unrulyLabeled)) =
      some "\"taps\\n    subMetric = )\"" ∧
    argument? "labels" (call ⟨"a", "b"⟩ (.metric unrulyLabeled)) =
      some "setOf(\"x,\\n\", \"    )\")" := by
  have hcategory : camel "category" = "category" := by decide
  obtain ⟨hinner, hcommon, hname, hlabels⟩ := argument?_labeled (m := unrulyLabeled) ⟨"a", "b"⟩ rfl
  have hread := hcommon ⟨"category", .string "a\"$"⟩ List.mem_cons_self
  rw [hcategory] at hread
  exact ⟨rfl, hinner _ ⟨rfl, rfl, rfl, rfl, rfl, rfl⟩, hread.trans (by decide),
    hname.trans (by decide), hlabels.trans (by decide)⟩

end Kotlin

end TelemetryBindings
