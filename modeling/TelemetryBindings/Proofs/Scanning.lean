import TelemetryBindings.Proofs.Comments
import TelemetryBindings.Proofs.Names
import TelemetryBindings.Text.Quoted

/-!
# Scanning generated text

A scanner that reads a text from left to right and keeps apart code, strings between double quotes,
line comments and block comments. In code it keeps track of the brackets that are open. Texts are
described by the brackets that they open and close, and such descriptions compose: a text that
leaves all brackets as they were can stand anywhere in code.
-/
namespace TelemetryBindings.Text

open Identifier

/-- What the scanner is inside of. -/
inductive Mode where
  | code
  /-- After a slash, which may begin a comment. -/
  | slash
  | string
  /-- After a backslash in a string. -/
  | escaped
  | lineComment
  | blockComment
  /-- After an asterisk in a block comment, which may end it. -/
  | star
  /-- After a closing bracket that was not due. -/
  | mismatch
  deriving DecidableEq, Repr

def Mode.isOutside : Mode → Bool
  | .code | .slash => true
  | _ => false

def closing? : Char → Option Char
  | '(' => some ')'
  | '[' => some ']'
  | '\x7b' => some '\x7d'
  | _ => none

def isClosing (c : Char) : Bool := c = ')' || c = ']' || c = '\x7d'

structure Scanner where
  mode : Mode
  /-- The brackets that close the open ones, innermost first. -/
  due : List Char
  deriving DecidableEq, Repr

namespace Scanner

def initial : Scanner := ⟨.code, []⟩

/-- A character of code that begins neither a string nor a comment. -/
def bracket (due : List Char) (c : Char) : Scanner :=
  match closing? c with
  | some d => ⟨.code, d :: due⟩
  | none =>
    if isClosing c then
      if due.head? = some c then ⟨.code, due.tail⟩ else ⟨.mismatch, due⟩
    else ⟨.code, due⟩

def codeStep (due : List Char) (c : Char) : Scanner :=
  if c = '"' then ⟨.string, due⟩
  else if c = '/' then ⟨.slash, due⟩
  else bracket due c

def step (s : Scanner) (c : Char) : Scanner :=
  match s.mode with
  | .code => codeStep s.due c
  | .slash =>
    if c = '/' then ⟨.lineComment, s.due⟩
    else if c = '*' then ⟨.blockComment, s.due⟩
    else codeStep s.due c
  | .string =>
    if c = '"' then ⟨.code, s.due⟩ else if c = '\\' then ⟨.escaped, s.due⟩ else s
  | .escaped => ⟨.string, s.due⟩
  | .lineComment => if c = '\n' then ⟨.code, s.due⟩ else s
  | .blockComment => if c = '*' then ⟨.star, s.due⟩ else s
  | .star =>
    if c = '/' then ⟨.code, s.due⟩ else if c = '*' then s else ⟨.blockComment, s.due⟩
  | .mismatch => s

def run (s : Scanner) (text : List Char) : Scanner := text.foldl step s

@[simp] theorem run_nil (s : Scanner) : s.run [] = s := rfl

@[simp] theorem run_cons (s : Scanner) (c : Char) (cs : List Char) :
    s.run (c :: cs) = (s.step c).run cs := rfl

@[simp] theorem run_append (s : Scanner) (x y : List Char) :
    s.run (x ++ y) = (s.run x).run y := List.foldl_append

end Scanner

/-- The text ends outside any string or comment, and every bracket in its code has its partner. -/
structure LexicallyClosed (text : String) : Prop where
  outside : (Scanner.initial.run text.toList).mode.isOutside
  balanced : (Scanner.initial.run text.toList).due = []

instance (text : String) : Decidable (LexicallyClosed text) :=
  decidable_of_iff ((Scanner.initial.run text.toList).mode.isOutside ∧
    (Scanner.initial.run text.toList).due = []) ⟨fun h => ⟨h.1, h.2⟩, fun h => ⟨h.1, h.2⟩⟩

example : LexicallyClosed "f(\"(\\\"\", [/* ] */ 1])\n" := by decide

/-! ### Characters without a meaning -/

/-- The characters that the scanner takes decisions on. -/
def isMark : Char → Bool
  | '"' | '/' | '*' | '\\' | '\n' | '(' | ')' | '[' | ']' | '\x7b' | '\x7d' => true
  | _ => false

def Idle (text : String) : Prop := ∀ c ∈ text.toList, isMark c = false

instance (text : String) : Decidable (Idle text) :=
  decidable_of_iff (text.toList.any isMark = false) (by simp [Idle])

theorem idle_empty : Idle "" := fun _ hc => absurd hc List.not_mem_nil

@[simp] theorem idle_append {a b : String} : Idle (a ++ b) ↔ Idle a ∧ Idle b := by
  rw [Idle, String.toList_append, List.forall_mem_append]
  rfl

theorem isMark_of_isNameChar {c : Char} (h : isNameChar c) : isMark c = false := by
  unfold isMark
  split
  case h_12 => rfl
  all_goals exact absurd h (by decide)

theorem idle_of_plain {s : String} (h : Plain s) : Idle s :=
  fun c hc => isMark_of_isNameChar (h c hc)

namespace Scanner

variable {s : Scanner}

/-- After a character without a meaning. -/
def settle (s : Scanner) : Scanner :=
  match s.mode with
  | .slash => ⟨.code, s.due⟩
  | .escaped => ⟨.string, s.due⟩
  | .star => ⟨.blockComment, s.due⟩
  | _ => s

theorem step_of_not_isMark {c : Char} (h : isMark c = false) (s : Scanner) :
    s.step c = s.settle := by
  unfold isMark at h
  split at h
  case h_12 =>
    obtain ⟨mode, due⟩ := s
    cases mode <;> simp_all [step, settle, codeStep, bracket, closing?, isClosing]
  all_goals cases h

/-- What stands before the end of a line without a meaning does not show after it. -/
theorem step_settle_lineFeed (s : Scanner) : s.settle.step '\n' = s.step '\n' := by
  obtain ⟨mode, due⟩ := s
  cases mode <;> rfl

theorem settle_step_lineFeed (s : Scanner) : (s.step '\n').settle = s.step '\n' := by
  obtain ⟨mode, due⟩ := s
  cases mode <;> rfl

theorem step_step_lineFeed (s : Scanner) : (s.step '\n').step '\n' = s.step '\n' := by
  obtain ⟨mode, due⟩ := s
  cases mode <;> rfl

theorem run_of_idle {text : String} (h : Idle text) (hs : s.settle = s) :
    s.run text.toList = s := by
  rw [Idle] at h
  generalize text.toList = cs at h ⊢
  induction cs with
  | nil => rfl
  | cons c cs ih =>
    obtain ⟨hc, hcs⟩ := List.forall_mem_cons.mp h
    rw [run_cons, step_of_not_isMark hc, hs, ih hcs]

theorem step_run_of_idle {text : String} (h : Idle text) (s : Scanner) :
    (s.run text.toList).step '\n' = s.step '\n' := by
  rw [Idle] at h
  generalize text.toList = cs at h ⊢
  induction cs generalizing s with
  | nil => rfl
  | cons c cs ih =>
    obtain ⟨hc, hcs⟩ := List.forall_mem_cons.mp h
    rw [run_cons, ih _ hcs, step_of_not_isMark hc, step_settle_lineFeed]

end Scanner

/-! ### Brackets that a text opens and closes -/

/-- In code with the brackets `before` due first, the text leads to code with `after` due in their
place. -/
def Takes (before after : List Char) (text : String) : Prop :=
  ∀ due, Scanner.run ⟨.code, before ++ due⟩ text.toList = ⟨.code, after ++ due⟩

namespace Scanner

def onto (s : Scanner) (rest : List Char) : Scanner := ⟨s.mode, s.due ++ rest⟩

theorem bracket_onto {due : List Char} {c : Char} (h : (bracket due c).mode ≠ .mismatch)
    (rest : List Char) : bracket (due ++ rest) c = (bracket due c).onto rest := by
  cases hclosing : closing? c with
  | some d => simp [bracket, hclosing, onto]
  | none =>
    simp only [bracket, hclosing] at h ⊢
    by_cases hc : isClosing c = true
    · cases due with
      | nil => simp [hc] at h
      | cons d due =>
        by_cases hd : d = c
        · simp [hc, hd, onto]
        · simp [hc, hd] at h
    · simp [hc, onto]

theorem codeStep_onto {due : List Char} {c : Char} (h : (codeStep due c).mode ≠ .mismatch)
    (rest : List Char) : codeStep (due ++ rest) c = (codeStep due c).onto rest := by
  unfold codeStep at h ⊢
  split_ifs at h ⊢
  · rfl
  · rfl
  · exact bracket_onto h rest

/-- What the scanner does without a mismatch, it does with other brackets around the text. -/
theorem step_onto {s : Scanner} {c : Char} (h : (s.step c).mode ≠ .mismatch) (rest : List Char) :
    (s.onto rest).step c = (s.step c).onto rest := by
  obtain ⟨mode, due⟩ := s
  cases mode with
  | code => exact codeStep_onto h rest
  | slash =>
    simp only [step, onto] at h ⊢
    split_ifs at h ⊢
    · rfl
    · rfl
    · exact codeStep_onto h rest
  | escaped | mismatch => rfl
  | string | lineComment | blockComment | star =>
    simp only [step, onto]
    split_ifs <;> rfl

theorem run_mismatch (due text : List Char) : run ⟨.mismatch, due⟩ text = ⟨.mismatch, due⟩ := by
  induction text with
  | nil => rfl
  | cons c cs ih => exact ih

theorem run_onto {text : List Char} {s : Scanner} (h : (s.run text).mode ≠ .mismatch)
    (rest : List Char) : (s.onto rest).run text = (s.run text).onto rest := by
  induction text generalizing s with
  | nil => rfl
  | cons c cs ih =>
    have hstep : (s.step c).mode ≠ .mismatch := by
      intro hmismatch
      have hrun : (s.step c).run cs = s.step c := by
        rw [show s.step c = ⟨.mismatch, (s.step c).due⟩ from hmismatch ▸ rfl, run_mismatch]
      exact h (by rw [run_cons, hrun, hmismatch])
    rw [run_cons, step_onto hstep, ih h, run_cons]

end Scanner

/-- It is enough to scan the text without other brackets around it. -/
theorem takes_iff {before after : List Char} {text : String} :
    Takes before after text ↔ Scanner.run ⟨.code, before⟩ text.toList = ⟨.code, after⟩ := by
  constructor
  · intro h
    simpa using h []
  · intro h rest
    have hmode : (Scanner.run ⟨.code, before⟩ text.toList).mode ≠ .mismatch := by simp [h]
    have hrun := Scanner.run_onto hmode rest
    rwa [h] at hrun

instance (before after : List Char) (text : String) : Decidable (Takes before after text) :=
  decidable_of_iff _ takes_iff.symm

def Closed (text : String) : Prop := Takes [] [] text

instance (text : String) : Decidable (Closed text) := inferInstanceAs (Decidable (Takes [] [] text))

section

variable {before middle after : List Char} {a b text : String}

theorem Takes.append (ha : Takes before middle a) (hb : Takes middle after b) :
    Takes before after (a ++ b) := by
  intro due
  rw [String.toList_append, Scanner.run_append, ha due, hb due]

theorem Closed.append (ha : Closed a) (hb : Closed b) : Closed (a ++ b) := Takes.append ha hb

/-- Closed texts do not depend on the brackets around them. -/
theorem Closed.within (h : Closed text) (due : List Char) : Takes due due text :=
  fun rest => h (due ++ rest)

theorem closed_of_idle (h : Idle text) : Closed text := fun _ => Scanner.run_of_idle h rfl

theorem closed_joinWith {separator : String} (hs : Closed separator) {parts : List String}
    (h : ∀ part ∈ parts, Closed part) : Closed (joinWith separator parts) := by
  match parts with
  | [] => exact closed_of_idle idle_empty
  | [part] => exact h part List.mem_cons_self
  | part :: next :: rest =>
    have hrest := closed_joinWith hs fun p hp => h p (List.mem_cons_of_mem part hp)
    rw [joinWith.eq_3 _ _ _ (by simp)]
    exact ((h part List.mem_cons_self).append hs).append hrest

theorem closed_unlines {ls : List String} (h : ∀ line ∈ ls, Closed line) :
    Closed (unlines ls) := by
  induction ls with
  | nil => exact closed_of_idle idle_empty
  | cons line ls ih =>
    obtain ⟨hline, hls⟩ := List.forall_mem_cons.mp h
    have hend : Closed "\n" := by decide
    exact (hline.append hend).append (ih hls)

theorem Closed.lexicallyClosed (h : Closed text) : LexicallyClosed text := by
  have hrun : Scanner.initial.run text.toList = Scanner.initial := h []
  exact ⟨by rw [hrun]; rfl, by rw [hrun]; rfl⟩

end

/-! ### Quoted texts -/

/-- A notation that writes no character in a way that ends the string around it. -/
def StaysQuoted (written : Char → List Char) : Prop :=
  ∀ c due, Scanner.run ⟨.string, due⟩ (written c) = ⟨.string, due⟩

theorem Scanner.step_string {c : Char} (hquote : c ≠ '"') (hbackslash : c ≠ '\\')
    (due : List Char) : step ⟨.string, due⟩ c = ⟨.string, due⟩ := by
  simp [step, hquote, hbackslash]

theorem staysQuoted_jsonEscape : StaysQuoted jsonEscape := by
  intro c due
  unfold jsonEscape
  split
  case h_8 hquote hbackslash _ _ _ _ _ =>
    split
    · have hdigit : ∀ d < 16, Nat.digitChar d ≠ '"' ∧ Nat.digitChar d ≠ '\\' := by decide
      have hdigits : ∀ n, Scanner.step ⟨.string, due⟩ (Nat.digitChar (n % 16)) = ⟨.string, due⟩ :=
        fun n => Scanner.step_string (hdigit _ (Nat.mod_lt n (by decide))).1
          (hdigit _ (Nat.mod_lt n (by decide))).2 due
      have hletter : Scanner.run ⟨.string, due⟩ ['\\', 'u'] = ⟨.string, due⟩ := rfl
      rw [show '\\' :: 'u' :: hexDigits c.toNat = ['\\', 'u'] ++ hexDigits c.toNat from rfl,
        Scanner.run_append, hletter]
      simp [hexDigits, hdigits]
    · exact Scanner.step_string hquote hbackslash due
  all_goals rfl

theorem staysQuoted_plainEscape : StaysQuoted plainEscape := by
  intro c due
  unfold plainEscape
  split
  case h_6 hquote hbackslash _ _ _ => exact Scanner.step_string hquote hbackslash due
  all_goals rfl

theorem staysQuoted_templateEscape : StaysQuoted templateEscape := by
  intro c due
  rw [templateEscape]
  split
  · rfl
  · exact staysQuoted_plainEscape c due

/-- Every text can be quoted. -/
theorem closed_quote {written : Char → List Char} (hw : StaysQuoted written) (text : String) :
    Closed (quote written text) := by
  intro due
  have hinside : Scanner.run ⟨.string, due⟩ (text.toList.flatMap written) = ⟨.string, due⟩ := by
    induction text.toList with
    | nil => rfl
    | cons c cs ih => rw [List.flatMap_cons, Scanner.run_append, hw c due, ih]
  rw [quote, String.toList_ofList, quoteChars, Scanner.run_append, Scanner.run_cons]
  exact congrArg (Scanner.run · ['"']) hinside

/-! ### Lines -/

section

variable {s : Scanner}

theorem splitLines_eq_nil_iff {text : List Char} : splitLines text = [] ↔ text = [] := by
  fun_cases splitLines text with
  | case1 => simp
  | case2 => simp
  | case3 => simp
  | case4 c cs _ _ => cases splitLines cs <;> simp [consLine]

/-- Dividing a text into lines loses carriage returns and the last line feed, which do not matter if
a line feed follows. -/
theorem run_splitLines {text first tail : List Char} {rest : List (List Char)}
    (h : splitLines text = first :: rest)
    (htail : text.getLast? = some '\n' → tail.head? = some '\n') (s : Scanner) :
    s.run (first ++ rest.flatMap ('\n' :: ·) ++ tail) = s.run (text ++ tail) := by
  have hnext : ∀ {cs : List Char} (s : Scanner), (cs = [] → tail.head? = some '\n') →
      (∀ {first rest}, splitLines cs = first :: rest → ∀ s : Scanner,
        s.run (first ++ rest.flatMap ('\n' :: ·) ++ tail) = s.run (cs ++ tail)) →
      s.run ((splitLines cs).flatMap ('\n' :: ·) ++ tail) = (s.step '\n').run (cs ++ tail) := by
    intro cs s hend hrun
    cases hlines : splitLines cs with
    | nil =>
      obtain rfl := splitLines_eq_nil_iff.mp hlines
      obtain ⟨rest, rfl⟩ := List.head?_eq_some_iff.mp (hend rfl)
      simp [Scanner.step_step_lineFeed]
    | cons first rest => simpa using hrun hlines (s.step '\n')
  fun_induction splitLines text generalizing first rest s with
  | case1 => cases h
  | case2 cs ih =>
    cases h
    refine hnext s (fun hnil => htail (by simp [hnil])) fun hlines => ih hlines fun hlast => ?_
    exact htail (by simp [List.getLast?_cons, hlast])
  | case3 cs ih =>
    cases h
    have hreturn : (s.step '\r').step '\n' = s.step '\n' := by
      have hmark : isMark '\r' = false := by decide
      rw [Scanner.step_of_not_isMark hmark, Scanner.step_settle_lineFeed]
    have hcs := hnext s (fun hnil => htail (by simp [hnil])) fun hlines => ih hlines fun hlast =>
      htail (by simp [List.getLast?_cons, hlast])
    simpa [hreturn] using hcs
  | case4 c cs hfeed hreturn ih =>
    cases hlines : splitLines cs with
    | nil =>
      obtain rfl := splitLines_eq_nil_iff.mp hlines
      rw [hlines, consLine, List.cons.injEq] at h
      obtain ⟨rfl, rfl⟩ := h
      simp
    | cons f r =>
      rw [hlines, consLine, List.cons.injEq] at h
      obtain ⟨rfl, rfl⟩ := h
      simpa using ih hlines (fun hlast => htail (by simp [List.getLast?_cons, hlast])) (s.step c)

theorem run_lines {text first : String} {rest : List String} (h : lines text = first :: rest)
    (tail : List Char) (htail : text.toList.getLast? = some '\n' → tail.head? = some '\n')
    (s : Scanner) :
    s.run ((first.toList ++ rest.flatMap fun line => '\n' :: line.toList) ++ tail) =
      s.run (text.toList ++ tail) := by
  obtain ⟨first, rest, hsplit, rfl, rfl⟩ := List.map_eq_cons_iff.mp h
  simpa [List.flatMap_map] using run_splitLines hsplit htail s

theorem toList_joinWith_lineFeed (first : String) (rest : List String) :
    (joinWith "\n" (first :: rest)).toList =
      first.toList ++ rest.flatMap fun line => '\n' :: line.toList := by
  induction rest generalizing first with
  | nil => simp [joinWith]
  | cons next rest ih =>
    rw [joinWith.eq_3 _ _ _ (by simp), String.toList_append, String.toList_append, ih]
    simp

theorem toList_unlines_cons (first : String) (rest : List String) :
    (unlines (first :: rest)).toList =
      (first.toList ++ rest.flatMap fun line => '\n' :: line.toList) ++ ['\n'] := by
  induction rest generalizing first with
  | nil => simp [unlines]
  | cons next rest ih =>
    rw [unlines, String.toList_append, String.toList_append, ih]
    simp

/-- The lines of a text follow each other as the text does. -/
theorem closed_unlines_lines {text : String} (h : Closed text) :
    Closed (unlines (lines text)) := by
  cases hlines : lines text with
  | nil => exact closed_of_idle idle_empty
  | cons first rest =>
    intro due
    rw [toList_unlines_cons, run_lines hlines _ fun _ => rfl, Scanner.run_append, h due]
    rfl

/-! ### Indentation -/

/-- At the beginning of a line, the scanner reads a changed line as the line itself. -/
def Indents (f : String → String) : Prop :=
  ∀ line, ∀ s : Scanner, s.settle = s → s.run (f line).toList = s.run line.toList

theorem indents_append {indent : String} (h : Idle indent) : Indents (indent ++ ·) := by
  intro line s hs
  rw [String.toList_append, Scanner.run_append, Scanner.run_of_idle h hs]

theorem run_unlines_map {f : String → String} (hf : Indents f) (ls : List String)
    (hs : s.settle = s) : s.run (unlines (ls.map f)).toList = s.run (unlines ls).toList := by
  induction ls generalizing s with
  | nil => rfl
  | cons line ls ih =>
    simp only [List.map_cons, unlines, String.toList_append, Scanner.run_append, hf line s hs]
    exact ih (Scanner.settle_step_lineFeed _)

theorem run_indentedRest {indent : String} (hi : Idle indent) (rest : List String)
    (s : Scanner) : s.run (rest.flatMap fun line => '\n' :: (indent ++ line).toList) =
      s.run (rest.flatMap fun line => '\n' :: line.toList) := by
  induction rest generalizing s with
  | nil => rfl
  | cons line rest ih =>
    simp only [List.flatMap_cons, List.cons_append, Scanner.run_cons, Scanner.run_append, ih,
      indents_append hi line _ (Scanner.settle_step_lineFeed s)]

/-- Lines can be indented if no line feed is left over at the end. -/
theorem closed_indentContinuation {indent text : String} (hi : Idle indent) (h : Closed text)
    (hlast : text.toList.getLast? ≠ some '\n') : Closed (indentContinuation indent text) := by
  unfold indentContinuation
  cases hlines : lines text with
  | nil => exact closed_of_idle idle_empty
  | cons first rest =>
    intro due
    have hrun := run_lines hlines [] (fun h => absurd h hlast) ⟨.code, due⟩
    rw [List.append_nil, List.append_nil, Scanner.run_append] at hrun
    rw [toList_joinWith_lineFeed, List.flatMap_map, Scanner.run_append, run_indentedRest hi]
    exact hrun.trans (h due)

theorem indentAll_eq {indent text : String} (h : lines text ≠ []) :
    indentAll indent text = indent ++ indentContinuation indent text := by
  unfold indentAll indentContinuation
  cases hlines : lines text with
  | nil => exact absurd hlines h
  | cons first rest => cases rest <;> simp [joinWith, String.append_assoc]

theorem closed_indentAll {indent text : String} (hi : Idle indent) (h : Closed text)
    (hlast : text.toList.getLast? ≠ some '\n') : Closed (indentAll indent text) := by
  by_cases hlines : lines text = []
  · rw [indentAll, hlines]
    exact closed_of_idle idle_empty
  · rw [indentAll_eq hlines]
    exact (closed_of_idle hi).append (closed_indentContinuation hi h hlast)

end

end TelemetryBindings.Text
