import Mathlib.Data.List.Chain
import Mathlib.Tactic.SplitIfs
import TelemetryBindings.Layout

/-!
# Generated text without its comments

Deleting the block comments of a generated document deletes every description and nothing that was
declared. Escaped free text holds no end of a comment, and neither do the borders between lines,
indents and prefixes, so every comment ends where its entry ends it.
-/
namespace TelemetryBindings

namespace Text

/-- Deletes block comments, each from its beginning to the next end; `inside` says that a comment
has begun. -/
def stripComments : (inside : Bool) → List Char → List Char
  | _, [] => []
  | false, '/' :: '*' :: rest => stripComments true rest
  | false, c :: rest => c :: stripComments false rest
  | true, '*' :: '/' :: rest => stripComments false rest
  | true, _ :: rest => stripComments true rest

def withoutComments (text : String) : String := String.ofList (stripComments false text.toList)

theorem stripComments_cons {c : Char} {rest : List Char} (h : c = '/' → rest.head? ≠ some '*') :
    stripComments false (c :: rest) = c :: stripComments false rest := by
  rw [stripComments]
  rintro tail rfl rfl
  exact h rfl rfl

theorem stripComments_inside {c : Char} {rest : List Char} (h : c = '*' → rest.head? ≠ some '/') :
    stripComments true (c :: rest) = stripComments true rest := by
  rw [stripComments]
  rintro tail rfl rfl
  exact h rfl rfl

/-! ### Code and comments -/

/-- Text that no comment begins in, whatever follows it. -/
structure Code (text : List Char) : Prop where
  starless : '*' ∉ text
  last : text.getLast? ≠ some '/'

theorem Code.append {x y : List Char} (hx : Code x) (hy : Code y) : Code (x ++ y) := by
  refine ⟨fun h => (List.mem_append.mp h).elim hx.starless hy.starless, ?_⟩
  rw [List.getLast?_append]
  have hlast := hy.last
  cases h : y.getLast? with
  | none => simpa using hx.last
  | some c => rwa [h] at hlast

theorem stripComments_code {text : List Char} (h : Code text) (rest : List Char) :
    stripComments false (text ++ rest) = text ++ stripComments false rest := by
  induction text with
  | nil => rfl
  | cons c cs ih =>
    have hstar : '*' ∉ cs := fun hmem => h.starless (List.mem_cons_of_mem _ hmem)
    have hcs : Code cs := by
      refine ⟨hstar, ?_⟩
      cases cs with
      | nil => simp
      | cons d ds => simpa using h.last
    rw [List.cons_append, stripComments_cons, ih hcs, List.cons_append]
    rintro rfl
    cases cs with
    | nil => exact absurd rfl h.last
    | cons d ds =>
      rintro hd
      exact hstar (Option.some.inj hd ▸ List.mem_cons_self)

def Unclosed (text : List Char) : Prop := text.IsChain fun c d => ¬ (c = '*' ∧ d = '/')

instance (text : List Char) : Decidable (Unclosed text) :=
  inferInstanceAs (Decidable (text.IsChain _))

/-- Texts without an end of a comment can be joined where the first does not end in an asterisk or
the second does not begin with a slash. -/
theorem Unclosed.append {x y : List Char} (hx : Unclosed x) (hy : Unclosed y)
    (h : x.getLast? ≠ some '*' ∨ y.head? ≠ some '/') : Unclosed (x ++ y) := by
  refine List.isChain_append.mpr ⟨hx, hy, ?_⟩
  rintro c hc d hd ⟨rfl, rfl⟩
  exact h.elim (· hc) (· hd)

theorem Unclosed.cons {c : Char} {text : List Char} (h : Unclosed text)
    (hc : c ≠ '*' ∨ text.head? ≠ some '/') : Unclosed (c :: text) := by
  refine List.isChain_cons.mpr ⟨?_, h⟩
  rintro d hd ⟨rfl, rfl⟩
  exact hc.elim (· rfl) (· hd)

theorem unclosed_of_starless {text : List Char} (h : '*' ∉ text) : Unclosed text := by
  induction text with
  | nil => exact List.IsChain.nil
  | cons c cs ih =>
    exact (ih fun hmem => h (List.mem_cons_of_mem _ hmem)).cons
      (Or.inl fun hc => h (hc ▸ List.mem_cons_self))

/-- A comment reaches to the first end that its body does not hold. -/
theorem stripComments_comment {body : List Char} (h : Unclosed body) (rest : List Char) :
    stripComments false ('/' :: '*' :: (body ++ '*' :: '/' :: rest)) = stripComments false rest := by
  have hbody : stripComments true (body ++ '*' :: '/' :: rest) = stripComments false rest := by
    induction body with
    | nil => rfl
    | cons c cs ih =>
      obtain ⟨hc, hcs⟩ := List.isChain_cons.mp h
      rw [List.cons_append, stripComments_inside, ih hcs]
      rintro rfl
      cases cs with
      | nil => simp
      | cons d ds =>
        intro hd
        exact hc d rfl ⟨rfl, Option.some.inj hd⟩
  rw [stripComments, hbody]

example : withoutComments "val a/*/ = 1 */ = 2" = "val a = 2" := by decide

/-! ### Escaped text -/

theorem head?_breakPair (a b : Char) (text : List Char) :
    (breakPair a b text).head? = text.head? := by
  match text with
  | [] => rfl
  | [c] => rfl
  | c :: d :: rest =>
    rw [breakPair]
    split_ifs with h
    · rw [h.1]
      rfl
    · rfl

theorem isChain_breakPair {a b : Char} (hab : a ≠ b) (ha : a ≠ '\\') (hb : b ≠ '\\')
    (text : List Char) : (breakPair a b text).IsChain fun c d => ¬ (c = a ∧ d = b) := by
  fun_induction breakPair a b text with
  | case1 => exact List.IsChain.nil
  | case2 c => exact List.IsChain.singleton c
  | case3 c d rest h ih =>
    refine List.isChain_cons_cons.mpr ⟨fun h => hb h.2.symm, ?_⟩
    refine List.isChain_cons_cons.mpr ⟨fun h => ha h.1.symm, ?_⟩
    exact List.isChain_cons.mpr ⟨fun _ _ h => hab h.1.symm, ih⟩
  | case4 c d rest h ih =>
    refine List.isChain_cons.mpr ⟨fun e he => ?_, ih⟩
    rw [head?_breakPair] at he
    cases he
    exact h

/-- Breaking pairs makes no new neighbours but those of the backslash. -/
theorem isChain_breakPair_of_isChain {R : Char → Char → Prop} {a b : Char} (ha : R a '\\')
    (hb : R '\\' b) {text : List Char} (h : text.IsChain R) : (breakPair a b text).IsChain R := by
  fun_induction breakPair a b text with
  | case1 => exact h
  | case2 c => exact h
  | case3 c d rest hpair ih =>
    obtain ⟨rfl, rfl⟩ := hpair
    obtain ⟨hd, hrest⟩ := List.isChain_cons.mp (List.isChain_cons.mp h).2
    refine List.isChain_cons_cons.mpr ⟨ha, List.isChain_cons_cons.mpr ⟨hb, ?_⟩⟩
    refine List.isChain_cons.mpr ⟨fun e he => ?_, ih hrest⟩
    rw [head?_breakPair] at he
    exact hd e he
  | case4 c d rest hpair ih =>
    obtain ⟨hc, hrest⟩ := List.isChain_cons.mp h
    refine List.isChain_cons.mpr ⟨fun e he => ?_, ih hrest⟩
    rw [head?_breakPair] at he
    exact hc e he

/-- Escaped text ends no comment. -/
theorem unclosed_escapeCommentChars (line : List Char) : Unclosed (escapeCommentChars line) :=
  isChain_breakPair_of_isChain (by decide) (by decide)
    (isChain_breakPair (by decide) (by decide) (by decide) line)

theorem unclosed_escapeComment (line : String) : Unclosed (escapeComment line).toList := by
  rw [escapeComment, String.toList_ofList]
  exact unclosed_escapeCommentChars _

theorem unclosed_commentLine (line : String) :
    Unclosed (commentLine line).toList ∧ (commentLine line).toList.head? = some ' ' := by
  rw [commentLine]
  split_ifs
  · exact ⟨by decide, rfl⟩
  · have hbefore : Unclosed " * ".toList := by decide
    rw [String.toList_append]
    exact ⟨hbefore.append (unclosed_escapeComment line) (Or.inl (by decide)), rfl⟩

/-- The last line of a comment, which names the definition. -/
theorem unclosed_reference (reference : String) :
    Unclosed (" * Generated from `" ++ escapeComment reference ++ "`.").toList ∧
      (" * Generated from `" ++ escapeComment reference ++ "`.").toList.head? = some ' ' := by
  have hbefore : Unclosed " * Generated from `".toList := by decide
  have hafter : Unclosed "`.".toList := by decide
  rw [String.toList_append, String.toList_append]
  exact ⟨(hbefore.append (unclosed_escapeComment reference) (Or.inl (by decide))).append hafter
    (Or.inr (by decide)), rfl⟩

/-! ### Lines -/

def Starless (text : String) : Prop := '*' ∉ text.toList

instance (text : String) : Decidable (Starless text) :=
  inferInstanceAs (Decidable ('*' ∉ text.toList))

theorem starless_empty : Starless "" := List.not_mem_nil

@[simp] theorem starless_append {a b : String} : Starless (a ++ b) ↔ Starless a ∧ Starless b := by
  rw [Starless, String.toList_append, List.mem_append, not_or]
  rfl

theorem toList_unlines (ls : List String) :
    (unlines ls).toList = ls.flatMap fun line => line.toList ++ ['\n'] := by
  induction ls with
  | nil => rfl
  | cons line ls ih => simp [unlines, ih]

theorem toList_unlines_append (ls ms : List String) :
    (unlines (ls ++ ms)).toList = (unlines ls).toList ++ (unlines ms).toList := by
  simp only [toList_unlines, List.flatMap_append]

theorem unlines_append (ls ms : List String) : unlines (ls ++ ms) = unlines ls ++ unlines ms := by
  rw [← String.toList_inj, toList_unlines_append, String.toList_append]

theorem code_unlines {ls : List String} (h : ∀ line ∈ ls, Starless line) :
    Code (unlines ls).toList := by
  rw [toList_unlines]
  induction ls with
  | nil => exact ⟨List.not_mem_nil, by simp⟩
  | cons line ls ih =>
    rw [List.flatMap_cons]
    refine Code.append ⟨?_, by simp⟩ (ih fun l hl => h l (List.mem_cons_of_mem _ hl))
    rw [List.mem_append, not_or]
    exact ⟨h line List.mem_cons_self, by decide⟩

theorem mem_of_mem_splitLines {text line : List Char} {c : Char} (hline : line ∈ splitLines text)
    (hc : c ∈ line) : c ∈ text := by
  fun_induction splitLines text generalizing line with
  | case1 => exact absurd hline List.not_mem_nil
  | case2 cs ih =>
    rcases List.mem_cons.mp hline with rfl | hline
    · exact absurd hc List.not_mem_nil
    · exact List.mem_cons_of_mem _ (ih hline hc)
  | case3 cs ih =>
    rcases List.mem_cons.mp hline with rfl | hline
    · exact absurd hc List.not_mem_nil
    · exact List.mem_cons_of_mem _ (List.mem_cons_of_mem _ (ih hline hc))
  | case4 d cs _ _ ih =>
    cases hrest : splitLines cs with
    | nil =>
      rw [hrest, consLine, List.mem_singleton] at hline
      subst hline
      exact List.mem_singleton.mp hc ▸ List.mem_cons_self
    | cons first rest =>
      rw [hrest] at ih hline
      rcases List.mem_cons.mp hline with rfl | hline
      · rcases List.mem_cons.mp hc with rfl | hc
        · exact List.mem_cons_self
        · exact List.mem_cons_of_mem _ (ih List.mem_cons_self hc)
      · exact List.mem_cons_of_mem _ (ih (List.mem_cons_of_mem _ hline) hc)

theorem starless_lines {text : String} (h : Starless text) : ∀ line ∈ lines text, Starless line := by
  rw [lines, List.forall_mem_map]
  intro line hline hstar
  rw [String.toList_ofList] at hstar
  exact h (mem_of_mem_splitLines hline hstar)

/-! ### Texts with the same code -/

/-- The texts are the same but for the comments in them, whatever follows. -/
def SameCode (x y : List Char) : Prop :=
  ∀ r s, stripComments false r = stripComments false s →
    stripComments false (x ++ r) = stripComments false (y ++ s)

theorem SameCode.append {x y x' y' : List Char} (h : SameCode x y) (h' : SameCode x' y') :
    SameCode (x ++ x') (y ++ y') := by
  intro r s hrs
  rw [List.append_assoc, List.append_assoc]
  exact h _ _ (h' r s hrs)

theorem Code.sameCode {text : List Char} (h : Code text) : SameCode text text := by
  intro r s hrs
  rw [stripComments_code h, stripComments_code h, hrs]

end Text

open Text

/-! ### Entries -/

def Entry.undescribed (e : Entry) : Entry := { e with description := "" }

/-- Between its first line and its last, the comment of an entry holds no end of a comment. -/
theorem Entry.exists_inner_commentLines (e : Entry) :
    ∃ inner, e.commentLines = "/**" :: (inner ++ [" */"]) ∧
      ∀ line ∈ inner, Unclosed line.toList ∧ line.toList.head? = some ' ' := by
  refine ⟨(Text.lines e.description).map commentLine ++
    [" *", " * Generated from `" ++ escapeComment e.reference ++ "`."], ?_, ?_⟩
  · simp [commentLines]
  · rw [List.forall_mem_append, List.forall_mem_map]
    exact ⟨fun line _ => unclosed_commentLine line, List.forall_mem_cons.mpr
      ⟨⟨by decide, rfl⟩, List.forall_mem_singleton.mpr (unclosed_reference e.reference)⟩⟩

structure Entry.Starless (e : Entry) : Prop where
  preamble : ∀ block ∈ e.preamble, Text.Starless block
  declaration : Text.Starless e.declaration

/-- The text around the entries begins no comment that it does not end. -/
structure Layout.Clear (l : Layout) : Prop where
  header : SameCode l.header.toList l.header.toList
  indent : Code l.indent.toList
  separator : Text.Starless l.separator

namespace Layout

variable {l : Layout}

theorem starless_indentLine (hl : l.Clear) {line : String} (h : Text.Starless line) :
    Text.Starless (l.indentLine line) := by
  rw [indentLine]
  split_ifs
  · exact List.not_mem_nil
  · exact starless_append.mpr ⟨hl.indent.starless, h⟩

theorem code_indentedLines (hl : l.Clear) {ls : List String} (h : ∀ line ∈ ls, Text.Starless line) :
    Code (unlines (ls.map l.indentLine)).toList :=
  code_unlines (List.forall_mem_map.mpr fun line hline => starless_indentLine hl (h line hline))

/-- Lines of a comment hold no end of it, nor does what follows begin one. -/
theorem unclosed_indentedLines (hl : l.Clear) {ls : List String}
    (h : ∀ line ∈ ls, Unclosed line.toList ∧ line.toList.head? = some ' ') {rest : List Char}
    (hrest : Unclosed rest) :
    Unclosed ((ls.flatMap fun line => l.indent.toList ++ line.toList ++ ['\n']) ++ rest) := by
  induction ls with
  | nil => exact hrest
  | cons line ls ih =>
    obtain ⟨hline, hhead⟩ := h line List.mem_cons_self
    rw [List.flatMap_cons, List.append_assoc]
    have hindented : Unclosed (l.indent.toList ++ line.toList) :=
      (unclosed_of_starless hl.indent.starless).append hline (Or.inr (by simp [hhead]))
    have hended : Unclosed (l.indent.toList ++ line.toList ++ ['\n']) :=
      hindented.append (List.IsChain.singleton _) (Or.inr (by simp))
    exact hended.append (ih fun m hm => h m (List.mem_cons_of_mem _ hm)) (Or.inl (by simp))

theorem indentLine_of_head {line : String} {c : Char} (h : line.toList.head? = some c) :
    (l.indentLine line).toList = l.indent.toList ++ line.toList := by
  rw [indentLine, if_neg, String.toList_append]
  rintro rfl
  simp at h

/-- The comment of an entry goes without a trace but for the indent and the end of its last line. -/
theorem stripComments_commentLines (hl : l.Clear) (e : Entry) (rest : List Char) :
    stripComments false ((unlines (e.commentLines.map l.indentLine)).toList ++ rest) =
      l.indent.toList ++ '\n' :: stripComments false rest := by
  obtain ⟨inner, hlines, hinner⟩ := e.exists_inner_commentLines
  -- The comment without its first and its last two characters.
  let body := '*' :: '\n' ::
    ((inner.flatMap fun line => l.indent.toList ++ line.toList ++ ['\n']) ++
      (l.indent.toList ++ [' ']))
  have hbody : Unclosed body := by
    have hend : Unclosed (l.indent.toList ++ [' ']) :=
      (unclosed_of_starless hl.indent.starless).append (List.IsChain.singleton _)
        (Or.inr (by simp))
    exact ((unclosed_indentedLines hl hinner hend).cons (Or.inl (by decide))).cons
      (Or.inr (by simp))
  have htext : (unlines (e.commentLines.map l.indentLine)).toList ++ rest =
      l.indent.toList ++ '/' :: '*' :: (body ++ '*' :: '/' :: '\n' :: rest) := by
    have hmiddle : (unlines (inner.map l.indentLine)).toList =
        inner.flatMap fun line => l.indent.toList ++ line.toList ++ ['\n'] := by
      rw [toList_unlines, List.flatMap_map]
      exact List.flatMap_congr fun line hline => by rw [indentLine_of_head (hinner line hline).2]
    have hfirst : (l.indentLine "/**").toList = l.indent.toList ++ ['/', '*', '*'] :=
      indentLine_of_head (by rfl)
    have hlast : (l.indentLine " */").toList = l.indent.toList ++ [' ', '*', '/'] :=
      indentLine_of_head (by rfl)
    rw [hlines, List.map_cons, List.map_append, unlines, String.toList_append,
      String.toList_append, toList_unlines_append, hmiddle, hfirst]
    simp [unlines, hlast, body]
  rw [htext, stripComments_code hl.indent, stripComments_comment hbody,
    stripComments_cons (by simp)]

theorem sameCode_commentLines (hl : l.Clear) (e e' : Entry) :
    SameCode (unlines (e.commentLines.map l.indentLine)).toList
      (unlines (e'.commentLines.map l.indentLine)).toList := by
  intro r s hrs
  rw [stripComments_commentLines hl, stripComments_commentLines hl, hrs]

theorem starless_terminated {separator : String} (hs : Text.Starless separator) {ls : List String}
    (h : ∀ line ∈ ls, Text.Starless line) :
    ∀ line ∈ Entry.terminated separator ls, Text.Starless line := by
  match ls with
  | [] => exact h
  | [last] =>
    rw [Entry.terminated, List.forall_mem_singleton]
    exact starless_append.mpr ⟨h last List.mem_cons_self, hs⟩
  | line :: next :: rest =>
    rw [Entry.terminated.eq_3 _ _ _ (by simp), List.forall_mem_cons]
    exact ⟨h line List.mem_cons_self,
      starless_terminated hs fun m hm => h m (List.mem_cons_of_mem _ hm)⟩

/-- The description of an entry does not show in its code. -/
theorem sameCode_lines (hl : l.Clear) {e : Entry} (h : e.Starless) :
    SameCode (unlines ((e.lines l.separator).map l.indentLine)).toList
      (unlines ((e.undescribed.lines l.separator).map l.indentLine)).toList := by
  have hpreamble : ∀ line ∈ e.preamble.flatMap fun block => Text.lines block ++ [""],
      Text.Starless line := by
    rw [List.forall_mem_flatMap]
    intro block hblock
    rw [List.forall_mem_append, List.forall_mem_singleton]
    exact ⟨starless_lines (h.preamble block hblock), starless_empty⟩
  have hdeclaration := starless_terminated hl.separator (starless_lines h.declaration)
  simp only [Entry.lines, List.map_append, toList_unlines_append]
  exact (code_indentedLines hl hpreamble).sameCode.append
    ((sameCode_commentLines hl e e.undescribed).append
      (code_indentedLines hl hdeclaration).sameCode)

theorem sameCode_bodyLines (hl : l.Clear) {es : List Entry} (h : ∀ e ∈ es, e.Starless) :
    SameCode (unlines ((l.bodyLines es).map l.indentLine)).toList
      (unlines ((l.bodyLines (es.map Entry.undescribed)).map l.indentLine)).toList := by
  match es with
  | [] => exact (code_unlines (fun _ h => absurd h List.not_mem_nil)).sameCode
  | [e] => exact sameCode_lines hl (h e List.mem_cons_self)
  | e :: next :: rest =>
    have hblank : SameCode (unlines [l.indentLine ""]).toList (unlines [l.indentLine ""]).toList :=
      (code_unlines (List.forall_mem_singleton.mpr
        (starless_indentLine hl starless_empty))).sameCode
    have hrest := sameCode_bodyLines hl fun f hf => h f (List.mem_cons_of_mem e hf)
    have happend := ((sameCode_lines hl (h e List.mem_cons_self)).append hblank).append hrest
    simpa [bodyLines, toList_unlines_append, unlines] using happend

/-- Descriptions do not show in a document without its comments. -/
theorem withoutComments_render (hl : l.Clear) {es : List Entry} (h : ∀ e ∈ es, e.Starless) :
    withoutComments (l.render es) = withoutComments (l.render (es.map Entry.undescribed)) := by
  have hsame := (hl.header.append (sameCode_bodyLines hl h)) l.footer.toList l.footer.toList rfl
  simp only [withoutComments, render, String.toList_append]
  rw [hsame]

end Layout

end TelemetryBindings
