import TelemetryBindings.Proofs.CommentEscapes
import TelemetryBindings.Proofs.LineFeeds

/-!
# Reading rendered documents line by line

The text between header and footer is divided at its line feeds, and every line that is not empty
loses its indent. What is left are the lines of the entries in their order: the preamble blocks, the
comment, and the declaration with the separator at its end. The name of the definition that an
entry came from is written as one line of the comment, so that this holds as long as no such name
holds a line feed.
-/
namespace TelemetryBindings

open Text

namespace Entry

def starred (line : String) : String :=
  if line = "" then " *" else " * " ++ String.ofList (breakDelimiters line.toList)

def comment (e : Entry) : List String :=
  let reference := String.ofList (breakDelimiters e.reference.toList)
  ["/**"] ++ (Text.lines e.description).map starred ++
    [" *", " * Generated from `" ++ reference ++ "`.", " */"]

/-- The lines with a text behind the last of them, if there is any. -/
def endedBy (ending : String) (ls : List String) : List String :=
  ls.dropLast ++ (ls.getLast?.map (· ++ ending)).toList

/-- What an entry says: every preamble block with an empty line behind it, the comment, and the
declaration. -/
def content (separator : String) (e : Entry) : List String :=
  e.preamble.flatMap (fun block => Text.lines block ++ [""]) ++ e.comment ++
    endedBy separator (Text.lines e.declaration)

def unstarred? (line : String) : Option String :=
  if line = " *" then some "" else (line.toList.dropPrefix? " * ".toList).map String.ofList

/-- Reads the lines of a description out of a comment: all but the first and the last three. -/
def readDescription? (comment : List String) : Option (List String) :=
  (comment.tail.take (comment.tail.length - 3)).mapM unstarred?

end Entry

namespace Layout

def content (l : Layout) (es : List Entry) : List String :=
  [""].intercalate (es.map (Entry.content l.separator))

/-- Takes the indent off a line. A line that is empty has none, and a line of nothing but the indent
is refused. -/
def unindent? (l : Layout) (line : String) : Option String :=
  if line = "" then some ""
  else match line.toList.dropPrefix? l.indent.toList with
    | some (c :: rest) => some (String.ofList (c :: rest))
    | _ => none

/-- Reads the lines of a body, the last of which has to end in a line feed. -/
def readBody? (l : Layout) (body : String) : Option (List String) :=
  if (pieces body).getLast? = some "" then (pieces body).dropLast.mapM l.unindent? else none

end Layout

/-! ### Readers of lists -/

section

variable {α β : Type} {f : α → Option β}

/-- A reader that takes back what was written line by line reads all lines. -/
theorem mapM_map_eq_some {g : β → α} {l : List β} (h : ∀ b ∈ l, f (g b) = some b) :
    (l.map g).mapM f = some l := by
  induction l with
  | nil => rfl
  | cons b l ih =>
    obtain ⟨hb, hl⟩ := List.forall_mem_cons.mp h
    simp [hb, ih hl]

theorem exists_mem_of_mapM_eq_some {l : List α} {r : List β} (h : l.mapM f = some r) :
    ∀ b ∈ r, ∃ a ∈ l, f a = some b := by
  induction l generalizing r with
  | nil => simp_all
  | cons a l ih =>
    simp only [List.mapM_cons, Option.pure_def, Option.bind_eq_bind, Option.bind_eq_some_iff,
      Option.some.injEq] at h
    obtain ⟨b, hb, rest, hrest, rfl⟩ := h
    refine List.forall_mem_cons.mpr ⟨⟨a, List.mem_cons_self, hb⟩, fun b' hb' => ?_⟩
    obtain ⟨a', ha', hread⟩ := ih hrest b' hb'
    exact ⟨a', List.mem_cons_of_mem _ ha', hread⟩

end

/-! ### Comments -/

theorem notMem_breakDelimiters_iff {line : List Char} :
    '\n' ∉ breakDelimiters line ↔ '\n' ∉ line := by
  fun_induction breakDelimiters line with
  | case1 => rfl
  | case2 c => rfl
  | case3 c d rest _ ih => simp [ih]
  | case4 c d rest _ ih => rw [List.mem_cons, List.mem_cons, not_or, not_or, ih]

namespace Entry

variable {e : Entry}

theorem commentLine_eq (line : String) : commentLine line = starred line := by
  rw [commentLine, starred, escapeComment, escapeCommentChars_eq]

theorem commentLines_eq (e : Entry) : e.commentLines = e.comment := by
  simp [commentLines, comment, commentLine_eq, escapeComment, escapeCommentChars_eq]

theorem unbroken_starred {line : String} (h : Unbroken line) : Unbroken (starred line) := by
  rw [starred]
  split_ifs
  · decide
  · have hbroken : Unbroken (String.ofList (breakDelimiters line.toList)) := by
      rw [Unbroken, String.toList_ofList]
      exact notMem_breakDelimiters_iff.mpr h
    exact unbroken_append.mpr ⟨by decide, hbroken⟩

theorem unbroken_comment_iff :
    (∀ line ∈ e.comment, Unbroken line) ↔ Unbroken e.reference := by
  have hdescription : ∀ line ∈ Text.lines e.description, Unbroken (starred line) :=
    fun line hline => unbroken_starred (unbroken_of_mem_lines hline)
  have hreference : Unbroken (String.ofList (breakDelimiters e.reference.toList)) ↔
      Unbroken e.reference := by
    rw [Unbroken, String.toList_ofList, notMem_breakDelimiters_iff]
    rfl
  have hfixed : Unbroken "/**" ∧ Unbroken " *" ∧ Unbroken " * Generated from `" ∧
      Unbroken "`." ∧ Unbroken " */" := by decide
  simp only [comment, List.forall_mem_append, List.forall_mem_cons, List.forall_mem_map,
    unbroken_append]
  simp only [hfixed, hreference, List.not_mem_nil, true_and, and_true]
  simpa using fun _ => hdescription

theorem unstarred?_starred {line : String} (h : Undelimited line.toList) :
    unstarred? (starred line) = some line := by
  rw [starred, breakDelimiters_eq_self h, String.ofList_toList]
  split_ifs with hempty
  · simp [unstarred?, hempty]
  · have hne : " * " ++ line ≠ " *" := by
      intro heq
      have hlength := congrArg String.length heq
      rw [String.length_append] at hlength
      have hfixed : " * ".length = 3 ∧ " *".length = 2 := by decide
      omega
    rw [unstarred?, if_neg hne, String.toList_append, List.dropPrefix?_append_of_beq _ (by simp)]
    simp

theorem undelimited_of_mem_lines {text line : String} (h : Undelimited text.toList)
    (hline : line ∈ Text.lines text) : Undelimited line.toList := by
  obtain ⟨cs, hcs, rfl⟩ := List.mem_map.mp hline
  rw [String.toList_ofList]
  exact h.infix (isInfix_of_mem_splitLines hcs)

theorem readDescription?_comment (h : Undelimited e.description.toList) :
    readDescription? e.comment = some (Text.lines e.description) := by
  have hlines : ∀ line ∈ Text.lines e.description, unstarred? (starred line) = some line :=
    fun line hline => unstarred?_starred (undelimited_of_mem_lines h hline)
  have hinner : e.comment.tail.take (e.comment.tail.length - 3) =
      (Text.lines e.description).map starred := by
    simp [comment]
  rw [readDescription?, hinner, mapM_map_eq_some hlines]

/-! ### Declarations -/

theorem terminated_eq (ending : String) (ls : List String) :
    terminated ending ls = endedBy ending ls := by
  induction ls with
  | nil => rfl
  | cons line rest ih =>
    cases rest with
    | nil => rfl
    | cons next rest =>
      rw [terminated.eq_3 _ _ _ (by simp), ih]
      simp [endedBy]

theorem unbroken_endedBy {ending : String} (hending : Unbroken ending) {ls : List String}
    (h : ∀ line ∈ ls, Unbroken line) : ∀ line ∈ endedBy ending ls, Unbroken line := by
  refine List.forall_mem_append.mpr
    ⟨fun line hline => h line (List.dropLast_subset ls hline), fun line hline => ?_⟩
  obtain ⟨last, hlast, rfl⟩ := Option.map_eq_some_iff.mp (Option.mem_toList.mp hline)
  exact unbroken_append.mpr ⟨h last (List.mem_of_getLast? hlast), hending⟩

theorem lines_eq (separator : String) (e : Entry) : e.lines separator = e.content separator := by
  rw [lines, content, commentLines_eq, terminated_eq, List.append_assoc]

theorem unbroken_content_iff {separator : String} (hseparator : Unbroken separator) :
    (∀ line ∈ e.content separator, Unbroken line) ↔ Unbroken e.reference := by
  have hpreamble : ∀ line ∈ e.preamble.flatMap fun block => Text.lines block ++ [""],
      Unbroken line := by
    rw [List.forall_mem_flatMap]
    intro block _
    exact List.forall_mem_append.mpr
      ⟨fun line => unbroken_of_mem_lines, List.forall_mem_singleton.mpr unbroken_empty⟩
  have hdeclaration : ∀ line ∈ endedBy separator (Text.lines e.declaration), Unbroken line :=
    unbroken_endedBy hseparator fun line => unbroken_of_mem_lines
  rw [content, List.forall_mem_append, List.forall_mem_append, unbroken_comment_iff]
  exact ⟨fun h => h.1.2, fun h => ⟨⟨hpreamble, h⟩, hdeclaration⟩⟩

end Entry

/-! ### Bodies -/

namespace Layout

variable {l : Layout}

theorem bodyLines_eq (l : Layout) (es : List Entry) : l.bodyLines es = l.content es := by
  induction es with
  | nil => rfl
  | cons e rest ih =>
    cases rest with
    | nil => simp [bodyLines, content, Entry.lines_eq]
    | cons next rest =>
      rw [bodyLines.eq_3 _ _ _ (by simp), ih, Entry.lines_eq]
      simp [content]

theorem unbroken_content_iff (hseparator : Unbroken l.separator) {es : List Entry} :
    (∀ line ∈ l.content es, Unbroken line) ↔ ∀ e ∈ es, Unbroken e.reference := by
  induction es with
  | nil => simp [content]
  | cons e rest ih =>
    cases rest with
    | nil => simp [content, Entry.unbroken_content_iff hseparator]
    | cons next rest =>
      have hcontent : l.content (e :: next :: rest) =
          e.content l.separator ++ [""] ++ l.content (next :: rest) := by
        simp [content]
      rw [hcontent, List.forall_mem_append, List.forall_mem_append, ih,
        Entry.unbroken_content_iff hseparator, List.forall_mem_cons]
      simp [unbroken_empty]

theorem unindent?_indentLine (l : Layout) (line : String) :
    l.unindent? (l.indentLine line) = some line := by
  rw [indentLine]
  split_ifs with hempty
  · simp [unindent?, hempty]
  · have hchars : line.toList ≠ [] := by simpa using hempty
    obtain ⟨c, cs, hcs⟩ := List.exists_cons_of_ne_nil hchars
    have hne : l.indent ++ line ≠ "" := fun h => hempty (String.append_eq_empty_iff.mp h).2
    rw [unindent?, if_neg hne, String.toList_append, List.dropPrefix?_append_of_beq _ (by simp),
      hcs]
    simp [← hcs]

theorem unbroken_indentLine (hindent : Unbroken l.indent) {line : String} (h : Unbroken line) :
    Unbroken (l.indentLine line) := by
  rw [indentLine]
  split_ifs
  · exact unbroken_empty
  · exact unbroken_append.mpr ⟨hindent, h⟩

/-- Lines without line feeds are read as they were indented. -/
theorem readBody?_unlines (hindent : Unbroken l.indent) {ls : List String}
    (h : ∀ line ∈ ls, Unbroken line) : l.readBody? (unlines (ls.map l.indentLine)) = some ls := by
  have hpieces : pieces (unlines (ls.map l.indentLine)) = ls.map l.indentLine ++ [""] := by
    have hindented : ∀ line ∈ ls.map l.indentLine, Unbroken line :=
      List.forall_mem_map.mpr fun line hline => unbroken_indentLine hindent (h line hline)
    have h := pieces_unlines_append hindented ""
    rwa [String.append_empty, pieces_of_unbroken unbroken_empty] at h
  rw [readBody?, hpieces, if_pos (by simp), List.dropLast_concat,
    mapM_map_eq_some fun line _ => l.unindent?_indentLine line]

theorem unbroken_of_unindent? {line text : String} (h : Unbroken line)
    (hread : l.unindent? line = some text) : Unbroken text := by
  rw [unindent?] at hread
  split_ifs at hread
  · cases hread
    exact unbroken_empty
  · split at hread
    · next c rest hdrop =>
      obtain ⟨indent, hline, -⟩ := List.dropPrefix?_eq_some_iff.mp hdrop
      cases hread
      rw [Unbroken, String.toList_ofList]
      rw [Unbroken, hline, List.mem_append, not_or] at h
      exact h.2
    · cases hread

theorem unbroken_of_readBody? {body : String} {ls : List String} (h : l.readBody? body = some ls) :
    ∀ line ∈ ls, Unbroken line := by
  rw [readBody?] at h
  split_ifs at h
  intro line hline
  obtain ⟨piece, hpiece, hread⟩ := exists_mem_of_mapM_eq_some h line hline
  exact unbroken_of_unindent? (unbroken_of_mem_pieces (List.dropLast_subset _ hpiece)) hread

/-- Between header and footer, the lines of the entries can be read one by one, exactly if no
definition that an entry names has a line feed in its name. Descriptions without delimiters can be
read out of the comments. -/
theorem readBody?_render (l : Layout) (hindent : Unbroken l.indent)
    (hseparator : Unbroken l.separator) (es : List Entry) :
    ∃ body, l.render es = l.header ++ body ++ l.footer ∧
      (l.readBody? body = some (l.content es) ↔ ∀ e ∈ es, Unbroken e.reference) ∧
      ∀ e ∈ es, ¬ Occurs "*/" e.description → ¬ Occurs "/*" e.description →
        Entry.readDescription? e.comment = some (Text.lines e.description) := by
  refine ⟨unlines ((l.content es).map l.indentLine), by rw [render, bodyLines_eq], ?_, ?_⟩
  · rw [← unbroken_content_iff hseparator]
    exact ⟨unbroken_of_readBody?, readBody?_unlines hindent⟩
  · intro e _ hend hbegin
    exact Entry.readDescription?_comment ((undelimited_iff _).mpr ⟨hend, hbegin⟩)

def sampleLayout : Layout where
  header := "begin \x7b\n"
  footer := "\x7d\n"
  indent := "  "
  separator := ","

/-- Blocks and texts with empty lines, returns, leading blanks and line feeds at their ends. -/
def unrulyEntries : List Entry := [
  { description := "Counts\r\n\n * things \n"
    reference := "a.b"
    preamble := ["enum \x7b\n\n  x\n\x7d\n", ""]
    declaration := "a: make(\n\n  1\n)\n" },
  { description := "*/*", reference := "c.d", preamble := [], declaration := "" }]

theorem readBody?_render_unruly : Unbroken sampleLayout.indent ∧ Unbroken sampleLayout.separator ∧
    (∀ e ∈ unrulyEntries, Unbroken e.reference) ∧
    ∃ body, sampleLayout.render unrulyEntries = "begin \x7b\n" ++ body ++ "\x7d\n" ∧
      sampleLayout.readBody? body = some [
        "enum \x7b", "", "  x", "\x7d", "", "",
        "/**", " * Counts", " *", " *  * things ", " *", " * Generated from `a.b`.", " */",
        "a: make(", "", "  1", "),", "",
        "/**", " * *\\/\\*", " *", " * Generated from `c.d`.", " */"] ∧
      ∀ e ∈ unrulyEntries.head?,
        Entry.readDescription? e.comment = some ["Counts", "", " * things "] := by
  have hindent : Unbroken sampleLayout.indent := by decide
  have hseparator : Unbroken sampleLayout.separator := by decide
  have hreferences : ∀ e ∈ unrulyEntries, Unbroken e.reference := by decide
  obtain ⟨body, hrender, hread, hdescriptions⟩ :=
    readBody?_render sampleLayout hindent hseparator unrulyEntries
  refine ⟨hindent, hseparator, hreferences, body, hrender, hread.mpr hreferences, ?_⟩
  rintro e ⟨⟩
  obtain ⟨hend, hbegin⟩ := (undelimited_iff "Counts\r\n\n * things \n").mp (by decide)
  exact hdescriptions _ List.mem_cons_self hend hbegin

/-- An entry that came from a definition with a line feed in its name. -/
def brokenEntry : Entry where
  description := "Counts things."
  reference := "cat.\n  name"
  preamble := []
  declaration := "a"

/-- The second line of that name stands in the document as it is, and loses as its indent what is
part of it. -/
theorem readBody?_render_broken : Unbroken sampleLayout.indent ∧ Unbroken sampleLayout.separator ∧
    ¬ ∃ body,
      sampleLayout.render [brokenEntry] = sampleLayout.header ++ body ++ sampleLayout.footer ∧
        (sampleLayout.readBody? body).map unlines =
          some (unlines (sampleLayout.content [brokenEntry])) := by
  refine ⟨by decide, by decide, ?_⟩
  rintro ⟨body, hrender, hread⟩
  let written := (sampleLayout.content [brokenEntry]).map sampleLayout.indentLine
  have hbody : body = unlines written := by
    rw [render, bodyLines_eq, String.append_assoc, String.append_assoc] at hrender
    exact ((String.append_left_inj _).mp ((String.append_right_inj _).mp hrender)).symm
  rw [hbody] at hread
  revert hread
  decide

end Layout

end TelemetryBindings
