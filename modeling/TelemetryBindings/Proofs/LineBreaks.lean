import TelemetryBindings.Proofs.CaseMapping
import TelemetryBindings.Proofs.Occurrence

/-!
# Texts put together from lines

Where a text was put together from lines, its lines are those.
-/
namespace TelemetryBindings.Text

theorem oneLine_of_isWordChar {s : String} (h : ∀ c ∈ s.toList, isWordChar c) : OneLine s := by
  intro c hc
  constructor <;> rintro rfl <;> exact absurd (h _ hc) (by decide)

theorem oneLine_camel (name : String) : OneLine (camel name) :=
  oneLine_of_isWordChar (isWordChar_camel name)

/-! ### Lines -/

theorem consLine_append (c : Char) {ls : List (List Char)} (h : ls ≠ []) (ms : List (List Char)) :
    consLine c (ls ++ ms) = consLine c ls ++ ms := by
  obtain ⟨line, rest, rfl⟩ := List.exists_cons_of_ne_nil h
  rfl

theorem splitLines_ne_nil {cs : List Char} (h : cs ≠ []) : splitLines cs ≠ [] := by
  fun_cases splitLines cs with
  | case1 => exact absurd rfl h
  | case2 => exact List.cons_ne_nil _ _
  | case3 => exact List.cons_ne_nil _ _
  | case4 c cs _ _ => cases splitLines cs <;> exact List.cons_ne_nil _ _

/-- At a line feed a text is divided as if both of its parts stood alone. -/
theorem splitLines_append_lineFeed (a b : List Char) :
    splitLines (a ++ '\n' :: b) = splitLines (a ++ ['\n']) ++ splitLines b := by
  fun_induction splitLines a with
  | case1 => rfl
  | case2 cs ih => simp only [List.cons_append, splitLines_lineFeed, ih]
  | case3 cs ih => simp only [List.cons_append, splitLines, ih]
  | case4 c cs hfeed hreturn ih =>
    by_cases hend : c = '\r' ∧ cs = []
    · obtain ⟨rfl, rfl⟩ := hend
      rfl
    · -- The character is part of a line, since neither it nor the next one begins a line end.
      have hinside : ∀ more, c = '\r' → ∀ rest, cs ++ '\n' :: more ≠ '\n' :: rest := by
        intro more hc rest heq
        cases cs with
        | nil => exact hend ⟨hc, rfl⟩
        | cons d ds => exact hreturn ds hc (by rw [(List.cons.inj heq).1])
      have hline : splitLines (cs ++ ['\n']) ≠ [] := splitLines_ne_nil (by simp)
      rw [List.cons_append, List.cons_append,
        splitLines.eq_4 c _ hfeed fun rest hc => hinside b hc rest,
        splitLines.eq_4 c _ hfeed fun rest hc => hinside [] hc rest, ih, consLine_append c hline]

theorem splitLines_of_oneLine {line : List Char} (h : ∀ c ∈ line, c ≠ '\n' ∧ c ≠ '\r')
    (hne : line ≠ []) : splitLines line = [line] := by
  induction line with
  | nil => exact absurd rfl hne
  | cons c cs ih =>
    obtain ⟨hc, hcs⟩ := List.forall_mem_cons.mp h
    rw [splitLines_cons hc]
    by_cases hempty : cs = []
    · rw [hempty]
      rfl
    · rw [ih hcs hempty]
      rfl

theorem splitLines_oneLine_lineFeed {line : List Char} (h : ∀ c ∈ line, c ≠ '\n' ∧ c ≠ '\r') :
    splitLines (line ++ ['\n']) = [line] := by
  induction line with
  | nil => rfl
  | cons c cs ih =>
    obtain ⟨hc, hcs⟩ := List.forall_mem_cons.mp h
    rw [List.cons_append, splitLines_cons hc, ih hcs]
    rfl

section

variable {line a b : String}

theorem lines_append_lineFeed (a b : String) :
    lines (a ++ "\n" ++ b) = lines (a ++ "\n") ++ lines b := by
  have h := splitLines_append_lineFeed a.toList b.toList
  simp [lines, h]

theorem lines_of_oneLine (h : OneLine line) (hne : line ≠ "") : lines line = [line] := by
  rw [lines, splitLines_of_oneLine h (by simpa using hne)]
  simp

theorem lines_oneLine_append (h : OneLine line) (text : String) :
    lines (line ++ "\n" ++ text) = line :: lines text := by
  have hline : splitLines (line ++ "\n").toList = [line.toList] := by
    simpa using splitLines_oneLine_lineFeed h
  rw [lines_append_lineFeed, lines, hline]
  simp

theorem lines_unlines_append {ls : List String} (h : ∀ line ∈ ls, OneLine line) (text : String) :
    lines (unlines ls ++ text) = ls ++ lines text := by
  induction ls with
  | nil => simp [unlines]
  | cons line ls ih =>
    obtain ⟨hline, hls⟩ := List.forall_mem_cons.mp h
    rw [unlines, String.append_assoc, lines_oneLine_append hline, ih hls, List.cons_append]

end

/-! ### Joined and indented texts -/

theorem joinWith_cons_cons (separator part next : String) (rest : List String) :
    joinWith separator (part :: next :: rest) =
      part ++ separator ++ joinWith separator (next :: rest) := rfl

theorem joinWith_cons (separator part : String) {rest : List String} (h : rest ≠ []) :
    joinWith separator (part :: rest) = part ++ separator ++ joinWith separator rest := by
  obtain ⟨next, more, rfl⟩ := List.exists_cons_of_ne_nil h
  exact joinWith_cons_cons separator part next more

theorem joinWith_append (separator : String) {xs ys : List String} (hx : xs ≠ []) (hy : ys ≠ []) :
    joinWith separator (xs ++ ys) =
      joinWith separator xs ++ separator ++ joinWith separator ys := by
  induction xs with
  | nil => exact absurd rfl hx
  | cons x xs ih =>
    cases xs with
    | nil =>
      obtain ⟨y, ys, rfl⟩ := List.exists_cons_of_ne_nil hy
      rfl
    | cons x' xs =>
      have hrest := ih (List.cons_ne_nil _ _)
      rw [List.cons_append] at hrest
      rw [List.cons_append, List.cons_append, joinWith_cons_cons, hrest, joinWith_cons_cons]
      simp only [String.append_assoc]

theorem oneLine_joinWith {separator : String} (hs : OneLine separator) {parts : List String}
    (h : ∀ part ∈ parts, OneLine part) : OneLine (joinWith separator parts) := by
  match parts with
  | [] => exact fun c hc => absurd hc List.not_mem_nil
  | [part] => exact h part List.mem_cons_self
  | part :: next :: rest =>
    obtain ⟨hpart, hrest⟩ := List.forall_mem_cons.mp h
    rw [joinWith_cons_cons]
    exact oneLine_append.mpr ⟨oneLine_append.mpr ⟨hpart, hs⟩, oneLine_joinWith hs hrest⟩

/-- A text is indented at a line feed as if its parts stood alone. -/
theorem indentAll_append (indent a : String) {b : String} (hb : b ≠ "") :
    indentAll indent (a ++ "\n" ++ b) =
      indentAll indent (a ++ "\n") ++ "\n" ++ indentAll indent b := by
  have hfirst : lines (a ++ "\n") ≠ [] := by simpa [lines] using splitLines_ne_nil (by simp)
  have hsecond : lines b ≠ [] := by simpa [lines] using splitLines_ne_nil (by simpa using hb)
  rw [indentAll, lines_append_lineFeed, List.map_append, joinWith_append _ (by simpa using hfirst)
    (by simpa using hsecond)]
  rfl

theorem indentAll_oneLine_append (indent : String) {line : String} (h : OneLine line) {b : String}
    (hb : b ≠ "") :
    indentAll indent (line ++ "\n" ++ b) = indent ++ line ++ "\n" ++ indentAll indent b := by
  have hlines : lines b ≠ [] := by simpa [lines] using splitLines_ne_nil (by simpa using hb)
  have hmap : ((lines b).map (indent ++ ·)) ≠ [] := by simpa using hlines
  rw [indentAll, lines_oneLine_append h, List.map_cons, ← List.singleton_append,
    joinWith_append _ (List.cons_ne_nil _ _) hmap]
  rfl

theorem indentAll_oneLine (indent : String) {line : String} (h : OneLine line) (hne : line ≠ "") :
    indentAll indent line = indent ++ line := by
  rw [indentAll, lines_of_oneLine h hne]
  rfl

end TelemetryBindings.Text
