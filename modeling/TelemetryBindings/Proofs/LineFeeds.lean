import TelemetryBindings.Proofs.Comments

/-!
# Texts between line feeds

`pieces` divides a text at its line feeds and nowhere else, so that nothing but the line feeds is
lost. Lines without line feeds, each of them ended by one, are the pieces of the text that they
make.
-/
namespace TelemetryBindings.Text

def pieces (text : String) : List String := (text.toList.splitOn '\n').map String.ofList

def Unbroken (text : String) : Prop := '\n' ∉ text.toList

instance (text : String) : Decidable (Unbroken text) :=
  inferInstanceAs (Decidable ('\n' ∉ text.toList))

theorem unbroken_empty : Unbroken "" := List.not_mem_nil

@[simp] theorem unbroken_append {a b : String} : Unbroken (a ++ b) ↔ Unbroken a ∧ Unbroken b := by
  simp [Unbroken]

theorem pieces_append_lineFeed (a b : String) : pieces (a ++ "\n" ++ b) = pieces a ++ pieces b := by
  simp [pieces, List.splitOn_append_cons_self]

theorem pieces_of_unbroken {line : String} (h : Unbroken line) : pieces line = [line] := by
  have hsplit : line.toList.splitOn '\n' = [line.toList] := by
    apply List.splitOn_eq_singleton
    exact h
  simp [pieces, hsplit]

theorem unlines_singleton (line : String) : unlines [line] = line ++ "\n" := by
  rw [unlines, unlines, String.append_empty]

theorem pieces_unlines_append {ls : List String} (h : ∀ line ∈ ls, Unbroken line) (text : String) :
    pieces (unlines ls ++ text) = ls ++ pieces text := by
  induction ls with
  | nil => simp [unlines]
  | cons line ls ih =>
    obtain ⟨hline, hls⟩ := List.forall_mem_cons.mp h
    rw [unlines, String.append_assoc, pieces_append_lineFeed, pieces_of_unbroken hline, ih hls]
    rfl

theorem notMem_of_mem_splitOn {sep : Char} {cs piece : List Char} (h : piece ∈ cs.splitOn sep) :
    sep ∉ piece := by
  induction cs generalizing piece with
  | nil => simp_all
  | cons c cs ih =>
    rw [List.splitOn_cons_eq_if_modifyHead] at h
    split_ifs at h with hc
    · rcases List.mem_cons.mp h with rfl | h
      · exact List.not_mem_nil
      · exact ih h
    · obtain ⟨first, rest, hsplit⟩ := List.exists_cons_of_ne_nil (List.splitOn_ne_nil sep cs)
      rw [hsplit] at ih h
      rcases List.mem_cons.mp h with rfl | h
      · have hne : sep ≠ c := fun heq => hc (by simp [heq])
        simp [hne, ih List.mem_cons_self]
      · exact ih (List.mem_cons_of_mem _ h)

theorem unbroken_of_mem_pieces {text piece : String} (h : piece ∈ pieces text) :
    Unbroken piece := by
  obtain ⟨cs, hcs, rfl⟩ := List.mem_map.mp h
  rw [Unbroken, String.toList_ofList]
  exact notMem_of_mem_splitOn hcs

theorem notMem_of_mem_splitLines {text line : List Char} (h : line ∈ splitLines text) :
    '\n' ∉ line := by
  fun_induction splitLines text generalizing line with
  | case1 => exact absurd h List.not_mem_nil
  | case2 cs ih | case3 cs ih =>
    rcases List.mem_cons.mp h with rfl | h
    · exact List.not_mem_nil
    · exact ih h
  | case4 c cs hfeed hreturn ih =>
    have hc : '\n' ≠ c := fun heq => hfeed heq.symm
    cases hrest : splitLines cs with
    | nil =>
      rw [hrest, consLine, List.mem_singleton] at h
      simp [h, hc]
    | cons first rest =>
      rw [hrest] at ih h
      rcases List.mem_cons.mp h with rfl | h
      · simp [hc, ih List.mem_cons_self]
      · exact ih (List.mem_cons_of_mem _ h)

theorem unbroken_of_mem_lines {text line : String} (h : line ∈ lines text) : Unbroken line := by
  obtain ⟨cs, hcs, rfl⟩ := List.mem_map.mp h
  rw [Unbroken, String.toList_ofList]
  exact notMem_of_mem_splitLines hcs

theorem isPrefix_of_head?_splitLines {text line : List Char}
    (h : (splitLines text).head? = some line) : line <+: text := by
  fun_induction splitLines text generalizing line with
  | case1 => simp at h
  | case2 cs ih | case3 cs ih =>
    cases h
    exact List.nil_prefix
  | case4 c cs _ _ ih =>
    cases hrest : splitLines cs with
    | nil =>
      rw [hrest] at h
      cases h
      simp
    | cons first rest =>
      rw [hrest] at ih h
      cases h
      exact (List.prefix_cons_inj c).mpr (ih rfl)

/-- A line stands in its text in one piece. -/
theorem isInfix_of_mem_splitLines {text line : List Char} (h : line ∈ splitLines text) :
    line <:+: text := by
  fun_induction splitLines text generalizing line with
  | case1 => exact absurd h List.not_mem_nil
  | case2 cs ih =>
    rcases List.mem_cons.mp h with rfl | h
    · exact List.nil_infix
    · exact List.infix_cons (ih h)
  | case3 cs ih =>
    rcases List.mem_cons.mp h with rfl | h
    · exact List.nil_infix
    · exact List.infix_cons (List.infix_cons (ih h))
  | case4 c cs hfeed hreturn ih =>
    -- The first line begins the text, and the others are lines of what follows its first character.
    have hfirst : ∀ first, (consLine c (splitLines cs)).head? = some first → first <+: c :: cs := by
      rw [← splitLines.eq_4 c cs hfeed hreturn]
      exact fun first => isPrefix_of_head?_splitLines
    cases hrest : splitLines cs with
    | nil =>
      rw [hrest] at h hfirst
      rw [List.mem_singleton.mp h]
      exact (hfirst _ rfl).isInfix
    | cons first rest =>
      rw [hrest] at ih h hfirst
      rcases List.mem_cons.mp h with rfl | h
      · exact (hfirst _ rfl).isInfix
      · exact List.infix_cons (ih (List.mem_cons_of_mem _ h))

end TelemetryBindings.Text
