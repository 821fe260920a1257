import Mathlib.Tactic.SplitIfs
import TelemetryBindings.Text.Words

/-!
# The characters of words

Splitting a name into words drops the characters that are not alphanumeric and nothing else, and
leaves no word empty.
-/
namespace TelemetryBindings.Text

theorem flatten_splitCase (side : Side) (word : List Char) {cs : List Char} (h : cs ≠ []) :
    (splitCase side word cs).flatten = word ++ cs := by
  fun_induction splitCase side word cs with
  | case1 => exact absurd rfl h
  | case2 side word c => simp
  | case3 side word c next rest _ ih => simp [ih]
  | case4 side word c next rest _ _ ih => simp [ih]
  | case5 side word c next rest _ _ ih => simp [ih]

theorem flatten_alphanumericRuns (run cs : List Char) :
    (alphanumericRuns run cs).flatten = run ++ cs.filter isAlphanumeric := by
  induction cs generalizing run with
  | nil => simp [alphanumericRuns]
  | cons c cs ih =>
    rw [alphanumericRuns]
    split_ifs with hc
    · simp [ih, hc]
    · simp [ih, hc]

theorem flatten_words (name : List Char) :
    (words name).flatten = name.filter isAlphanumeric := by
  have hsplit : ∀ run, (splitCase .uncased [] run).flatten = run := by
    intro run
    cases run with
    | nil => rfl
    | cons c cs => exact flatten_splitCase _ _ (List.cons_ne_nil c cs)
  have hruns := flatten_alphanumericRuns [] name
  rw [words, List.flatMap_def, List.flatten_flatten, List.map_map]
  simpa [Function.comp_def, hsplit] using hruns

/-- Words are made of the alphanumeric characters of a name. -/
theorem mem_words {name w : List Char} {c : Char} (hw : w ∈ words name) (hc : c ∈ w) :
    c ∈ name ∧ isAlphanumeric c := by
  have hmem : c ∈ (words name).flatten := List.mem_flatten.mpr ⟨w, hw, hc⟩
  rw [flatten_words] at hmem
  exact List.mem_filter.mp hmem

/-- No word is empty. -/
theorem ne_nil_of_mem_splitCase {side : Side} {word cs : List Char}
    (hword : side = .uncased ∨ word ≠ []) : ∀ w ∈ splitCase side word cs, w ≠ [] := by
  fun_induction splitCase side word cs with
  | case1 => simp
  | case2 side word c => simp
  | case3 side word c next rest _ ih =>
    exact List.forall_mem_cons.mpr ⟨by simp, ih (Or.inl rfl)⟩
  | case4 side word c next rest _ hupper ih =>
    refine List.forall_mem_cons.mpr ⟨hword.resolve_left ?_, ih (Or.inl rfl)⟩
    rw [hupper.1]
    decide
  | case5 side word c next rest _ _ ih => exact ih (Or.inr (by simp))

theorem ne_nil_of_mem_words {name w : List Char} (h : w ∈ words name) : w ≠ [] := by
  obtain ⟨run, -, hsplit⟩ := List.mem_flatMap.mp h
  exact ne_nil_of_mem_splitCase (Or.inl rfl) w hsplit

end TelemetryBindings.Text
