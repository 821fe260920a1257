import TelemetryBindings.Proofs.Comments
import TelemetryBindings.Proofs.Names

/-!
# Parts of texts

A part stands in a text in one piece. It stays in one piece when the text is put among others, and
also when the text is divided into lines, as long as no line ends inside the part.
-/
namespace TelemetryBindings

open Identifier

namespace Text

def Occurs (part text : String) : Prop := part.toList <:+: text.toList

def OneLine (text : String) : Prop := ∀ c ∈ text.toList, c ≠ '\n' ∧ c ≠ '\r'

instance (text : String) : Decidable (OneLine text) :=
  decidable_of_iff (text.toList.all fun c => c != '\n' && c != '\r') (by simp [OneLine])

theorem oneLine_append {a b : String} : OneLine (a ++ b) ↔ OneLine a ∧ OneLine b := by
  rw [OneLine, String.toList_append, List.forall_mem_append]
  rfl

theorem oneLine_of_plain {name : String} (h : Plain name) : OneLine name := by
  intro c hc
  constructor <;> rintro rfl <;> exact absurd (h _ hc) (by decide)

section

variable {part a b : String}

theorem Occurs.trans (h : Occurs part a) (hab : Occurs a b) : Occurs part b :=
  List.IsInfix.trans h hab

theorem occurs_append_left (a b : String) : Occurs a (a ++ b) := by
  rw [Occurs, String.toList_append]
  exact (List.prefix_append _ _).isInfix

theorem occurs_append_right (a b : String) : Occurs b (a ++ b) := by
  rw [Occurs, String.toList_append]
  exact (List.suffix_append _ _).isInfix

/-- A name between two texts stands behind the end of the one and before the beginning of the
other. -/
theorem occurs_between {before after : String} (ha : a.toList <:+ before.toList)
    (hb : b.toList <+: after.toList) (name : String) :
    Occurs (a ++ name ++ b) (before ++ name ++ after) := by
  obtain ⟨x, hx⟩ := ha
  obtain ⟨y, hy⟩ := hb
  refine ⟨x, y, ?_⟩
  simp only [String.toList_append, ← hx, ← hy, List.append_assoc]

theorem suffix_append (h : a.toList <:+ b.toList) (text : String) :
    a.toList <:+ (text ++ b).toList := by
  rw [String.toList_append]
  exact h.trans (List.suffix_append _ _)

theorem occurs_unlines {line : String} {ls : List String} (h : line ∈ ls) :
    Occurs line (unlines ls) := by
  obtain ⟨before, after, rfl⟩ := List.append_of_mem h
  refine ⟨(unlines before).toList, '\n' :: (unlines after).toList, ?_⟩
  rw [toList_unlines_append, unlines]
  simp

theorem occurs_joinWith {separator : String} {parts : List String} (h : part ∈ parts) :
    Occurs part (joinWith separator parts) := by
  match parts with
  | [last] => exact List.mem_singleton.mp h ▸ List.infix_rfl
  | first :: next :: rest =>
    rw [joinWith.eq_3 _ _ _ (by simp)]
    rcases List.mem_cons.mp h with rfl | h
    · exact (occurs_append_left _ _).trans (occurs_append_left _ _)
    · exact (occurs_joinWith h).trans (occurs_append_right _ _)

end

/-! ### Parts of one line -/

theorem splitLines_cons {c : Char} (hc : c ≠ '\n' ∧ c ≠ '\r') (cs : List Char) :
    splitLines (c :: cs) = consLine c (splitLines cs) :=
  splitLines.eq_4 c cs hc.1 fun _ hreturn => absurd hreturn hc.2

/-- A beginning without line ends is the beginning of the first line. -/
theorem exists_prefix_splitLines {part text : List Char} (hline : ∀ c ∈ part, c ≠ '\n' ∧ c ≠ '\r')
    (hne : part ≠ []) (h : part <+: text) : ∃ line rest, splitLines text = line :: rest ∧
      part <+: line := by
  induction part generalizing text with
  | nil => exact absurd rfl hne
  | cons c cs ih =>
    obtain ⟨hc, hcs⟩ := List.forall_mem_cons.mp hline
    obtain ⟨more, rfl⟩ := h
    rw [List.cons_append, splitLines_cons hc]
    by_cases hempty : cs = []
    · subst hempty
      cases splitLines ([] ++ more) with
      | nil => exact ⟨_, _, rfl, List.prefix_rfl⟩
      | cons line rest => exact ⟨_, _, rfl, List.prefix_append [c] line⟩
    · obtain ⟨line, rest, hsplit, hprefix⟩ := ih hcs hempty (List.prefix_append cs more)
      rw [hsplit]
      exact ⟨_, _, rfl, (List.prefix_cons_inj c).mpr hprefix⟩

theorem exists_infix_splitLines {part text : List Char} (hline : ∀ c ∈ part, c ≠ '\n' ∧ c ≠ '\r')
    (hne : part ≠ []) (h : part <:+: text) : ∃ line ∈ splitLines text, part <:+: line := by
  -- A part that begins at the first character lies in the first line.
  have hfirst : ∀ {text}, part <+: text → ∃ line ∈ splitLines text, part <:+: line := by
    intro text hprefix
    obtain ⟨line, rest, hsplit, hprefix⟩ := exists_prefix_splitLines hline hne hprefix
    exact ⟨line, hsplit ▸ List.mem_cons_self, hprefix.isInfix⟩
  fun_induction splitLines text with
  | case1 => exact absurd (List.eq_nil_of_infix_nil h) hne
  | case2 cs ih =>
    rcases List.infix_cons_iff.mp h with hprefix | h
    · exact hfirst hprefix
    · obtain ⟨line, hmem, hpart⟩ := ih h
      exact ⟨line, List.mem_cons_of_mem _ hmem, hpart⟩
  | case3 cs ih =>
    rcases List.infix_cons_iff.mp h with hprefix | h
    · exact hfirst hprefix
    · have hcs : part <:+: cs := by
        refine (List.infix_cons_iff.mp h).resolve_left fun hprefix => ?_
        obtain ⟨c, part, rfl⟩ := List.exists_cons_of_ne_nil hne
        obtain ⟨rfl, -⟩ := List.cons_prefix_cons.mp hprefix
        exact absurd rfl (hline _ List.mem_cons_self).1
      obtain ⟨line, hmem, hpart⟩ := ih hcs
      exact ⟨line, List.mem_cons_of_mem _ hmem, hpart⟩
  | case4 c cs hfeed hreturn ih =>
    rcases List.infix_cons_iff.mp h with hprefix | h
    · exact splitLines.eq_4 c cs hfeed hreturn ▸ hfirst hprefix
    · obtain ⟨line, hmem, hpart⟩ := ih h
      cases hrest : splitLines cs with
      | nil => exact absurd (hrest ▸ hmem) List.not_mem_nil
      | cons first rest =>
        rcases List.mem_cons.mp (hrest ▸ hmem) with rfl | hmem
        · exact ⟨_, List.mem_cons_self, List.infix_cons hpart⟩
        · exact ⟨line, List.mem_cons_of_mem _ hmem, hpart⟩

theorem exists_line_of_occurs {part text : String} (hline : OneLine part) (hne : part ≠ "")
    (h : Occurs part text) : ∃ line ∈ lines text, Occurs part line := by
  have hchars : part.toList ≠ [] := by simpa using hne
  obtain ⟨line, hmem, hpart⟩ := exists_infix_splitLines hline hchars h
  refine ⟨String.ofList line, List.mem_map_of_mem hmem, ?_⟩
  rwa [Occurs, String.toList_ofList]

end Text

end TelemetryBindings
