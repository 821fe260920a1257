import TelemetryBindings.Proofs.Occurrence

/-!
# Escaping comments in one pass

Free text is escaped by two replacements, the second of which reads what the first has written. The
result is that of a single pass over the text, which puts a backslash between any two neighbours
that end a comment or begin one, however they overlap. No shorter text keeps all characters in
their order and is free of such neighbours.
-/
namespace TelemetryBindings

open Text

def Delimits (c d : Char) : Prop := (c = '*' ∧ d = '/') ∨ (c = '/' ∧ d = '*')

instance (c d : Char) : Decidable (Delimits c d) :=
  inferInstanceAs (Decidable ((c = '*' ∧ d = '/') ∨ (c = '/' ∧ d = '*')))

/-- Puts a backslash between every two neighbours that delimit a comment, and changes nothing
else. -/
def breakDelimiters : List Char → List Char
  | [] => []
  | [c] => [c]
  | c :: d :: rest =>
    if Delimits c d then c :: '\\' :: breakDelimiters (d :: rest)
    else c :: breakDelimiters (d :: rest)

def Undelimited (text : List Char) : Prop := text.IsChain fun c d => ¬ Delimits c d

instance (text : List Char) : Decidable (Undelimited text) :=
  inferInstanceAs (Decidable (text.IsChain _))

theorem undelimited_iff (text : String) :
    Undelimited text.toList ↔ ¬ Occurs "*/" text ∧ ¬ Occurs "/*" text := by
  constructor
  · intro h
    have hpair : ∀ c d, Delimits c d → ¬ [c, d] <:+: text.toList := by
      intro c d hdelimits hinfix
      have hchain : [c, d].IsChain fun c d => ¬ Delimits c d := h.infix hinfix
      simp [hdelimits] at hchain
    exact ⟨hpair '*' '/' (by decide), hpair '/' '*' (by decide)⟩
  · rintro ⟨hend, hbegin⟩
    apply List.isChain_iff_forall_rel_of_append_cons_cons.mpr
    rintro c d before after heq (⟨rfl, rfl⟩ | ⟨rfl, rfl⟩)
    · exact hend ⟨before, after, by simp [heq]⟩
    · exact hbegin ⟨before, after, by simp [heq]⟩

/-! ### One replacement -/

section

variable {a b c : Char} {cs : List Char}

theorem breakPair_of_ne (h : c ≠ a) : breakPair a b (c :: cs) = c :: breakPair a b cs := by
  cases cs with
  | nil => rfl
  | cons d rest => simp [breakPair, h]

/-- Occurrences of a pair of different characters do not overlap, so the replacement may go on with
the second of them. -/
theorem breakPair_cons_of_pair (hab : a ≠ b) :
    breakPair a b (a :: b :: cs) = a :: '\\' :: breakPair a b (b :: cs) := by
  rw [breakPair_of_ne hab.symm]
  simp [breakPair]

theorem breakPair_cons_of_not_pair (h : ¬ (c = a ∧ cs.head? = some b)) :
    breakPair a b (c :: cs) = c :: breakPair a b cs := by
  cases cs with
  | nil => rfl
  | cons d rest =>
    rw [breakPair, if_neg]
    simpa using h

end

/-! ### Both replacements -/

theorem escapeCommentChars_eq (line : List Char) :
    escapeCommentChars line = breakDelimiters line := by
  unfold escapeCommentChars
  fun_induction breakDelimiters line with
  | case1 => rfl
  | case2 c => rfl
  | case3 c d rest h ih =>
    rcases h with ⟨rfl, rfl⟩ | ⟨rfl, rfl⟩
    · rw [breakPair_cons_of_pair (by decide), breakPair_of_ne (by decide),
        breakPair_of_ne (by decide), ih]
    · -- The first replacement keeps the asterisk in its place for the second one.
      obtain ⟨tail, htail⟩ : ∃ tail, breakPair '*' '/' ('*' :: rest) = '*' :: tail := by
        have hhead := head?_breakPair '*' '/' ('*' :: rest)
        exact List.head?_eq_some_iff.mp hhead
      rw [breakPair_of_ne (by decide), htail, breakPair_cons_of_pair (by decide), ← htail, ih]
  | case4 c d rest h ih =>
    have hfirst : ¬ (c = '*' ∧ (d :: rest).head? = some '/') := by
      simpa using fun hc hd => h (Or.inl ⟨hc, hd⟩)
    have hsecond : ¬ (c = '/' ∧ (breakPair '*' '/' (d :: rest)).head? = some '*') := by
      rw [head?_breakPair]
      simpa using fun hc hd => h (Or.inr ⟨hc, hd⟩)
    rw [breakPair_cons_of_not_pair hfirst, breakPair_cons_of_not_pair hsecond, ih]

theorem toList_escapeComment (line : String) :
    (escapeComment line).toList = breakDelimiters line.toList := by
  rw [escapeComment, String.toList_ofList, escapeCommentChars_eq]

/-! ### The single pass -/

theorem head?_breakDelimiters (line : List Char) : (breakDelimiters line).head? = line.head? := by
  fun_cases breakDelimiters line <;> rfl

theorem undelimited_breakDelimiters (line : List Char) : Undelimited (breakDelimiters line) := by
  fun_induction breakDelimiters line with
  | case1 => exact List.IsChain.nil
  | case2 c => exact List.IsChain.singleton c
  | case3 c d rest h ih =>
    have hbackslash : ∀ e, ¬ Delimits e '\\' ∧ ¬ Delimits '\\' e := by simp [Delimits]
    apply List.isChain_cons_cons.mpr
    refine ⟨(hbackslash c).1, List.isChain_cons.mpr ⟨fun e _ => (hbackslash e).2, ih⟩⟩
  | case4 c d rest h ih =>
    apply List.isChain_cons.mpr
    rw [head?_breakDelimiters]
    simpa using ⟨h, ih⟩

theorem breakDelimiters_eq_self {line : List Char} (h : Undelimited line) :
    breakDelimiters line = line := by
  fun_induction breakDelimiters line with
  | case1 => rfl
  | case2 c => rfl
  | case3 c d rest hdelimits ih => exact absurd hdelimits (List.isChain_cons_cons.mp h).1
  | case4 c d rest _ ih => rw [ih (List.isChain_cons_cons.mp h).2]

theorem breakDelimiters_eq_self_iff {line : List Char} :
    breakDelimiters line = line ↔ Undelimited line :=
  ⟨fun h => h ▸ undelimited_breakDelimiters line, breakDelimiters_eq_self⟩

/-- Between the characters of every pair a text without delimiters holds one more. -/
theorem length_breakDelimiters_le {line text : List Char} (h : line.Sublist text)
    (htext : Undelimited text) : (breakDelimiters line).length ≤ text.length := by
  fun_induction breakDelimiters line generalizing text with
  | case1 => simp
  | case2 c => exact h.length_le
  | case3 c d rest hdelimits ih =>
    obtain ⟨before, after, rfl, hc, hrest⟩ := List.cons_sublist_iff.mp h
    have hafter : Undelimited after := htext.right_of_append
    by_cases hone : before = [c]
    · -- The character behind the first is another than the second.
      subst hone
      obtain ⟨e, after, rfl⟩ : ∃ e more, after = e :: more :=
        List.exists_cons_of_ne_nil (by rintro rfl; simp at hrest)
      have hne : d ≠ e := by
        rintro rfl
        exact (List.isChain_cons_cons.mp htext).1 hdelimits
      have hrest' : (d :: rest).Sublist after := hrest.of_cons_of_ne hne
      have hle := ih hrest' hafter.of_cons
      simp only [List.length_cons, List.length_append] at hle ⊢
      omega
    · have hlong : 2 ≤ before.length := by
        rcases before with _ | ⟨x, _ | ⟨y, more⟩⟩
        · simp at hc
        · simp_all
        · simp
      have hle := ih hrest hafter
      simp only [List.length_cons, List.length_append] at hle ⊢
      omega
  | case4 c d rest _ ih =>
    obtain ⟨before, after, rfl, hc, hrest⟩ := List.cons_sublist_iff.mp h
    have hle := ih hrest htext.right_of_append
    have hbefore : 0 < before.length := List.length_pos_of_mem hc
    simp only [List.length_cons, List.length_append] at hle ⊢
    omega

/-- Escaping is one pass that breaks all delimiters, overlapping ones as well, and nothing else. The
result holds no delimiter, is kept by escaping it again, and is the text itself exactly if that
holds none. Nothing shorter that has the characters of the text in their order holds none. -/
theorem escapeComment_single_pass (line : String) :
    (escapeComment line).toList = breakDelimiters line.toList ∧
      (¬ Occurs "*/" (escapeComment line) ∧ ¬ Occurs "/*" (escapeComment line)) ∧
      escapeComment (escapeComment line) = escapeComment line ∧
      (escapeComment line = line ↔ ¬ Occurs "*/" line ∧ ¬ Occurs "/*" line) ∧
      ¬ ∃ text : String, line.toList.Sublist text.toList ∧
        text.length < (escapeComment line).length ∧ ¬ Occurs "*/" text ∧ ¬ Occurs "/*" text := by
  have hself : ∀ text : String, escapeComment text = text ↔ Undelimited text.toList := by
    intro text
    rw [← String.toList_inj, toList_escapeComment, breakDelimiters_eq_self_iff]
  have hescaped : Undelimited (escapeComment line).toList := by
    rw [toList_escapeComment]
    exact undelimited_breakDelimiters line.toList
  refine ⟨toList_escapeComment line, (undelimited_iff _).mp hescaped, (hself _).mpr hescaped,
    (hself line).trans (undelimited_iff line), ?_⟩
  rintro ⟨text, hline, hlength, hclear⟩
  have hle := length_breakDelimiters_le hline ((undelimited_iff text).mpr hclear)
  rw [← toList_escapeComment, String.length_toList, String.length_toList] at hle
  omega

example : escapeComment "a /*/ b **//" = "a /\\*\\/ b **\\//" := by decide

end TelemetryBindings
