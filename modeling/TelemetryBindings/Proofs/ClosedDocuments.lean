import TelemetryBindings.Proofs.FreeText

/-!
# Generated files are lexically closed

Every file that compiling returns can be scanned to its end without a string, a comment or a bracket
left open: descriptions cannot leave the comments they stand in, declarations are closed whatever
they declare, and the text around the entries closes in its footer what it opens in its header.
Indentation changes nothing of this, since it stands at the beginnings of lines.
-/
namespace TelemetryBindings

open Identifier Text

namespace Text

/-! ### Comments -/

/-- A comment lasts as long as its end does not occur, also after an asterisk if no slash comes
next. -/
theorem settle_run_unclosed {text : List Char} (h : Unclosed text) (due : List Char) :
    (Scanner.run ⟨.blockComment, due⟩ text).settle = ⟨.blockComment, due⟩ ∧
      (text.head? ≠ some '/' →
        (Scanner.run ⟨.star, due⟩ text).settle = ⟨.blockComment, due⟩) := by
  induction text with
  | nil => exact ⟨rfl, fun _ => rfl⟩
  | cons c cs ih =>
    obtain ⟨hc, hcs⟩ := List.isChain_cons.mp h
    obtain ⟨hinside, hstar⟩ := ih hcs
    by_cases hasterisk : c = '*'
    · subst hasterisk
      have hnext : cs.head? ≠ some '/' := fun hhead => hc '/' hhead ⟨rfl, rfl⟩
      exact ⟨hstar hnext, fun _ => hstar hnext⟩
    · have hblock : Scanner.step ⟨.blockComment, due⟩ c = ⟨.blockComment, due⟩ :=
        if_neg hasterisk
      refine ⟨by rwa [Scanner.run_cons, hblock], fun hhead => ?_⟩
      have hslash : c ≠ '/' := fun hslash => hhead (congrArg some hslash)
      have hafter : Scanner.step ⟨.star, due⟩ c = ⟨.blockComment, due⟩ :=
        (if_neg hslash).trans (if_neg hasterisk)
      rwa [Scanner.run_cons, hafter]

theorem run_unclosedLines {ls : List String} (h : ∀ line ∈ ls, Unclosed line.toList)
    (due : List Char) :
    Scanner.run ⟨.blockComment, due⟩ (unlines ls).toList = ⟨.blockComment, due⟩ := by
  induction ls with
  | nil => rfl
  | cons line ls ih =>
    obtain ⟨hline, hls⟩ := List.forall_mem_cons.mp h
    have hend : (Scanner.run ⟨.blockComment, due⟩ line.toList).step '\n' =
        ⟨.blockComment, due⟩ := by
      rw [← Scanner.step_settle_lineFeed, (settle_run_unclosed hline due).1]
      rfl
    rw [unlines, String.toList_append, String.toList_append, Scanner.run_append,
      Scanner.run_append]
    exact (congrArg (Scanner.run · (unlines ls).toList) hend).trans (ih hls)

theorem closed_unlines_append {ls ms : List String} (hl : Closed (unlines ls))
    (hm : Closed (unlines ms)) : Closed (unlines (ls ++ ms)) := by
  rw [unlines_append]
  exact hl.append hm

end Text

/-! ### Entries -/

namespace Entry

/-- Whatever is described, the comment ends where the entry ends it. -/
theorem closed_commentLines (e : Entry) : Closed (unlines e.commentLines) := by
  obtain ⟨inner, hlines, hinner⟩ := e.exists_inner_commentLines
  have hinside := run_unclosedLines fun line hline => (hinner line hline).1
  intro due
  rw [hlines, ← List.singleton_append, toList_unlines_append, toList_unlines_append,
    Scanner.run_append, Scanner.run_append]
  have hopening : Scanner.run ⟨.code, [] ++ due⟩ (unlines ["/**"]).toList =
      ⟨.blockComment, due⟩ := rfl
  rw [hopening, hinside]
  rfl

/-- A separator without marks does not show at the end of a line. -/
theorem run_terminated {separator : String} (hs : Idle separator) (ls : List String)
    (s : Scanner) :
    s.run (unlines (terminated separator ls)).toList = s.run (unlines ls).toList := by
  match ls with
  | [] => rfl
  | [last] =>
    simp only [terminated, unlines, String.toList_append, Scanner.run_append]
    exact congrArg (Scanner.run · []) (Scanner.step_run_of_idle hs _)
  | line :: next :: rest =>
    rw [terminated.eq_3 _ _ _ (by simp)]
    simp only [unlines, String.toList_append, Scanner.run_append]
    simpa only [unlines, String.toList_append, Scanner.run_append] using
      run_terminated hs (next :: rest) _

theorem closed_lines {separator : String} (hs : Idle separator) {e : Entry} (h : e.Contained) :
    Closed (unlines (e.lines separator)) := by
  have hpreamble : ∀ blocks : List String, (∀ block ∈ blocks, Text.Contained block) →
      Closed (unlines (blocks.flatMap fun block => Text.lines block ++ [""])) := by
    intro blocks hblocks
    induction blocks with
    | nil => exact closed_of_idle idle_empty
    | cons block blocks ih =>
      obtain ⟨hblock, hrest⟩ := List.forall_mem_cons.mp hblocks
      have hblank : Closed (unlines [""]) := by decide
      exact closed_unlines_append
        (closed_unlines_append (closed_unlines_lines hblock.closed) hblank) (ih hrest)
  have hdeclaration : Closed (unlines (terminated separator (Text.lines e.declaration))) := by
    intro due
    rw [run_terminated hs]
    exact closed_unlines_lines h.declaration.closed due
  exact closed_unlines_append (hpreamble e.preamble h.preamble)
    (closed_unlines_append e.closed_commentLines hdeclaration)

end Entry

/-! ### Documents -/

/-- The footer closes the brackets that the header opens, and nothing else of the layout has a
meaning. -/
structure Layout.Encloses (l : Layout) (due : List Char) : Prop where
  header : Takes [] due l.header
  footer : Takes due [] l.footer
  indent : Idle l.indent
  separator : Idle l.separator

namespace Layout

variable {l : Layout} {due : List Char}

theorem indents_indentLine (h : Idle l.indent) : Indents l.indentLine := by
  intro line s hs
  rw [indentLine]
  split
  · next hempty => rw [hempty]
  · exact indents_append h line s hs

theorem closed_bodyLines (hs : Idle l.separator) {es : List Entry} (h : ∀ e ∈ es, e.Contained) :
    Closed (unlines (l.bodyLines es)) := by
  match es with
  | [] => exact closed_of_idle idle_empty
  | [e] => exact Entry.closed_lines hs (h e List.mem_cons_self)
  | e :: next :: rest =>
    have hblank : Closed ("" ++ "\n") := by decide
    have hrest : Closed (unlines ("" :: l.bodyLines (next :: rest))) :=
      hblank.append (closed_bodyLines hs fun f hf => h f (List.mem_cons_of_mem e hf))
    rw [bodyLines.eq_3 _ _ _ (by simp)]
    exact closed_unlines_append (Entry.closed_lines hs (h e List.mem_cons_self)) hrest

theorem closed_render (hl : l.Encloses due) {es : List Entry} (h : ∀ e ∈ es, e.Contained) :
    Closed (l.render es) := by
  have hbody : Closed (unlines ((l.bodyLines es).map l.indentLine)) := by
    intro rest
    rw [run_unlines_map (indents_indentLine hl.indent) _ rfl]
    exact closed_bodyLines hl.separator h rest
  exact (hl.header.append (hbody.within due)).append hl.footer

end Layout

/-! ### Headers and footers -/

def isNamespaceChar (c : Char) : Bool := isAlphanumeric c || c == '_' || c == '.'

/-- All namespaces consist of letters, digits, underscores and dots. -/
structure Namespaces.Dotted (n : Namespaces) : Prop where
  generated : ∀ s ∈ n.generated, ∀ c ∈ s.toList, isNamespaceChar c
  runtime : ∀ s ∈ n.runtime, ∀ c ∈ s.toList, isNamespaceChar c

theorem isMark_of_isNamespaceChar {c : Char} (h : isNamespaceChar c) : isMark c = false := by
  unfold isMark
  split
  case h_12 => rfl
  all_goals exact absurd h (by decide)

theorem idle_getD {o : Option String} {default : String}
    (h : ∀ s ∈ o, ∀ c ∈ s.toList, isNamespaceChar c) (hd : Idle default) :
    Idle (o.getD default) := by
  cases o with
  | none => exact hd
  | some s => exact fun c hc => isMark_of_isNamespaceChar (h s rfl c hc)

theorem QualifiedName.idle_qualify {space name : String} (hs : Idle space) (hn : Idle name) :
    Idle (qualify space name) := by
  rw [qualify]
  split
  · exact hn
  · exact idle_append.mpr ⟨idle_append.mpr ⟨hs, by decide⟩, hn⟩

theorem JavaScript.encloses_layout {u : OutputUnit} (hid : Plain u.id) :
    (JavaScript.layout u).Encloses ['\x7d'] where
  header := by
    have hnotice : Closed
        "// AUTOGENERATED BY glean-codegen. DO NOT EDIT. DO NOT COMMIT.\n\nconst " := by decide
    have hopening : Takes [] ['\x7d'] " = \x7b\n" := by decide
    exact Takes.append (hnotice.append (closed_of_idle (idle_of_plain hid))) hopening
  footer := by
    have hclosing : Takes ['\x7d'] [] "\x7d;\n\nexport default " := by decide
    have hend : Closed ";\n" := by decide
    exact (hclosing.append (closed_of_idle (idle_of_plain hid))).append hend
  indent := (by decide : Idle indent)
  separator := (by decide : Idle ",")

theorem Kotlin.encloses_layout {k : Kotlin} (hp : Idle k.package) (hr : Idle k.runtime)
    {u : OutputUnit} (hid : Plain u.id) : (k.layout u).Encloses ['\x7d'] where
  header := by
    have hnotice : Closed
        "/*\n * AUTOGENERATED BY glean-codegen. DO NOT EDIT. DO NOT COMMIT.\n */\n\n" := by decide
    have hsuppress : Closed "@file:Suppress(\"PackageNaming\", \"MaxLineLength\")\n" := by decide
    have hpackage : Closed ("package " ++ k.package) :=
      closed_of_idle (idle_append.mpr ⟨by decide, hp⟩)
    have hblank : Closed "\n\n" := by decide
    have himports : Closed (unlines ((k.imports u).map ("import " ++ ·))) := by
      refine closed_unlines (List.forall_mem_map.mpr fun path hpath => closed_of_idle ?_)
      obtain ⟨i, -, hi⟩ := List.mem_flatMap.mp (Text.mem_sortedSet.mp hpath)
      obtain ⟨word, hword, rfl⟩ := exists_plain_of_mem_mentioned i path hi
      exact idle_append.mpr ⟨by decide, QualifiedName.idle_qualify hr (idle_of_plain hword)⟩
    have hobject : Closed ("\ninternal object " ++ containerName u) :=
      Closed.append (by decide) (closed_of_idle (idle_pascal hid))
    have hopening : Takes [] ['\x7d'] " \x7b\n" := by decide
    have hfront := ((((hnotice.append hsuppress).append hpackage).append hblank).append
      himports).append hobject
    have hheader := Takes.append hfront hopening
    unfold layout
    simpa only [String.append_assoc] using hheader
  footer := (by decide : Takes ['\x7d'] [] "\x7d\n")
  indent := (by decide : Idle indent)
  separator := idle_empty

theorem Swift.encloses_layout {w : Swift} (he : Idle w.extended) (hr : Idle w.runtime)
    {u : OutputUnit} (hid : Plain u.id) : (w.layout u).Encloses ['\x7d', '\x7d'] where
  header := by
    have hnotice : Closed
        "// AUTOGENERATED BY glean-codegen. DO NOT EDIT. DO NOT COMMIT.\n\n" := by decide
    have himport : Closed ("import " ++ w.runtime) :=
      closed_of_idle (idle_append.mpr ⟨by decide, hr⟩)
    have hblank : Closed "\n\n" := by decide
    have hrules : Closed (unlines (lintRules.map ("// swiftlint:disable " ++ ·))) := by
      decide +kernel
    have hextension : Closed ("\nextension " ++ w.extended) :=
      Closed.append (by decide) (closed_of_idle he)
    have hopening : Takes [] ['\x7d'] " \x7b\n" := by decide
    have hinner : Takes ['\x7d'] ['\x7d', '\x7d'] " \x7b\n" := by decide
    have henum : Closed (indent ++ "enum " ++ containerName u) := by
      refine closed_of_idle ?_
      simp only [idle_append]
      exact ⟨⟨by decide, by decide⟩, idle_pascal hid⟩
    have hfront := ((((hnotice.append himport).append hblank).append hrules).append hextension)
    have houter := Takes.append hfront hopening
    have hheader := (houter.append (henum.within ['\x7d'])).append hinner
    unfold layout
    simpa only [String.append_assoc] using hheader
  footer := by
    have hindent : Closed indent := closed_of_idle (by decide)
    exact (hindent.within _).append (by decide)
  indent := (by decide : Idle (indent ++ indent))
  separator := idle_empty

/-- The text around the entries is balanced for every target of dotted namespaces. -/
theorem Target.exists_encloses_layout {targetName : String} {namespaces : Namespaces} {t : Target}
    (hn : namespaces.Dotted) (ht : Registry.builtin.create targetName namespaces = .ok t)
    {u : OutputUnit} (hid : Plain u.id) : ∃ due, (t.layout u).Encloses due := by
  obtain ⟨-, rfl⟩ | ⟨-, rfl⟩ | ⟨-, rfl⟩ := Registry.create_builtin_eq_ok_iff.mp ht
  · exact ⟨_, JavaScript.encloses_layout hid⟩
  · have hpackage : Idle (namespaces.generatedOr "GleanMetrics") :=
      idle_getD hn.generated (by decide)
    have hruntime : Idle (namespaces.runtimeOr "mozilla.components.service.glean") :=
      idle_getD hn.runtime (by decide)
    have hprivate : Idle (Kotlin.ofNamespaces namespaces).runtime :=
      idle_append.mpr ⟨hruntime, by decide⟩
    exact ⟨_, Kotlin.encloses_layout hpackage hprivate hid⟩
  · have hextended : Idle (namespaces.generatedOr "GleanMetrics") :=
      idle_getD hn.generated (by decide)
    have hruntime : Idle (namespaces.runtimeOr "Glean") := idle_getD hn.runtime (by decide)
    exact ⟨_, Swift.encloses_layout hextended hruntime hid⟩

/-! ### Files -/

section

variable {documents : List SourceDocument} {targetName : String} {namespaces : Namespaces}
  {options : Options} {files : List Document}

/-- Every file that compiling returns is lexically closed. -/
theorem lexicallyClosed_of_compile (hn : namespaces.Dotted)
    (h : compile .builtin documents targetName namespaces options = .ok files) :
    ∀ file ∈ files, LexicallyClosed file.contents := by
  obtain ⟨t, ht, hacceptable, -, hfiles⟩ := compile_eq_ok_iff.mp h
  have hplain := plainNames_instrumentsOf (acceptable_findingsOf_iff.mp hacceptable).1
  refine forall_mem_of_mapM hfiles fun u hu file hfile => ?_
  obtain ⟨i, hi, rfl⟩ := mem_partition.mp hu
  obtain ⟨entries, hentries, rfl⟩ := Target.renderUnit_eq_ok_iff.mp hfile
  have hcontained : ∀ e ∈ entries, e.Contained :=
    forall_mem_of_mapM hentries fun j hj _ =>
      Target.contained_entry (hplain j (List.mem_filter.mp hj).1)
  have hid : Plain (unitOf (instrumentsOf ⟨options, some t⟩ documents) i.unitId).id :=
    (hplain i hi).unitId
  obtain ⟨due, hlayout⟩ := Target.exists_encloses_layout hn ht hid
  exact (Layout.closed_render hlayout hcontained).lexicallyClosed

end

theorem lexicallyClosed_of_compile_unruly :
    ∃ files, compile .builtin (describedDocuments unrulyText) "swift"
        ⟨some "com.example", none⟩ {} = .ok files ∧
      ∀ file ∈ files, LexicallyClosed file.contents := by
  have hdotted : ∀ c ∈ "com.example".toList, isNamespaceChar c := by
    simp [isNamespaceChar, isAlphanumeric]
  have hn : Namespaces.Dotted ⟨some "com.example", none⟩ :=
    ⟨fun s hs => Option.some.inj hs ▸ hdotted, fun s hs => absurd hs (by simp)⟩
  have hok : (compile .builtin (describedDocuments unrulyText) "swift"
      ⟨some "com.example", none⟩ {}).isOk = true := by decide +kernel
  obtain ⟨files, h⟩ := exists_eq_ok_of_isOk hok
  exact ⟨files, h, lexicallyClosed_of_compile hn h⟩

end TelemetryBindings
