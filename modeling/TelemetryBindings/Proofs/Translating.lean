import TelemetryBindings.CommandLine.Command
import TelemetryBindings.Proofs.DiskWrites
import TelemetryBindings.Proofs.FileNames

/-!
# What a translation leaves behind

Everything that can be wrong with options, definitions and units is found before anything is
written: until then a translation only looks at the disk. If something is wrong, the command tells so
and ends with status 1, and the disk and the regular output are as they were. If it succeeds, it has
written the files that it lists and no others, all of them directly in the output directory.
-/
namespace TelemetryBindings

/-! ### What is read from a disk -/

def Options.readFrom (disk : Disk) (path : String) : Except CommandError Options := do
  let text ← (disk.readText path).mapError (.file · (.readingConfiguration path))
  (Options.ofToml text).mapError (.text · (.parsingConfiguration path))

def Overrides.resolveOn (o : Overrides) (disk : Disk) : Except CommandError Options :=
  match o.config with
  | none => return o.apply {}
  | some path => return o.apply (← Options.readFrom disk path)

def SourceDocument.readFrom (disk : Disk) (path : String) : Except CommandError SourceDocument := do
  let text ← (disk.readText path).mapError (.file · (.readingDefinitions path))
  let root ← (Node.ofYaml text).mapError (.text · (.parsingDefinitions path))
  return { origin := path, root }

/-- What the definitions on the disk compile to, or the first thing that is wrong. -/
def Translation.documentsOn (t : Translation) (disk : Disk) :
    Except CommandError (List Document) := do
  let options ← t.overrides.resolveOn disk
  let sources ← t.inputs.mapM (SourceDocument.readFrom disk)
  (compile .builtin sources t.format t.namespaces options).mapError .compile

/-! ### Steps that only look at the disk -/

section

variable {α β : Type}

abbrev inMemory (x : Step (StateM Session) α) (s : Session) : Except CommandError α × Session :=
  x.run.run s

theorem inMemory_bind (x : Step (StateM Session) α) (f : α → Step (StateM Session) β)
    (s : Session) :
    inMemory (x >>= f) s = match inMemory x s with
      | (.ok a, s) => inMemory (f a) s
      | (.error e, s) => (.error e, s) := by
  simp only [inMemory, ExceptT.run_bind, StateT.run_bind]
  rcases x.run.run s with ⟨_ | _, _⟩ <;> rfl

/-- The step extends the log and does nothing else to a session; its result is found on the disk. -/
def Observes (x : Step (StateM Session) α) (f : Disk → Except CommandError α) : Prop :=
  ∀ s : Session, ∃ log, inMemory x s = (f s.disk, { s with log })

theorem observes_pure (a : α) : Observes (pure a) fun _ => .ok a := fun s => ⟨s.log, rfl⟩

theorem Observes.bind {x : Step (StateM Session) α} {f : Disk → Except CommandError α}
    {g : α → Step (StateM Session) β} {h : α → Disk → Except CommandError β} (hx : Observes x f)
    (hg : ∀ a, Observes (g a) (h a)) : Observes (x >>= g) fun disk => f disk >>= (h · disk) := by
  intro s
  obtain ⟨log, hlog⟩ := hx s
  simp only [inMemory_bind, hlog]
  cases f s.disk with
  | error e => exact ⟨log, rfl⟩
  | ok a => exact hg a { s with log }

theorem observes_mapM {x : α → Step (StateM Session) β} {f : Disk → α → Except CommandError β}
    (h : ∀ a, Observes (x a) (f · a)) (l : List α) :
    Observes (l.mapM x) fun disk => l.mapM (f disk) := by
  induction l with
  | nil => exact observes_pure []
  | cons a l ih =>
    simp only [List.mapM_cons]
    exact (h a).bind fun b => ih.bind fun bs => observes_pure (b :: bs)

theorem observes_onText (activity : Activity) (result : Except TextFault α) :
    Observes (onText activity result) fun _ => result.mapError (.text · activity) :=
  fun s => ⟨s.log, rfl⟩

theorem observes_onCompile (result : Except CompileError α) :
    Observes (onCompile result) fun _ => result.mapError .compile :=
  fun s => ⟨s.log, rfl⟩

theorem observes_readText (activity : Activity) (path : String) :
    Observes (onFile activity (Host.readText path)) fun disk =>
      (disk.readText path).mapError (.file · activity) :=
  fun s => ⟨s.log, rfl⟩

end

theorem inMemory_logAll (records : List Log.Record) (s : Session) :
    inMemory (logAll records) s = (.ok (), { s with log := s.log ++ records }) := by
  have hrecords : ∀ s : Session, (records.forM (Host.log (m := StateM Session))).run s =
      ((), { s with log := s.log ++ records }) := by
    induction records with
    | nil => exact fun s => by rw [List.append_nil]; rfl
    | cons r records ih =>
      intro s
      refine (ih { s with log := s.log ++ [r] }).trans ?_
      rw [List.append_assoc]
      rfl
  rw [inMemory, logAll, ExceptT.run_lift, StateT.run_map]
  exact congrArg _ (hrecords s)

theorem run_printLines (lines : List String) (s : Session) :
    (lines.forM (Host.printLine (m := StateM Session))).run s =
      ((), { s with output := s.output ++ lines }) := by
  induction lines generalizing s with
  | nil => rw [List.append_nil]; rfl
  | cons line lines ih =>
    refine (ih { s with output := s.output ++ [line] }).trans ?_
    rw [List.append_assoc]
    rfl

theorem observes_logAll (records : List Log.Record) :
    Observes (logAll records) fun _ => .ok () :=
  fun s => ⟨_, inMemory_logAll records s⟩

theorem observes_loadOptions (path : String) :
    Observes (loadOptions path) (Options.readFrom · path) :=
  (observes_readText _ _).bind fun _ => observes_onText _ _

theorem Overrides.observes_resolve (o : Overrides) : Observes o.resolve o.resolveOn := by
  unfold resolve resolveOn
  cases o.config with
  | none => exact observes_pure _
  | some path => exact (observes_loadOptions path).bind fun base => observes_pure (o.apply base)

theorem observes_loadDocument (path : String) :
    Observes (loadDocument path) (SourceDocument.readFrom · path) :=
  (observes_logAll _).bind fun _ => (observes_readText _ _).bind fun _ =>
    (observes_onText _ _).bind fun _ => observes_pure _

theorem Translation.observes_documents (t : Translation) :
    Observes t.documents t.documentsOn :=
  t.overrides.observes_resolve.bind fun _ =>
    (observes_mapM observes_loadDocument t.inputs).bind fun _ =>
      (observes_logAll _).bind fun _ => observes_onCompile _

/-! ### Steps that write -/

def Document.fileIn (directory : String) (d : Document) : String × String :=
  (joinPath directory d.fileName, d.contents)

section

variable {α β : Type} {a : α} {b : β} {files files' : List (String × String)}

/-- If the step succeeds it gives the value, and of a session it has changed nothing but the log and
what receiving the files changes on the disk. -/
def Writes (x : Step (StateM Session) α) (a : α) (files : List (String × String)) : Prop :=
  ∀ s s' result, inMemory x s = (.ok result, s') →
    result = a ∧ ∃ disk log, s' = { s with disk, log } ∧ s.disk.Receives files disk

theorem writes_pure (a : α) : Writes (pure a) a [] := by
  intro s s' result h
  obtain ⟨hresult, rfl⟩ := Prod.mk.inj h
  exact ⟨(Except.ok.inj hresult).symm, s.disk, s.log, rfl, (Disk.AddsDirectories.refl _).receives⟩

theorem writes_logAll (records : List Log.Record) : Writes (logAll records) () [] := by
  intro s s' result h
  rw [inMemory_logAll] at h
  obtain ⟨-, rfl⟩ := Prod.mk.inj h
  exact ⟨rfl, s.disk, _, rfl, (Disk.AddsDirectories.refl _).receives⟩

theorem Writes.bind {x : Step (StateM Session) α} {f : α → Step (StateM Session) β}
    (hx : Writes x a files) (hf : Writes (f a) b files') : Writes (x >>= f) b (files ++ files') := by
  intro s s'' result h
  rw [inMemory_bind] at h
  rcases hrun : inMemory x s with ⟨e | value, s'⟩
  · rw [hrun] at h
    cases (Prod.mk.inj h).1
  · rw [hrun] at h
    obtain ⟨rfl, disk, log, rfl, hfirst⟩ := hx s s' value hrun
    obtain ⟨hresult, disk', log', rfl, hlater⟩ := hf _ s'' result h
    exact ⟨hresult, disk', log', rfl, hfirst.append hlater⟩

theorem writes_mapM {x : α → Step (StateM Session) β} {f : α → β} {file : α → String × String}
    (h : ∀ a, Writes (x a) (f a) [file a]) (l : List α) :
    Writes (l.mapM x) (l.map f) (l.map file) := by
  induction l with
  | nil => exact writes_pure []
  | cons a l ih =>
    have hrest : Writes (do return f a :: (← l.mapM x)) (f a :: l.map f) (l.map file ++ []) :=
      ih.bind (writes_pure _)
    rw [List.append_nil] at hrest
    rw [List.mapM_cons]
    exact (h a).bind hrest

/-- A change of the disk whose every success receives the files. -/
theorem writes_change {operation : Disk → Except FileFault Disk} (activity : Activity)
    (h : ∀ d d', operation d = .ok d' → d.Receives files d') :
    Writes (onFile activity (Session.change operation)) () files := by
  intro s s' result hrun
  cases hop : operation s.disk with
  | error fault =>
    have hchange : inMemory (onFile activity (Session.change operation)) s =
        (.error (.file fault activity), s) := by
      simp [inMemory, onFile, Session.change, ExceptT.mk, ExceptT.run, StateT.run, bind,
        StateT.bind, hop, Except.mapError, pure, StateT.pure]
    rw [hchange] at hrun
    cases (Prod.mk.inj hrun).1
  | ok disk =>
    have hchange : inMemory (onFile activity (Session.change operation)) s =
        (.ok (), { s with disk }) := by
      simp [inMemory, onFile, Session.change, ExceptT.mk, ExceptT.run, StateT.run, bind,
        StateT.bind, hop, Except.mapError, pure, StateT.pure]
    rw [hchange] at hrun
    obtain ⟨-, rfl⟩ := Prod.mk.inj hrun
    exact ⟨rfl, disk, s.log, rfl, h _ _ hop⟩

end

theorem writes_createDirectories (activity : Activity) (path : String) :
    Writes (onFile activity (Host.createDirectories path)) () [] :=
  writes_change activity fun _ _ h => (Disk.addsDirectories_createDirectories h).receives

theorem writes_writeDocument (output : String) (d : Document) :
    Writes (writeDocument output d) (joinPath output d.fileName) [d.fileIn output] :=
  (writes_change (.writing (joinPath output d.fileName))
    fun _ _ h => Disk.receives_writeText h).bind
      ((writes_logAll _).bind (writes_pure _))

/-- The documents are written one after the other into the output directory. -/
theorem Translation.writes_write (t : Translation) (documents : List Document) :
    Writes (t.write documents) (documents.map fun d => joinPath t.output d.fileName)
      (documents.map (·.fileIn t.output)) := by
  have hfiles : documents.map (·.fileIn t.output) =
      [] ++ (documents.map (·.fileIn t.output) ++ ([] ++ [])) := by simp
  rw [hfiles]
  exact (writes_createDirectories _ _).bind
    ((writes_mapM (writes_writeDocument t.output) documents).bind
      ((writes_logAll _).bind (writes_pure _)))

/-! ### The command -/

abbrev Command.inMemory (c : Command) (s : Session) : Except CommandError Unit × Session :=
  (c.run : StateM Session (Except CommandError Unit)).run s

theorem run_conclude {α : Type} (action : String) (report : α → List String)
    (result : Except CommandError α) (s : Session) :
    (conclude action report result : StateM Session (Except CommandError Unit)).run s =
      match result with
      | .ok a => (.ok (), { s with output := s.output ++ report a })
      | .error e => (.error e, { s with
          errors := s.errors ++ [s!"❌ {action} failed: {e.message}"]
          status := some 1 }) := by
  cases result with
  | error e => rfl
  | ok a =>
    rw [conclude, StateT.run_bind, run_printLines]
    rfl

/-- A translation reads, then writes, then tells what it did. -/
theorem inMemory_translate (t : Translation) (s : Session) :
    ∃ log, (Command.translate t).inMemory s =
      match t.documentsOn s.disk with
      | .error e => (.error e, { s with
          errors := s.errors ++ [s!"❌ Translation failed: {e.message}"]
          status := some 1
          log })
      | .ok documents =>
        match inMemory (t.write documents) { s with log } with
        | (.ok paths, s) => (.ok (), { s with output := s.output ++ t.reportLines paths })
        | (.error e, s) => (.error e, { s with
            errors := s.errors ++ [s!"❌ Translation failed: {e.message}"]
            status := some 1 }) := by
  obtain ⟨log, hdocuments⟩ := t.observes_documents s
  refine ⟨log, ?_⟩
  have hcommand : (Command.translate t).inMemory s =
      match inMemory t.run s with
      | (result, s) => (conclude "Translation" t.reportLines result :
          StateM Session (Except CommandError Unit)).run s := rfl
  rw [hcommand, Translation.run, inMemory_bind, hdocuments]
  cases t.documentsOn s.disk with
  | error e => rfl
  | ok documents =>
    simp only
    rcases inMemory (t.write documents) { s with log } with ⟨e | paths, s'⟩
    · exact run_conclude ..
    · exact run_conclude ..

theorem Translation.fileName_of_documentsOn {t : Translation} {disk : Disk}
    {documents : List Document} (h : t.documentsOn disk = .ok documents) :
    ∀ d ∈ documents, ∃ stem, Identifier.Plain stem ∧
      ∃ target : Target, d.fileName = stem ++ target.extension := by
  obtain ⟨options, -, h⟩ := bind_eq_ok_iff.mp h
  obtain ⟨sources, -, h⟩ := bind_eq_ok_iff.mp h
  exact fileName_of_compile (mapError_eq_ok_iff.mp h)

/-- Whatever is translated, no name of a document has a separator in it. -/
theorem Translation.separatorless_fileName {t : Translation} {disk : Disk}
    {documents : List Document} (h : t.documentsOn disk = .ok documents) :
    ∀ d ∈ documents, ∀ c ∈ d.fileName.toList, c ≠ '/' ∧ c ≠ '\\' := by
  intro d hd c hc
  obtain ⟨stem, hstem, target, hname⟩ := t.fileName_of_documentsOn h d hd
  have hclass : Identifier.isNameChar c := by
    rw [hname, String.toList_append, List.mem_append] at hc
    exact hc.elim (hstem c) (target.plain_extension c)
  constructor <;> rintro rfl <;> exact absurd hclass (by decide)

theorem Translation.proper_fileName {t : Translation} {disk : Disk}
    {documents : List Document} (h : t.documentsOn disk = .ok documents) :
    ∀ d ∈ documents, Disk.Proper d.fileName := by
  intro d hd
  obtain ⟨stem, -, target, hname⟩ := t.fileName_of_documentsOn h d hd
  have hlong : 3 ≤ d.fileName.length := by
    have hextension : 3 ≤ target.extension.length := by
      cases target with
      | javascript => exact (by decide : 3 ≤ ".js".length)
      | kotlin _ => exact (by decide : 3 ≤ ".kt".length)
      | swift _ => exact (by decide : 3 ≤ ".swift".length)
    rw [hname, String.length_append]
    exact hextension.trans (Nat.le_add_left _ _)
  have hshort : ∀ name : String, name.length < 3 → d.fileName ≠ name :=
    fun name hlt heq => absurd (heq ▸ hlong) (Nat.not_le.mpr hlt)
  exact ⟨fun hslash => (t.separatorless_fileName h d hd _ hslash).1 rfl, hshort "" (by decide),
    hshort "." (by decide), hshort ".." (by decide)⟩

/-- If options, definitions or units are at fault, the command prints the fault as an error and asks
for status 1, and neither the disk nor the regular output changes. If it succeeds, it has printed
the paths of the compiled documents in the output directory, only files under these paths differ
from before, no name of a document has a separator in it, and all files lie in one directory. -/
theorem translate_noPartialOutput (t : Translation) (s : Session) :
    (∀ e, t.documentsOn s.disk = .error e → ∃ log, (Command.translate t).inMemory s =
      (.error e, { s with
        errors := s.errors ++ [s!"❌ Translation failed: {e.message}"]
        status := some 1
        log })) ∧
    ∀ s', (Command.translate t).inMemory s = (.ok (), s') → ∃ documents disk log,
      t.documentsOn s.disk = .ok documents ∧
      s' = { s with
        disk
        output := s.output ++ t.reportLines (documents.map fun d => joinPath t.output d.fileName)
        log } ∧
      s.disk.Receives (documents.map (·.fileIn t.output)) disk ∧
      (∀ d ∈ documents, ∀ c ∈ d.fileName.toList, c ≠ '/' ∧ c ≠ '\\') ∧
      ∃ directory : Path, ∀ d ∈ documents,
        disk.locate (joinPath t.output d.fileName) = .ok (directory ++ [d.fileName]) := by
  obtain ⟨log, hrun⟩ := inMemory_translate t s
  refine ⟨fun e he => ⟨log, by rw [hrun, he]⟩, fun s' hs' => ?_⟩
  rw [hrun] at hs'
  cases hdocuments : t.documentsOn s.disk with
  | error e =>
    rw [hdocuments] at hs'
    cases (Prod.mk.inj hs').1
  | ok documents =>
    rw [hdocuments] at hs'
    simp only at hs'
    split at hs'
    · next paths written hwrite =>
      obtain ⟨rfl, disk, log', rfl, hreceives⟩ := t.writes_write documents _ _ _ hwrite
      obtain ⟨-, rfl⟩ := Prod.mk.inj hs'
      obtain ⟨directory, hdirectory⟩ := disk.exists_directory_of_locate t.output
      refine ⟨documents, disk, log', rfl, rfl, hreceives, t.separatorless_fileName hdocuments,
        directory, fun d hd => ?_⟩
      obtain ⟨place, hplace, -⟩ := hreceives.written _ (List.mem_map_of_mem hd)
      have hplace : disk.locate (joinPath t.output d.fileName) = .ok place := hplace
      rw [hplace, hdirectory _ _ (t.proper_fileName hdocuments d hd) hplace]
    · cases (Prod.mk.inj hs').1

def tapsText : String :=
  Text.unlines
    ["$schema: moz://mozilla.org/schemas/glean/metrics/1-0-0",
      "nav.bar:",
      "  taps:",
      "    type: counter",
      "    description: Taps.",
      "    bugs: [1]",
      "    notification_emails: [a@example.com]",
      "    expires: never"]

def tapsSession : Session where
  disk := { files := [(["m.yaml"], tapsText)] }

def tapsTranslation (input : String) : Translation where
  inputs := [input]
  format := "kotlin"
  output := "out"

/-- A file that is missing leaves everything as it was; the file that is there gives one more. -/
theorem translate_noPartialOutput_taps :
    (∃ e log, (Command.translate (tapsTranslation "n.yaml")).inMemory tapsSession =
      (.error e, { tapsSession with
        errors := [s!"❌ Translation failed: {e.message}"]
        status := some 1
        log })) ∧
    ∃ s' document, (Command.translate (tapsTranslation "m.yaml")).inMemory tapsSession =
        (.ok (), s') ∧
      s'.output = ["out/NavBar.kt", "Generated 1 kotlin file(s) in out"] ∧
      tapsSession.disk.Receives [("out/NavBar.kt", document)] s'.disk := by
  have hmissing : (tapsTranslation "n.yaml").documentsOn tapsSession.disk =
      .error (.file .notFound (.readingDefinitions "n.yaml")) := by
    decide +kernel
  obtain ⟨log, hfails⟩ := (translate_noPartialOutput _ tapsSession).1 _ hmissing
  have hresult : (((Command.translate (tapsTranslation "m.yaml")).inMemory tapsSession).1,
      ((Command.translate (tapsTranslation "m.yaml")).inMemory tapsSession).2.output) =
        (.ok (), ["out/NavBar.kt", "Generated 1 kotlin file(s) in out"]) := by
    decide +kernel
  refine ⟨⟨_, log, hfails⟩, ?_⟩
  generalize hrun : (Command.translate (tapsTranslation "m.yaml")).inMemory tapsSession = r
    at hresult
  obtain ⟨result, s'⟩ := r
  obtain ⟨rfl, houtput⟩ := Prod.mk.inj hresult
  obtain ⟨documents, disk, log', -, rfl, hreceives, -⟩ :=
    (translate_noPartialOutput _ tapsSession).2 s' hrun
  have hlines : documents.map (fun d => joinPath "out" d.fileName) ++ [_] =
      ["out/NavBar.kt"] ++ [_] := houtput
  have hpaths := (List.append_inj' hlines rfl).1
  obtain ⟨d, rfl, hpath⟩ := List.map_eq_singleton_iff.mp hpaths
  refine ⟨_, d.contents, rfl, houtput, ?_⟩
  rw [← hpath]
  exact hreceives

end TelemetryBindings
