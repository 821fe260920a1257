import TelemetryBindings.CommandLine.Host
import TelemetryBindings.Compile
import TelemetryBindings.Document.Reading

/-!
# Commands

What the program does when it is called: translate definitions into generated files, check them,
write a configuration file, or list the targets. No file is written unless everything before
succeeded.
-/
namespace TelemetryBindings

/-- What a command was doing when something failed. -/
inductive Activity where
  | readingConfiguration (path : String)
  | parsingConfiguration (path : String)
  | readingDefinitions (path : String)
  | parsingDefinitions (path : String)
  | creatingOutput (path : String)
  | writing (path : String)
  | writingConfiguration (path : String)
  deriving DecidableEq, Repr

def Activity.text : Activity → String
  | .readingConfiguration path => s!"reading configuration file '{path}'"
  | .parsingConfiguration path => s!"parsing configuration file '{path}'"
  | .readingDefinitions path => s!"reading definitions file '{path}'"
  | .parsingDefinitions path => s!"parsing definitions file '{path}'"
  | .creatingOutput path => s!"creating output directory '{path}'"
  | .writing path => s!"writing '{path}'"
  | .writingConfiguration path => s!"writing default configuration to {path}"

inductive CommandError where
  | file (cause : FileFault) (activity : Activity)
  | text (cause : TextFault) (activity : Activity)
  | compile (cause : CompileError)
  deriving DecidableEq, Repr

def CommandError.message : CommandError → String
  | .file cause activity => cause.message ++ "\n> " ++ activity.text
  | .text cause activity => cause.message ++ "\n> " ++ activity.text
  | .compile cause => cause.message

/-- Options as flags give them, with the configuration file that they override. -/
structure Overrides where
  config : Option String := none
  allowReserved : Bool := false
  expireByVersion : Option Nat := none
  expirationDate : Option Date := none
  deriving DecidableEq, Repr

/-- Flags win over the configuration file. -/
def Overrides.apply (o : Overrides) (base : Options) : Options where
  allowReserved := base.allowReserved || o.allowReserved
  expireByVersion := o.expireByVersion <|> base.expireByVersion
  expirationDate := o.expirationDate <|> base.expirationDate

structure Translation where
  inputs : List String
  format : String
  output : String
  namespaces : Namespaces := {}
  overrides : Overrides := {}
  deriving DecidableEq, Repr

structure Checking where
  inputs : List String
  format : Option String := none
  overrides : Overrides := {}
  deriving DecidableEq, Repr

inductive Command where
  | translate (t : Translation)
  | check (c : Checking)
  | init (path : String)
  | targets
  deriving DecidableEq, Repr

/-- The configuration file that `init` writes; all settings in it are defaults. -/
def defaultConfiguration : String :=
  Text.unlines
    ["# glean-codegen configuration",
      "#",
      "# Every key is optional. Values given on the command line take precedence",
      "# over the values in this file.",
      "",
      "# Permit identifiers that are otherwise reserved: categories starting with",
      "# `glean`, the built-in ping names (`baseline`, `metrics`, `events`,",
      "# `deletion-request`), and names that collide with a keyword of the selected",
      "# target language.",
      "allow_reserved = false",
      "",
      "# Metrics whose `expires` is a major version less than or equal to this value",
      "# are generated as disabled.",
      "# expire_by_version = 100",
      "",
      "# Metrics whose `expires` is a date before this one are generated as disabled.",
      "# expiration_date = \"2030-01-01\""]

/-- A file in a directory. -/
def joinPath (directory file : String) : String :=
  if directory = "" ∨ directory.endsWith "/" then directory ++ file
  else directory ++ "/" ++ file

section

variable {m : Type → Type} [Monad m] [Host m]

/-- A step of a command. -/
abbrev Step (m : Type → Type) := ExceptT CommandError m

/-- A file operation as part of an activity. -/
def onFile {α : Type} (activity : Activity) (operation : m (Except FileFault α)) : Step m α :=
  ExceptT.mk do
    let result ← operation
    return result.mapError fun cause => .file cause activity

def onText {α : Type} (activity : Activity) (result : Except TextFault α) : Step m α :=
  ExceptT.mk (pure (result.mapError fun cause => .text cause activity))

def onCompile {α : Type} (result : Except CompileError α) : Step m α :=
  ExceptT.mk (pure (result.mapError .compile))

def logAll (records : List Log.Record) : Step m Unit :=
  ExceptT.lift (records.forM Host.log)

def loadOptions (path : String) : Step m Options := do
  let text ← onFile (.readingConfiguration path) (Host.readText path)
  onText (.parsingConfiguration path) (Options.ofToml text)

def Overrides.resolve (o : Overrides) : Step m Options :=
  match o.config with
  | none => return o.apply {}
  | some path => do
    let base ← loadOptions path
    return o.apply base

def loadDocument (path : String) : Step m SourceDocument := do
  logAll [⟨.debug, " translate", s!"Loading '{path}'"⟩]
  let text ← onFile (.readingDefinitions path) (Host.readText path)
  let root ← onText (.parsingDefinitions path) (Node.ofYaml text)
  return { origin := path, root }

/-- Writes a generated file and gives back its path. -/
def writeDocument (output : String) (d : Document) : Step m String := do
  let path := joinPath output d.fileName
  onFile (.writing path) (Host.writeText path d.contents)
  logAll [⟨.debug, " translate", s!"Wrote '{path}'"⟩]
  return path

namespace Translation

/-- The generated files; nothing has been written yet. -/
def documents (t : Translation) : Step m (List Document) := do
  let options ← t.overrides.resolve
  let sources ← t.inputs.mapM loadDocument
  logAll (compileLog .builtin sources t.format t.namespaces options)
  onCompile (compile .builtin sources t.format t.namespaces options)

/-- Writes all generated files and gives back their paths. -/
def write (t : Translation) (documents : List Document) : Step m (List String) := do
  onFile (.creatingOutput t.output) (Host.createDirectories t.output)
  let paths ← documents.mapM (writeDocument t.output)
  logAll [⟨.info, " translate",
    s!"Generated {paths.length} {t.format} file(s) in '{t.output}'"⟩]
  return paths

def run (t : Translation) : Step m (List String) := do
  let documents ← t.documents
  t.write documents

/-- What is printed after the files were written. -/
def reportLines (t : Translation) (paths : List String) : List String :=
  paths ++ [s!"Generated {paths.length} {t.format} file(s) in {t.output}"]

end Translation

def Checking.run (c : Checking) : Step m Model := do
  let options ← c.overrides.resolve
  let sources ← c.inputs.mapM loadDocument
  logAll (checkLog .builtin sources c.format options)
  onCompile (TelemetryBindings.check .builtin sources c.format options)

def Checking.reportLines (model : Model) : List String :=
  [s!"Definitions are valid: {model.metrics.length} metric(s), {model.pings.length} ping(s)"]

/-- Prints what a command reports, or its error, after which the process is asked to end with
status 1. -/
def conclude {α : Type} (action : String) (report : α → List String)
    (result : Except CommandError α) : m (Except CommandError Unit) :=
  match result with
  | .ok a => do
    (report a).forM Host.printLine
    return .ok ()
  | .error e => do
    Host.printErrorLine s!"❌ {action} failed: {e.message}"
    Host.exit 1
    return .error e

def writeConfiguration (path : String) : Step m Unit := do
  onFile (.writingConfiguration path) (Host.writeText path defaultConfiguration)
  ExceptT.lift (Host.printLine s!"Generated default configuration file: {path}")

/-- Runs a command. -/
def Command.run : Command → m (Except CommandError Unit)
  | .translate t => do
    let result ← t.run.run
    conclude "Translation" t.reportLines result
  | .check c => do
    let result ← c.run.run
    conclude "Validation" Checking.reportLines result
  | .init path => (writeConfiguration path).run
  | .targets => do
    Registry.builtin.names.forM Host.printLine
    return .ok ()

end

end TelemetryBindings
