import TelemetryBindings.CommandLine.Command

/-!
# Arguments

How a list of arguments becomes a command. An option is written `--name value`, `--name=value`,
`-n value`, `-nvalue` or `-n=value`, and flags of one letter may be joined. A value that stands
alone may not look like an option. After `--` everything is an input. The arguments are taken one by
one, so that a request for help counts only if nothing before it was wrong.
-/
namespace TelemetryBindings

/-- Why arguments do not lead to a command. -/
inductive Refusal where
  /-- Help or the version was asked for. -/
  | informs
  | invalid
  deriving DecidableEq, Repr

/-- The status with which the process ends. -/
def Refusal.status : Refusal → Nat
  | .informs => 0
  | .invalid => 2

/-- How much of the log is shown. -/
inductive Verbosity where
  | none
  | upTo (level : Log.Level)
  deriving DecidableEq, Repr

def Verbosity.ofWord? : String → Option Verbosity
  | "none" => some .none
  | "error" => some (.upTo .error)
  | "warn" => some (.upTo .warn)
  | "info" => some (.upTo .info)
  | "debug" => some (.upTo .debug)
  | "trace" => some (.upTo .trace)
  | _ => Option.none

inductive Flag where
  | help
  | version
  | logLevel
  | format
  | output
  | namespace
  | runtimeNamespace
  | config
  | allowReserved
  | expireByVersion
  | expirationDate
  deriving DecidableEq, Repr

namespace Flag

def name : Flag → String
  | help => "help"
  | version => "version"
  | logLevel => "log-level"
  | format => "format"
  | output => "output"
  | .namespace => "namespace"
  | runtimeNamespace => "glean-namespace"
  | config => "config"
  | allowReserved => "allow-reserved"
  | expireByVersion => "expire-by-version"
  | expirationDate => "expiration-date"

def letter? : Flag → Option Char
  | help => some 'h'
  | version => some 'V'
  | format => some 'f'
  | output => some 'o'
  | config => some 'c'
  | _ => none

def takesValue : Flag → Bool
  | help | version | allowReserved => false
  | _ => true

end Flag

/-- What the arguments of one command have given so far. -/
structure Draft where
  verbosity : Option Verbosity := none
  inputs : List String := []
  format : Option String := none
  output : Option String := none
  namespaces : Namespaces := {}
  overrides : Overrides := {}
  deriving DecidableEq, Repr

/-- Decimal digits with an optional sign, for a number that is not negative and below 2^32. -/
def parseVersion? (s : String) : Option Nat :=
  match s.toList with
  | '-' :: cs => (natural? cs).filter (· == 0)
  | '+' :: cs => (natural? cs).filter (· < 0x100000000)
  | cs => (natural? cs).filter (· < 0x100000000)
where
  natural? (cs : List Char) : Option Nat := if cs.isEmpty then none else Text.number? 10 cs

namespace Draft

/-- Fills a place that must still be empty. -/
def fill {α β : Type} (place : Option α) (value : Option α) (set : α → β) : Except Refusal β :=
  match place, value with
  | none, some a => .ok (set a)
  | _, _ => .error .invalid

def set (d : Draft) (flag : Flag) (value : String) : Except Refusal Draft :=
  match flag with
  | .logLevel =>
    fill d.verbosity (Verbosity.ofWord? value) fun v => { d with verbosity := some v }
  | .format => fill d.format (some value) fun v => { d with format := some v }
  | .output => fill d.output (some value) fun v => { d with output := some v }
  | .namespace => fill d.namespaces.generated (some value) fun v =>
    { d with namespaces := { d.namespaces with generated := some v } }
  | .runtimeNamespace => fill d.namespaces.runtime (some value) fun v =>
    { d with namespaces := { d.namespaces with runtime := some v } }
  | .config => fill d.overrides.config (some value) fun v =>
    { d with overrides := { d.overrides with config := some v } }
  | .expireByVersion => fill d.overrides.expireByVersion (parseVersion? value) fun v =>
    { d with overrides := { d.overrides with expireByVersion := some v } }
  | .expirationDate => fill d.overrides.expirationDate (Date.parse? value) fun v =>
    { d with overrides := { d.overrides with expirationDate := some v } }
  | .help | .version | .allowReserved => .error .invalid

/-- A flag without a value. -/
def raise (d : Draft) : Flag → Except Refusal Draft
  | .allowReserved =>
    if d.overrides.allowReserved then .error .invalid
    else .ok { d with overrides := { d.overrides with allowReserved := true } }
  | .help | .version => .error .informs
  | _ => .error .invalid

end Draft

/-- What one command takes: flags, a number of inputs, or a command behind its own flags. -/
structure Signature where
  flags : List Flag
  /-- The largest number of inputs, if there is one. -/
  maxInputs : Option Nat := none
  /-- The first input names a command, which takes the rest. -/
  isGroup : Bool := false

/-- A draft, and an option that was named last, with its value if that stood alone: it is settled
only when the next one is named. -/
structure Reading where
  draft : Draft := {}
  last : Option (Flag × Option String) := none

namespace Reading

def settle (r : Reading) : Except Refusal Draft :=
  match r.last with
  | none => .ok r.draft
  | some (flag, some value) => r.draft.set flag value
  | some (_, none) => .error .invalid

/-- Names a flag, with its value if that is attached. -/
def name (r : Reading) (flag : Flag) (attached : Option String) : Except Refusal Reading := do
  let draft ← r.settle
  match attached with
  | some value =>
    let draft ← draft.set flag value
    return { draft }
  | none =>
    if flag.takesValue then return { draft, last := some (flag, none) }
    else
      let draft ← draft.raise flag
      return { draft }

def input (r : Reading) (s : Signature) (value : String) : Except Refusal Reading := do
  let draft ← r.settle
  if s.isGroup ∨ s.maxInputs.any fun n => n ≤ draft.inputs.length then .error .invalid
  else return { draft := { draft with inputs := draft.inputs ++ [value] } }

end Reading

namespace Signature

def findNamed? (s : Signature) (name : String) : Except Refusal Flag :=
  match s.flags.find? (·.name == name) with
  | some flag => .ok flag
  | none => .error .invalid

/-- An argument after its two dashes. -/
def long (s : Signature) (r : Reading) (argument : List Char) : Except Refusal Reading := do
  let name := argument.takeWhile (· != '=')
  let flag ← s.findNamed? (String.ofList name)
  match argument.dropWhile (· != '=') with
  | [] => r.name flag none
  | _ :: value => r.name flag (some (String.ofList value))

/-- An argument after its only dash: letters of flags, up to the first that takes a value. -/
def short (s : Signature) (r : Reading) : List Char → Except Refusal Reading
  | [] => .ok r
  | c :: cs =>
    match s.flags.find? (·.letter? == some c) with
    | none => .error .invalid
    | some flag =>
      if flag.takesValue then
        match cs with
        | [] => r.name flag none
        | '=' :: value => r.name flag (some (String.ofList value))
        | value => r.name flag (some (String.ofList value))
      else do
        let r ← r.name flag none
        s.short r cs

/-- The argument is no value, since it looks like an option. -/
def looksLikeOption (argument : String) : Bool :=
  argument.startsWith "-" && argument != "-"

/-- Reads arguments, and stops in front of the name of a command. -/
def read (s : Signature) (onlyInputs : Bool) (r : Reading) :
    List String → Except Refusal (Reading × List String)
  | [] => .ok (r, [])
  | a :: as =>
    if onlyInputs then do
      let r ← r.input s a
      s.read true r as
    else match r.last with
      | some (flag, none) =>
        if looksLikeOption a then .error .invalid
        else s.read false { r with last := some (flag, some a) } as
      | _ =>
        match a.toList with
        | ['-', '-'] => s.read true r as
        | '-' :: '-' :: cs => do
          let r ← s.long r cs
          s.read false r as
        | '-' :: c :: cs => do
          let r ← s.short r (c :: cs)
          s.read false r as
        | _ =>
          if s.isGroup then .ok (r, a :: as)
          else do
            let r ← r.input s a
            s.read false r as

/-- Reads all arguments of a command. -/
def draft (s : Signature) (arguments : List String) : Except Refusal Draft := do
  let (r, _) ← s.read false {} arguments
  r.settle

def program : Signature where
  flags := [.help, .version, .logLevel]
  isGroup := true

def overrideFlags : List Flag := [.config, .allowReserved, .expireByVersion, .expirationDate]

def translate : Signature where
  flags := [.help, .logLevel, .format, .output, .namespace, .runtimeNamespace] ++ overrideFlags

def check : Signature where
  flags := [.help, .logLevel, .format] ++ overrideFlags

def init : Signature where
  flags := [.help, .logLevel]
  maxInputs := some 1

def targets : Signature where
  flags := [.help, .logLevel]
  maxInputs := some 0

end Signature

namespace Draft

def translation? (d : Draft) : Except Refusal Translation :=
  match d.inputs, d.format, d.output with
  | [], _, _ => .error .invalid
  | inputs, some format, some output =>
    .ok { inputs, format, output, namespaces := d.namespaces, overrides := d.overrides }
  | _, _, _ => .error .invalid

def checking? (d : Draft) : Except Refusal Checking :=
  if d.inputs.isEmpty then .error .invalid
  else .ok { inputs := d.inputs, format := d.format, overrides := d.overrides }

end Draft

/-- A command and how much of its log is shown. -/
structure Invocation where
  verbosity : Verbosity
  command : Command
  deriving DecidableEq, Repr

namespace Command

def names : List String := ["translate", "check", "init", "targets", "help"]

/-- Help for the program or for one command. -/
def help (arguments : List String) : Refusal :=
  match arguments with
  | [] => .informs
  | [name] => if names.contains name then .informs else .invalid
  | _ => .invalid

/-- Reads the arguments of a command with a given name. -/
def ofArguments (name : String) (arguments : List String) : Except Refusal (Draft × Command) :=
  match name with
  | "translate" => do
    let d ← Signature.translate.draft arguments
    let t ← d.translation?
    return (d, .translate t)
  | "check" => do
    let d ← Signature.check.draft arguments
    let c ← d.checking?
    return (d, .check c)
  | "init" => do
    let d ← Signature.init.draft arguments
    return (d, .init (d.inputs.headD "glean-codegen.toml"))
  | "targets" => do
    let d ← Signature.targets.draft arguments
    return (d, .targets)
  | "help" => .error (help arguments)
  | _ => .error .invalid

end Command

/-- Reads the arguments of the program. The verbosity may be given before or after the name of the
command, and the latter wins. -/
def Invocation.ofArguments (arguments : List String) : Except Refusal Invocation := do
  match ← Signature.program.read false {} arguments with
  | (_, []) => .error .invalid
  | (r, name :: rest) =>
    let (own, command) ← Command.ofArguments name rest
    let outer ← r.settle
    return { verbosity := (own.verbosity <|> outer.verbosity).getD .none, command }

end TelemetryBindings
