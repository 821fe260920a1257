import TelemetryBindings.CommandLine.Arguments

/-!
# The program

Commands on the real file system and the streams of the process.
-/
namespace TelemetryBindings

/-- A process keeps the exit status that was asked for and shows the log up to a level. -/
abbrev Terminal := StateT (Option Nat) (ReaderT Verbosity IO)

namespace Terminal

def faultOf : IO.Error → FileFault
  | .noFileOrDirectory .. => .notFound
  | .alreadyExists .. => .exists
  | .inappropriateType _ code details | .unsupportedOperation code details =>
    if code = 20 then .notDirectory
    else if code = 21 then .isDirectory
    else .other details
  | .userError _ => .notText
  | e => .other (toString e)

def attempt {α : Type} (action : IO α) : Terminal (Except FileFault α) := do
  let result ← action.toBaseIO
  return result.mapError faultOf

def shows (verbosity : Verbosity) (record : Log.Record) : Bool :=
  match verbosity with
  | .none => false
  | .upTo level => record.level.rank ≤ level.rank

end Terminal

instance : Host Terminal where
  readText path := Terminal.attempt (IO.FS.readFile path)
  createDirectories path :=
    Terminal.attempt (if path = "" then pure () else IO.FS.createDirAll path)
  writeText path text := Terminal.attempt (IO.FS.writeFile path text)
  printLine line := IO.println line
  printErrorLine line := IO.eprintln line
  exit status := set (some status)
  log record := do
    if Terminal.shows (← read) record then
      IO.eprintln s!"[{record.level.text} {record.stage}] {record.message}"

def usage : String :=
  Text.joinWith "\n"
    ["Usage: glean-codegen [--log-level LEVEL] COMMAND",
      "",
      "  translate INPUT... --format TARGET --output DIR",
      "            [--namespace NAME] [--glean-namespace NAME] [OPTIONS]",
      "  check INPUT... [--format TARGET] [OPTIONS]",
      "  init [PATH]",
      "  targets",
      "",
      "Options:",
      "  -c, --config PATH             settings, which the other options override",
      "  --allow-reserved              accept reserved names",
      "  --expire-by-version VERSION   disable metrics that expire at this version",
      "  --expiration-date DATE        disable metrics that expire before this date"]

/-- Runs an invocation and gives the exit status of the process. -/
def Invocation.execute (i : Invocation) : IO UInt32 := do
  let (result, status) ← ((i.command.run : Terminal _).run none).run i.verbosity
  match result, status with
  | .error e, none =>
    IO.eprintln s!"Error: {e.message}"
    return 1
  | _, status => return (status.getD 0).toUInt32

end TelemetryBindings

open TelemetryBindings in
def main (arguments : List String) : IO UInt32 := do
  match Invocation.ofArguments arguments with
  | .ok invocation => invocation.execute
  | .error refusal =>
    match refusal with
    | .informs => IO.println usage
    | .invalid => IO.eprintln usage
    return refusal.status.toUInt32
