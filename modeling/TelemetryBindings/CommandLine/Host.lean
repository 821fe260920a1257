import TelemetryBindings.Log

/-!
# The world of a command

What commands need from the world around them: files, two output streams, an exit status and a log.
Commands are written for any host, so that they run both in a process and on a pure model of one.
-/
namespace TelemetryBindings

/-- Why a file operation failed. -/
inductive FileFault where
  | notFound
  | exists
  | notDirectory
  | isDirectory
  | notText
  | other (description : String)
  deriving DecidableEq, Repr

def FileFault.message : FileFault → String
  | .notFound => "No such file or directory (os error 2)"
  | .exists => "File exists (os error 17)"
  | .notDirectory => "Not a directory (os error 20)"
  | .isDirectory => "Is a directory (os error 21)"
  | .notText => "stream did not contain valid UTF-8"
  | .other description => description

class Host (m : Type → Type) where
  readText : String → m (Except FileFault String)
  /-- Creates a directory and those around it, as far as they do not exist. -/
  createDirectories : String → m (Except FileFault Unit)
  writeText : String → String → m (Except FileFault Unit)
  printLine : String → m Unit
  printErrorLine : String → m Unit
  /-- Asks for the process to end with a status. -/
  exit : Nat → m Unit
  log : Log.Record → m Unit

end TelemetryBindings
