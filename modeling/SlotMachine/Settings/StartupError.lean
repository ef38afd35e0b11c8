import SlotMachine.SetupError
import SlotMachine.Settings.Number
import SlotMachine.Text.Quoted

/-!
# Why the service does not start

Each reason names the setting or the file, and where there is a cause behind it, it follows after a
colon.
-/

namespace SlotMachine

/-- Why a file cannot be read. -/
inductive FileError
  | missing
  | directory
  | notText
  deriving DecidableEq, Repr

namespace FileError

def message : FileError → String
  | missing => "No such file or directory (os error 2)"
  | directory => "Is a directory (os error 21)"
  | notText => "stream did not contain valid UTF-8"

end FileError

inductive StartupError
  | invalidFlag (name value : String)
  | invalidNumber (name : String) (reason : NumberError)
  | invalidAddress (name : String)
  | unreadableFile (path : String) (reason : FileError)
  | invalidTable (path : String) (reason : SetupError)
  | invalidEngine (reason : SetupError)
  | invalidHeavy (reason : SetupError)

namespace StartupError

def message : StartupError → String
  | invalidFlag name value => s!"invalid {name}: expected true/false, got {quotedText value}"
  | invalidNumber name reason => s!"invalid {name}: {reason.message}"
  | invalidAddress name => s!"invalid {name}: invalid socket address syntax"
  | unreadableFile path reason => s!"failed to read symbol table config {path}: {reason.message}"
  | invalidTable path reason => s!"invalid symbol table config {path}: {reason.message}"
  | invalidEngine reason => s!"invalid outcome engine configuration: {reason.message}"
  | invalidHeavy reason => s!"invalid heavy strategy configuration: {reason.message}"

end StartupError

end SlotMachine
