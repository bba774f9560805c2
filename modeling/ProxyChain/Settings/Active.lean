import ProxyChain.Error
import ProxyChain.Settings.Check
import ProxyChain.Settings.Codec
import ProxyChain.Yaml.Printer
import ProxyChain.Yaml.Reader

/-!
# ProxyChain.Settings.Active

**The settings in use**, together with the file that they were read from. Only settings that pass
the check are taken over; a file that cannot be used leaves everything as it was.
-/

namespace ProxyChain

/-- The settings in use. -/
structure ActiveSettings where
  settings : Settings := {}
  /-- The file that settings were last read from. -/
  path : Option String := none
  deriving Repr, DecidableEq, Inhabited

namespace ActiveSettings

/-- Checks the settings in use. -/
def check (active : ActiveSettings) : Except ChainError Unit :=
  active.settings.check.mapError fun fault => .config fault.message

/-- Takes over the settings of a text. -/
def load (active : ActiveSettings) (text : String) : Except ChainError ActiveSettings := do
  let settings ← (Yaml.decode Settings.ofDocument text).mapError fun fault =>
    .config ("Failed to parse settings: " ++ fault.message)
  let taken := { active with settings := settings }
  taken.check
  return taken

/-- Takes over the settings of a file, given its name and its text or why there is none. -/
def loadFile (active : ActiveSettings) (path : String) (file : Except String String) :
    Except ChainError ActiveSettings := do
  let text ← file.mapError fun detail => .config ("Failed to read settings file: " ++ detail)
  return { ← active.load text with path := some path }

/-- The text of a file with the settings in use. -/
def text (active : ActiveSettings) : String :=
  Yaml.render active.settings.toValue

/-- The file to which the settings are saved when none is named. -/
def savePath (active : ActiveSettings) : Except ChainError String :=
  active.path.elim (.error (.config "No settings file path specified")) .ok

end ActiveSettings

end ProxyChain
