import Backfill.Files
import Backfill.Settings.Schema

/-!
# Settings files

Settings come from a file, if one is named, and are the defaults else.
-/

namespace Backfill.Settings

/-- Why settings cannot be had from a file. -/
inductive LoadFault where
  | read (path : String) (fault : FileFault)
  | content (path : String) (fault : TextFault)

/-- The text of a fault in a file's content begins with the same words whatever the fault. -/
def TextFault.text (_ : TextFault) : String :=
  "TOML parse error"

def LoadFault.failure : LoadFault → Failure
  | read path fault =>
    ⟨"Failed to read config file " ++ path ++ ": " ++ fault.text, [fault.text]⟩
  | content path fault => ⟨"Invalid config file " ++ path ++ ": " ++ fault.text, [fault.text]⟩

def load (fs : Files) : Option String → Except LoadFault Settings
  | none => .ok {}
  | some path => do
    let text ← (fs.readText path).mapError (.read path)
    (ofText text).mapError (.content path)

end Backfill.Settings
