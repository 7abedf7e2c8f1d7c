import Backfill.Settings
import Backfill.Text.Digits

/-!
# Written settings

Settings as the text of a file: a section for each store, one for runs and one for retries, with a
line for each setting. A text is written between double quotes, with quotes, backslashes and
control characters escaped.
-/

namespace Backfill.Settings

/-- The hexadecimal digit of a number below 16. -/
def hexDigit (n : Nat) : Char :=
  if n < 10 then Char.ofNat ('0'.toNat + n) else Char.ofNat ('a'.toNat + (n - 10))

/-- A character between double quotes. -/
def escaped (c : Char) : List Char :=
  if c = '"' then ['\\', '"']
  else if c = '\\' then ['\\', '\\']
  else if c.toNat < 0x20 ∨ c.toNat = 0x7f then
    ['\\', 'u', '0', '0', hexDigit (c.toNat / 16), hexDigit (c.toNat % 16)]
  else [c]

/-- A text between double quotes. -/
def textValue (s : String) : List Char :=
  '"' :: s.toList.flatMap escaped ++ ['"']

/-- The line of a setting. -/
def line (name : String) (value : List Char) : List Char :=
  name.toList ++ " = ".toList ++ value ++ ['\n']

/-- The line that begins a section. -/
def header (name : String) : List Char :=
  '[' :: name.toList ++ [']', '\n']

def sourceSection (s : SourceSettings) : List Char :=
  header "postgres" ++ line "host" (textValue s.host) ++ line "port" (Text.digits s.port.toNat) ++
    line "database" (textValue s.database) ++ line "user" (textValue s.user) ++
    line "password" (textValue s.password)

def graphSection (s : GraphSettings) : List Char :=
  header "graph" ++ line "uri" (textValue s.uri) ++ line "user" (textValue s.user) ++
    line "password" (textValue s.password) ++ line "database" (textValue s.database)

def syncSection (s : SyncSettings) : List Char :=
  header "sync" ++
    line "failure_mode" (textValue (match s.failureMode with
      | .abort => "abort"
      | .skip => "skip"))

def retrySection (p : RetryPolicy) : List Char :=
  header "sync.retry" ++ line "max_attempts" (Text.digits p.maxAttempts.toNat) ++
    line "initial_backoff_ms" (Text.digits p.initialBackoff.toNat) ++
    line "max_backoff_ms" (Text.digits p.maxBackoff.toNat)

/-- The text of a settings file: the sections with an empty line between them. -/
def document (s : Settings) : List Char :=
  sourceSection s.source ++ '\n' :: graphSection s.graph ++ '\n' :: syncSection s.sync ++
    '\n' :: retrySection s.sync.retry

end Backfill.Settings
