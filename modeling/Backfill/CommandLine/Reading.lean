import Backfill.CommandLine.Help
import Backfill.CommandLine.Invocation
import Backfill.Text.Plain

/-!
# Reading a command line

Arguments are read from left to right, scope by scope. What an option takes is checked at once if
it is part of the same argument; if it follows as an argument of its own, it is checked when the
next option or value is taken, or at the end of the scope. So an argument that cannot be
understood at all comes first. The scope of the command is finished before the one around it:
pending values, then environment variables, then what is required.
-/

namespace Backfill.CommandLine

/-- Why a command line is not carried out. -/
inductive Stop where
  /-- A help text was asked for. -/
  | help (scope : Scope)
  /-- The version was asked for. -/
  | version (scope : Scope)
  /-- Nothing at all was given. -/
  | nothingGiven
  | unknownCommand (text : String)
  | unknownArgument (text : String)
  | invalidTarget (text : String)
  /-- What the argument takes is missing, or empty where it must not be. -/
  | valueMissing (argument : String)
  | invalidNumber (text : String) (option : Opt) (fault : NumberFault)
  | repeated (option : Opt)
  | unexpectedValue (text : String) (option : Opt)
  | targetMissing
  | commandMissing
deriving DecidableEq, Repr

namespace Stop

/-- Stops that are answers rather than errors. -/
def isAnswer : Stop → Bool
  | help _ | version _ => true
  | _ => false

def exitCode (s : Stop) : Nat :=
  if s.isAnswer then 0 else 2

/-- What is given and wrong, in its style. -/
def wrong (text : String) : String :=
  "'" ++ Text.Paint.applyAll [.yellow] text ++ "'"

/-- An argument of the program, in its style. -/
def known (text : String) : String :=
  "'" ++ literal text ++ "'"

/-- The first line of an error. -/
def refusal (complaint : String) : String :=
  Text.Paint.applyAll [.bold, .red] "error:" ++ " " ++ complaint

/-- The whole text of an answer, or the first line of an error, with styles. -/
def styledText (env : Environment) : Stop → String
  | help scope => helpText env scope
  | version scope => versionText scope
  | nothingGiven => helpText env .root
  | unknownCommand text => refusal ("unrecognized subcommand " ++ wrong text)
  | unknownArgument text => refusal ("unexpected argument " ++ wrong text ++ " found")
  | invalidTarget text => refusal ("invalid value " ++ wrong text ++ " for " ++ known "<TARGET>")
  | valueMissing argument =>
    refusal ("a value is required for " ++ known argument ++ " but none was supplied")
  | invalidNumber text option fault =>
    refusal ("invalid value " ++ wrong text ++ " for " ++ known option.shown ++ ": " ++ fault.text)
  | repeated option =>
    refusal ("the argument " ++ known option.shown ++ " cannot be used multiple times")
  | unexpectedValue text option =>
    refusal ("unexpected value " ++ wrong text ++ " for " ++ known option.shown ++
      " found; no more were expected")
  | targetMissing => refusal "the following required arguments were not provided:"
  | commandMissing =>
    refusal (known "crategraph" ++ " requires a subcommand but one was not provided")

/-- The text as plain text. Sequences in what was given are lost with the styles. -/
def text (env : Environment) (s : Stop) : String :=
  Text.plain (s.styledText env)

end Stop

/-! ### Values -/

/-- The value of an option. -/
inductive OptValue where
  | on
  | text (value : String)
  | number (value : Nat)
deriving DecidableEq, Repr

/-- The value that a text gives to an option. -/
def readValue (o : Opt) (text : String) : Except Stop OptValue :=
  match o.argument with
  | .nothing => .ok .on
  | .text => .ok (.text text)
  | .path => if text.isEmpty then .error (.valueMissing o.shown) else .ok (.text text)
  | .number max =>
    match readNumber max text with
    | .ok n => .ok (.number n)
    | .error fault => .error (.invalidNumber text o fault)

def readTarget (text : String) : Except Stop Target :=
  match Target.ofName? text with
  | some target => .ok target
  | none => .error (if text.isEmpty then .valueMissing "<TARGET>" else .invalidTarget text)

/-! ### Scopes -/

/-- A value that has been taken and not been checked yet. -/
inductive Pending where
  /-- An option of which the value has still to come. -/
  | awaiting (option : Opt)
  | value (option : Opt) (text : String)
  | target (text : String)
deriving DecidableEq, Repr

/-- What has been read on a scope. -/
structure Reading where
  given : List (Opt × OptValue) := []
  target : Option Target := none
  pending : Option Pending := none
deriving DecidableEq, Repr

namespace Reading

def isAwaiting (r : Reading) : Bool :=
  match r.pending with
  | some (.awaiting _) => true
  | _ => false

/-- Whether there is no more room for a target. -/
def hasTarget (r : Reading) : Bool :=
  r.target.isSome ||
    match r.pending with
    | some (.target _) => true
    | _ => false

/-- Takes an option with its value, if it needs one. -/
def take (scope : Scope) (o : Opt) (text : String) (r : Reading) : Except Stop Reading := do
  if o = .help then throw (.help scope)
  if o = .version then throw (.version scope)
  if (r.given.lookup o).isSome then throw (.repeated o)
  let v ← readValue o text
  return { r with given := r.given ++ [(o, v)] }

/-- Checks the pending value. -/
def settle (scope : Scope) (r : Reading) : Except Stop Reading :=
  let settled := { r with pending := none }
  match r.pending with
  | none => .ok r
  | some (.awaiting o) => .error (.valueMissing o.shown)
  | some (.value o text) => settled.take scope o text
  | some (.target text) => (fun t => { settled with target := some t }) <$> readTarget text

/-- Takes an option that has its value, if it needs one, in the same argument. -/
def takeNow (scope : Scope) (o : Opt) (text : String) (r : Reading) : Except Stop Reading := do
  (← r.settle scope).take scope o text

/-- Takes an option of which the value is to follow. -/
def await (scope : Scope) (o : Opt) (r : Reading) : Except Stop Reading := do
  return { ← r.settle scope with pending := some (.awaiting o) }

end Reading

/-- An argument in the form of a long option: its name, and the value after an equals sign. -/
def long? (arg : String) : Option (String × Option String) :=
  match arg.toList with
  | '-' :: '-' :: cs =>
    if cs.isEmpty then none
    else
      let name := String.ofList (cs.takeWhile (· ≠ '='))
      match cs.dropWhile (· ≠ '=') with
      | _ :: value => some (name, some (String.ofList value))
      | [] => some (name, none)
  | _ => none

/-- An argument in the form of a cluster of short options: its letters. -/
def cluster? (arg : String) : Option (List Char) :=
  match arg.toList with
  | '-' :: c :: cs => if c = '-' then none else some (c :: cs)
  | _ => none

/-- Reads a long option. -/
def readLong (scope : Scope) (r : Reading) (name : String) (value : Option String) :
    Except Stop Reading :=
  match scope.long? name with
  | none => .error (.unknownArgument ("--" ++ name))
  | some o =>
    match decide (o.argument = .nothing), value with
    | true, none => r.takeNow scope o ""
    | true, some text => .error (.unexpectedValue text o)
    | false, some text => r.takeNow scope o text
    | false, none => r.await scope o

/-- Reads a cluster of short options. The first one that takes a value takes the rest. -/
def readCluster (scope : Scope) (r : Reading) : List Char → Except Stop Reading
  | [] => .ok r
  | c :: cs =>
    match scope.short? c with
    | none => .error (.unknownArgument (String.ofList ['-', c]))
    | some o =>
      if o.argument = .nothing then do
        readCluster scope (← r.takeNow scope o "") cs
      else
        match cs with
        | [] => r.await scope o
        | '=' :: value => r.takeNow scope o (String.ofList value)
        | value => r.takeNow scope o (String.ofList value)

/-- Reads an argument that is no option. -/
def readPlain (scope : Scope) (trailing : Bool) (r : Reading) (arg : String) :
    Except Stop Reading := do
  match scope with
  | .sync =>
    if r.hasTarget then throw (.unknownArgument arg)
    return { ← r.settle scope with pending := some (.target arg) }
  | .root =>
    if trailing && (scope.command? arg).isSome then throw (.unknownArgument arg)
    throw (.unknownCommand arg)
  | _ => throw (.unknownArgument arg)

/-- The scope whose help text is asked for by the names after the help command. -/
def helpScope (scope : Scope) : List String → Except Stop Scope
  | [] => .ok scope
  | name :: names =>
    match scope.command? name with
    | some next => helpScope next names
    | none => .error (.unknownCommand name)

/-- Reads the arguments of a scope, up to the command that ends it. After two hyphens, nothing is an
option or a command any more. -/
def readScope (scope : Scope) (trailing : Bool) (r : Reading) :
    List String → Except Stop (Reading × Option (Scope × List String))
  | [] => .ok (r, none)
  | arg :: args =>
    if trailing then do
      readScope scope true (← readPlain scope true r arg) args
    else
      match (if r.isAwaiting then none else scope.command? arg) with
      | some .help => do throw (.help (← helpScope .root args))
      | some command => .ok (r, some (command, args))
      | none =>
        if arg = "--" then readScope scope true r args
        else
          match long? arg, cluster? arg, r.pending with
          | some (name, value), _, _ => do readScope scope false (← readLong scope r name value) args
          | none, some letters, _ => do readScope scope false (← readCluster scope r letters) args
          | none, none, some (.awaiting o) =>
            readScope scope false { r with pending := some (.value o arg) } args
          | none, none, _ => do readScope scope false (← readPlain scope false r arg) args

/-- The options of a scope that the environment gives, where the command line does not. -/
def readEnvironment (scope : Scope) (env : Environment) (r : Reading) :
    Except Stop (List (Opt × OptValue)) :=
  scope.options.filterMapM fun o =>
    match r.given.lookup o, o.envName?.bind (env.lookup ·) with
    | none, some text => do return some (o, ← readValue o text)
    | _, _ => return none

/-- A scope that has been read to its end, with what the environment gives beside. -/
structure Finished where
  reading : Reading
  fromEnvironment : List (Opt × OptValue)

/-- Finishes a scope. -/
def finish (scope : Scope) (env : Environment) (r : Reading) : Except Stop Finished := do
  let r ← r.settle scope
  return ⟨r, ← readEnvironment scope env r⟩

/-! ### The whole command line -/

/-- The value of an option: the last one on the command line, or the one of the environment. -/
def valueOf (root command : Finished) (o : Opt) : Option OptValue :=
  command.reading.given.lookup o <|> root.reading.given.lookup o <|>
    command.fromEnvironment.lookup o <|> root.fromEnvironment.lookup o

def OptValue.text? : OptValue → Option String
  | text value => some value
  | _ => none

def OptValue.number? : OptValue → Option Nat
  | number value => some value
  | _ => none

/-- The invocation that the values of the options make up. -/
def invocation (value : Opt → Option OptValue) (command : Command) : Invocation :=
  let text (o : Opt) : Option String := (value o).bind OptValue.text?
  { verbose := (value .verbose).isSome
    config := text .config
    logFile := text .logFile
    overrides :=
      { sourceHost := text .sourceHost
        sourcePort := ((value .sourcePort).bind OptValue.number?).map Nat.toUInt16
        sourceDatabase := text .sourceDatabase
        sourceUser := text .sourceUser
        sourcePassword := text .sourcePassword
        graphUri := text .graphUri
        graphUser := text .graphUser
        graphPassword := text .graphPassword
        graphDatabase := text .graphDatabase }
    command := command }

/-- The command that a finished scope asks for. -/
def commandOf (scope : Scope) (f : Finished) : Except Stop Command :=
  match scope with
  | .sync =>
    match f.reading.target with
    | none => .error .targetMissing
    | some target =>
      let given (o : Opt) : Option OptValue := f.reading.given.lookup o
      .ok (.sync
        { target := target
          dryRun := (given .dryRun).isSome
          skipFailed := (given .skipFailed).isSome
          maxAttempts := ((given .maxAttempts).bind OptValue.number?).map Nat.toUInt32
          echo := (given .echo).isSome })
  | _ => .ok .status

/-- Reads a command line, without the name of the program. -/
def read (env : Environment) (args : List String) : Except Stop Invocation := do
  let (rootReading, next) ← readScope .root false {} args
  match next with
  | some (scope, args) =>
    let (reading, _) ← readScope scope false {} args
    let finished ← finish scope env reading
    let command ← commandOf scope finished
    let root ← finish .root env rootReading
    return invocation (valueOf root finished) command
  | none =>
    let root ← finish .root env rootReading
    throw (if root.reading.given.isEmpty && root.fromEnvironment.isEmpty then .nothingGiven
      else .commandMissing)

end Backfill.CommandLine
