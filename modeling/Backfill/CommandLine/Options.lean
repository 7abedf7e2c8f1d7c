import Backfill.CommandLine.Number

/-!
# Options

The options of the command line, what they take, and where they may stand. An option that tells how
a store is reached, or where logs and settings are, may stand before or after the command; the
others belong to one command.
-/

namespace Backfill.CommandLine

inductive Opt where
  | verbose
  | config
  | logFile
  | sourceHost
  | sourcePort
  | sourceDatabase
  | sourceUser
  | sourcePassword
  | graphUri
  | graphUser
  | graphPassword
  | graphDatabase
  | dryRun
  | skipFailed
  | maxAttempts
  | echo
  | help
  | version
deriving DecidableEq, Repr

/-- What an option takes. -/
inductive Argument where
  | nothing
  | text
  /-- A text that is not empty. -/
  | path
  /-- A number from 0 to the given one. -/
  | number (max : Nat)
deriving DecidableEq, Repr

namespace Opt

/-- The name after two hyphens. -/
def long : Opt → String
  | verbose => "verbose"
  | config => "config"
  | logFile => "log-file"
  | sourceHost => "pg-host"
  | sourcePort => "pg-port"
  | sourceDatabase => "pg-database"
  | sourceUser => "pg-user"
  | sourcePassword => "pg-password"
  | graphUri => "neo4j-uri"
  | graphUser => "neo4j-user"
  | graphPassword => "neo4j-password"
  | graphDatabase => "neo4j-database"
  | dryRun => "dry-run"
  | skipFailed => "skip-failed"
  | maxAttempts => "max-attempts"
  | echo => "echo"
  | help => "help"
  | version => "version"

/-- The letter after one hyphen. -/
def short? : Opt → Option Char
  | verbose => some 'v'
  | config => some 'c'
  | help => some 'h'
  | version => some 'V'
  | _ => none

def argument : Opt → Argument
  | verbose | dryRun | skipFailed | echo | help | version => .nothing
  | config | logFile => .path
  | sourcePort => .number 65535
  | maxAttempts => .number 4294967295
  | sourceHost | sourceDatabase | sourceUser | sourcePassword | graphUri | graphUser | graphPassword
  | graphDatabase => .text

/-- The environment variable that gives the option where the command line does not. -/
def envName? : Opt → Option String
  | config => some "CRATEGRAPH_CONFIG"
  | sourceHost => some "CRATEGRAPH_PG_HOST"
  | sourcePort => some "CRATEGRAPH_PG_PORT"
  | sourceDatabase => some "CRATEGRAPH_PG_DATABASE"
  | sourceUser => some "CRATEGRAPH_PG_USER"
  | sourcePassword => some "CRATEGRAPH_PG_PASSWORD"
  | graphUri => some "CRATEGRAPH_NEO4J_URI"
  | graphUser => some "CRATEGRAPH_NEO4J_USER"
  | graphPassword => some "CRATEGRAPH_NEO4J_PASSWORD"
  | graphDatabase => some "CRATEGRAPH_NEO4J_DATABASE"
  | _ => none

/-- Whether the help text keeps the value of the variable to itself. -/
def isSecret : Opt → Bool
  | sourcePassword | graphPassword => true
  | _ => false

/-- The name of what an option takes: its own in capitals. -/
def valueName (o : Opt) : String :=
  o.long.map fun c => if c = '-' then '_' else c.toUpper

/-- An option with what it takes, as messages and the help text show it. -/
def shown (o : Opt) : String :=
  if o.argument = .nothing then "--" ++ o.long
  else "--" ++ o.long ++ " <" ++ o.valueName ++ ">"

/-- What the option is for. -/
def about : Opt → String
  | verbose => "Enable verbose output"
  | config => "TOML config file with [postgres], [graph] and [sync] sections"
  | logFile => "Also write logs to this file"
  | sourceHost => "PostgreSQL host"
  | sourcePort => "PostgreSQL port"
  | sourceDatabase => "PostgreSQL database name"
  | sourceUser => "PostgreSQL user"
  | sourcePassword => "PostgreSQL password"
  | graphUri => "Neo4j Bolt URI"
  | graphUser => "Neo4j user"
  | graphPassword => "Neo4j password"
  | graphDatabase => "Neo4j database name"
  | dryRun => "Read and decode all rows without writing to the graph"
  | skipFailed => "Record rows that still fail after retries and keep going"
  | maxAttempts => "Attempts per row write, including the first (1 disables retry)"
  | echo => "Print the match count of every write"
  | help => "Print help"
  | version => "Print version"

/-- The options that tell how the stores are reached. -/
def connection : List Opt :=
  [sourceHost, sourcePort, sourceDatabase, sourceUser, sourcePassword, graphUri, graphUser,
    graphPassword, graphDatabase]

end Opt

/-- A part of the command line with options of its own. -/
inductive Scope where
  /-- Before the command. -/
  | root
  | sync
  | status
  /-- The command that prints a help text. -/
  | help
deriving DecidableEq, Repr

namespace Scope

/-- The options of a scope other than those for the stores, in the order of the help text. -/
def general : Scope → List Opt
  | root | status => [.verbose, .config, .logFile, .help, .version]
  | sync => [.dryRun, .verbose, .config, .skipFailed, .logFile, .maxAttempts, .echo, .help, .version]
  | help => []

/-- All options of a scope. -/
def options : Scope → List Opt
  | help => []
  | scope => scope.general ++ Opt.connection

/-- The name of the command. -/
def name : Scope → String
  | root => "crategraph"
  | sync => "sync"
  | status => "status"
  | help => "help"

def about : Scope → String
  | root => "Back-fill crate and version timestamps from PostgreSQL into Neo4j"
  | sync => "Copy created_at from PostgreSQL onto matching graph nodes"
  | status => "Compare source row counts with graph property coverage"
  | help => "Print this message or the help of the given subcommand(s)"

/-- The commands that may follow on a scope. -/
def commands : Scope → List Scope
  | root => [sync, status, help]
  | _ => []

def command? (scope : Scope) (name : String) : Option Scope :=
  scope.commands.find? (·.name = name)

def long? (scope : Scope) (name : String) : Option Opt :=
  scope.options.find? (·.long = name)

def short? (scope : Scope) (letter : Char) : Option Opt :=
  scope.options.find? (·.short? = some letter)

end Scope

end Backfill.CommandLine
