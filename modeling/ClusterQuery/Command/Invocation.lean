import ClusterQuery.Command.Options
import ClusterQuery.Gateway

/-!
# Invocations

What a command line says: which settings file to use, how much to log, and what to do. Options
for all commands stand before the name of the command; without a command the program serves.
-/

namespace ClusterQuery

/-- What is asked of the cluster. -/
inductive Question where
  | nodes
  | records (query : RecordQuery)
deriving DecidableEq, Repr

/-- What the program is to do. -/
inductive Command where
  | version
  | serve
  | ask (question : Question)
deriving DecidableEq, Repr

/-- A command with the options for all commands. -/
structure Invocation where
  settingsFile : Option String
  logLevel : Option String
  command : Command
deriving DecidableEq, Repr

namespace Invocation

/-- The options for all commands. -/
structure GeneralOptions where
  settingsFile : Option String := none
  logLevel : Option String := none

/-- The options of a query for records. -/
structure QueryOptions where
  kind : Option String := none
  sort : Option String := none
  direction : Option Direction := none
  limit : Option Nat := none
  filter : Option String := none
  deadline : Option Time.Span := none

/-- The options for all commands, with the names of the commands. -/
def general : CommandLevel GeneralOptions where
  name := none
  options := [
    { name := "config"
      short := some 'c'
      isSet := fun options => options.settingsFile.isSome
      set := fun options value =>
        if value = "" then .error .missing else .ok { options with settingsFile := some value } },
    { name := "log-level"
      short := none
      isSet := fun options => options.logLevel.isSome
      set := fun options value => .ok { options with logLevel := some value } }]
  subcommands := ["version", "serve", "nodes", "records", "help"]

def plain (name : String) : CommandLevel Unit := ⟨some name, [], []⟩

def readLimit (value : String) : Except ValueFault Nat :=
  (Text.readNat Text.maxNat64 value.toList).mapError fun fault => .invalid fault.message

def readDeadline (value : String) : Except ValueFault Time.Span :=
  (Time.Span.read value).mapError fun fault => .invalid fault.message

def readDirection (value : String) : Except ValueFault Direction :=
  (Direction.read value).mapError .invalid

/-- The options of a query for records. -/
def querying : CommandLevel QueryOptions where
  name := some "records"
  options := [
    { name := "kind"
      short := none
      isSet := fun options => options.kind.isSome
      set := fun options value => .ok { options with kind := some value } },
    { name := "sort"
      short := none
      isSet := fun options => options.sort.isSome
      set := fun options value => .ok { options with sort := some value } },
    { name := "direction"
      short := none
      isSet := fun options => options.direction.isSome
      set := fun options value => do
        return { options with direction := some (← readDirection value) } },
    { name := "limit"
      short := none
      isSet := fun options => options.limit.isSome
      set := fun options value => do
        return { options with limit := some (← readLimit value) } },
    { name := "filter"
      short := none
      isSet := fun options => options.filter.isSome
      set := fun options value => .ok { options with filter := some value } },
    { name := "deadline"
      short := none
      isSet := fun options => options.deadline.isSome
      set := fun options value => do
        return { options with deadline := some (← readDeadline value) } }]
  subcommands := []

/-- Reads all arguments of a level that has no subcommands. -/
def readLevel {σ : Type} (level : CommandLevel σ) (settings : σ) (arguments : List String) :
    Except Declined σ := do
  let done ← level.scan settings .none arguments
  done.pending.settle done.settings

/-- Reads the arguments of a command without options. -/
def readPlain (name : String) (command : Command) (arguments : List String) :
    Except Declined Command := do
  readLevel (plain name) () arguments
  return command

/-- Reads the arguments of a query for records. -/
def readQuery (arguments : List String) : Except Declined Command := do
  let options ← readLevel querying {} arguments
  match options.kind with
  | none => throw (.fault (.missingOptions ["--kind <KIND>"]))
  | some kind =>
      return .ask (.records
        { kind
          filter := options.filter
          sort := options.sort
          direction := options.direction.getD .ascending
          limit := options.limit
          deadline := options.deadline })

def readHelp : List String → Declined
  | [] => .help none
  | [name] =>
      if name ∈ general.subcommands then .help (some name) else .fault (.unknownSubcommand name)
  | name :: next :: _ =>
      .fault (.unknownSubcommand (if name ∈ general.subcommands then next else name))

def readCommand (name : String) (arguments : List String) : Except Declined Command :=
  if name = "version" then readPlain name .version arguments
  else if name = "serve" then readPlain name .serve arguments
  else if name = "nodes" then readPlain name (.ask .nodes) arguments
  else if name = "records" then readQuery arguments
  else .error (readHelp arguments)

def read (arguments : List String) : Except Declined Invocation := do
  let done ← general.scan {} .none arguments
  let command ←
    match done.subcommand with
    | some (name, arguments) => readCommand name arguments
    | none => pure .serve
  let options ← done.pending.settle done.settings
  return ⟨options.settingsFile, options.logLevel, command⟩

end Invocation

end ClusterQuery
