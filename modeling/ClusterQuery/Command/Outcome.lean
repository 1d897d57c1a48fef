import ClusterQuery.Command.Options

/-!
# Outcomes

What a run of the program leaves behind: a status, and texts on the two output channels. An error
is shown with the errors that caused it, the outermost first; several causes are numbered.
-/

namespace ClusterQuery

/-- What a run of the program leaves behind. -/
structure Outcome where
  status : UInt8
  output : String
  errors : String
deriving DecidableEq, Repr

namespace Outcome

def succeeded (output : String) : Outcome := ⟨0, output, ""⟩

/-- The outcome of a run that dies; what it says then is for its log. -/
def died : Outcome := ⟨101, "", ""⟩

/-- A text with all lines after the first set in by some columns. -/
def indentLines (columns : Nat) (text : String) : String :=
  String.ofList (text.toList.flatMap fun c =>
    if c = '\n' then c :: List.replicate columns ' ' else [c])

/-- Causes, each on lines of its own behind its number. -/
def numbered (number : Nat) : List String → String
  | [] => ""
  | cause :: rest =>
      s!"\n    {number}: " ++ indentLines 7 cause ++ numbered (number + 1) rest

def causesText : List String → String
  | [] => ""
  | [cause] => "\n\nCaused by:\n    " ++ indentLines 4 cause
  | causes => "\n\nCaused by:" ++ numbered 0 causes

/-- A run that ended in an error. -/
def failed (message : String) (causes : List String) : Outcome :=
  ⟨1, "", "Error: " ++ message ++ causesText causes ++ "\n"⟩

def versionText : String := "cluster-actuator 0.1.0 (commit: unknown, linux/x86_64)\n"

/-- What a command does, in one line. -/
def summary (command : Option String) : String :=
  match command with
  | none => "Cluster-wide aggregation of actuator records across service peers"
  | some "version" => "Print version information and exit"
  | some "serve" => "Serve health metrics and keep peer membership warm until signalled"
  | some "nodes" => "Print the cluster-wide node view as JSON"
  | some "records" => "Query records from every peer and print the merged result as JSON"
  | some _ => "Print this message or the help of the given subcommand(s)"

def usage (command : Option String) : String :=
  match command with
  | none => "cluster-actuator [-c <CONFIG>] [--log-level <LOG_LEVEL>] [COMMAND]"
  | some "records" =>
      "cluster-actuator records --kind <KIND> [--sort <SORT>] [--direction <DIRECTION>] " ++
        "[--limit <LIMIT>] [--filter <FILTER>] [--deadline <DEADLINE>]"
  | some name => "cluster-actuator " ++ name

/-- Help on a command, or on all of them. -/
def helpText (command : Option String) : String :=
  let commands :=
    match command with
    | none =>
        "\nCommands:\n" ++ String.join
          (["version", "serve", "nodes", "records", "help"].map fun name =>
            "  " ++ name ++ ": " ++ summary (some name) ++ "\n")
    | some _ => ""
  summary command ++ "\n\nUsage: " ++ usage command ++ "\n" ++ commands

/-- A command line that is not carried out. -/
def ofDeclined : Declined → Outcome
  | .help command => .succeeded (helpText command)
  | .fault fault =>
      ⟨2, "", "error: " ++ fault.message ++ "\n\nFor more information, try '--help'.\n"⟩

end Outcome

end ClusterQuery
