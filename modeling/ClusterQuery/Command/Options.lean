/-!
# Options on a command line

A level of a command line is a row of options, each with a value, that may end in the name of a
subcommand. The value stands behind the option's name, attached to it by `=`, or attached to its
short name. An option takes effect when the next one begins or the level ends, so a fault of the
line's form goes before a fault of the value last read.
-/

namespace ClusterQuery

/-- Why the value of an option is refused. -/
inductive ValueFault where
  | missing
  | invalid (reason : String)
deriving DecidableEq, Repr

/-- Why a command line cannot be used. -/
inductive UsageFault where
  | unexpectedArgument (text : String)
  | unknownSubcommand (name : String)
  | missingOptions (options : List String)
  | missingValue (option : String)
  | repeatedOption (option : String)
  | invalidValue (option value reason : String)
  /-- A value is attached to an option that takes none. -/
  | unexpectedValue (option value : String)
deriving DecidableEq, Repr

def UsageFault.message : UsageFault → String
  | .unexpectedArgument text => "unexpected argument '" ++ text ++ "' found"
  | .unknownSubcommand name => "unrecognized subcommand '" ++ name ++ "'"
  | .missingOptions options =>
      "the following required arguments were not provided:" ++
        String.join (options.map fun option => "\n  " ++ option)
  | .missingValue option =>
      "a value is required for '" ++ option ++ "' but none was supplied"
  | .repeatedOption option =>
      "the argument '" ++ option ++ "' cannot be used multiple times"
  | .invalidValue option value reason =>
      "invalid value '" ++ value ++ "' for '" ++ option ++ "': " ++ reason
  | .unexpectedValue option value =>
      "unexpected value '" ++ value ++ "' for '" ++ option ++ "' found; no more were expected"

/-- Why a command line is not carried out. -/
inductive Declined where
  /-- Help is asked for: on a subcommand, or in general. -/
  | help (subcommand : Option String)
  | fault (fault : UsageFault)
deriving DecidableEq, Repr

/-- An option whose value goes into settings of type `σ`. -/
structure CommandOption (σ : Type) where
  name : String
  short : Option Char
  /-- Whether the option took effect before. -/
  isSet : σ → Bool
  set : σ → String → Except ValueFault σ

namespace CommandOption

variable {σ : Type}

/-- An option and its value as they stand in messages. -/
def display (option : CommandOption σ) : String :=
  let placeholder := option.name.toList.map fun c => if c = '-' then '_' else c.toUpper
  "--" ++ option.name ++ " <" ++ String.ofList placeholder ++ ">"

/-- Puts the value of an option into effect. -/
def apply (option : CommandOption σ) (settings : σ) (value : String) : Except Declined σ :=
  if option.isSet settings then .error (.fault (.repeatedOption option.display))
  else
    match option.set settings value with
    | .ok settings => .ok settings
    | .error .missing => .error (.fault (.missingValue option.display))
    | .error (.invalid reason) => .error (.fault (.invalidValue option.display value reason))

end CommandOption

/-- The options and subcommands of a level. -/
structure CommandLevel (σ : Type) where
  /-- The subcommand whose level this is. -/
  name : Option String
  options : List (CommandOption σ)
  subcommands : List String

/-- An option that has not taken effect. -/
inductive Pending (σ : Type) where
  | none
  | awaiting (option : CommandOption σ)
  | filled (option : CommandOption σ) (value : String)

namespace Pending

variable {σ : Type}

def settle (settings : σ) : Pending σ → Except Declined σ
  | .none => .ok settings
  | .awaiting option => .error (.fault (.missingValue option.display))
  | .filled option value => option.apply settings value

end Pending

/-- What an argument looks like. -/
inductive ArgumentShape where
  | long (name : String) (value : Option String)
  | short (name : Char) (rest : List Char)
  /-- Two dashes, after which nothing is an option. -/
  | barrier
  | word
deriving DecidableEq, Repr

namespace ArgumentShape

def ofChars : List Char → ArgumentShape
  | ['-', '-'] => .barrier
  | '-' :: '-' :: text =>
      let name := String.ofList (text.takeWhile (· != '='))
      match text.dropWhile (· != '=') with
      | [] => .long name none
      | _ :: value => .long name (some (String.ofList value))
  | '-' :: c :: rest => .short c rest
  | _ => .word

end ArgumentShape

/-- How a level ended: with its arguments, or with a subcommand and its arguments. -/
structure LevelEnd (σ : Type) where
  settings : σ
  pending : Pending σ
  subcommand : Option (String × List String)

namespace CommandLevel

variable {σ : Type}

/-- Settles the pending option and begins another, with its value where it is attached. -/
def beginOption (settings : σ) (pending : Pending σ) (option : CommandOption σ) :
    Option String → Except Declined (σ × Pending σ)
  | none => do
      let settings ← pending.settle settings
      return (settings, .awaiting option)
  | some value => do
      let settings ← pending.settle settings
      let settings ← option.apply settings value
      return (settings, .none)

/-- Settles the pending option and asks for help. -/
def askHelp (level : CommandLevel σ) (settings : σ) (pending : Pending σ) :
    Except Declined (σ × Pending σ) := do
  discard (pending.settle settings)
  throw (.help level.name)

/-- The value attached to a short name; an equals sign before it is not part of it. -/
def attachedValue : List Char → Option String
  | [] => none
  | '=' :: value => some (String.ofList value)
  | value => some (String.ofList value)

def strayArgument (level : CommandLevel σ) (argument : String) : Declined :=
  if level.subcommands.isEmpty then .fault (.unexpectedArgument argument)
  else .fault (.unknownSubcommand argument)

def argumentBehindBarrier (level : CommandLevel σ) (argument : String) : Declined :=
  if argument ∈ level.subcommands then .fault (.unexpectedArgument argument)
  else level.strayArgument argument

def longOption (level : CommandLevel σ) (settings : σ) (pending : Pending σ) (name : String)
    (value : Option String) : Except Declined (σ × Pending σ) :=
  match level.options.find? fun option => option.name == name with
  | some option => beginOption settings pending option value
  | none =>
      if name ≠ "help" then .error (.fault (.unexpectedArgument ("--" ++ name)))
      else
        match value with
        | none => level.askHelp settings pending
        | some value => .error (.fault (.unexpectedValue "--help" value))

def shortOption (level : CommandLevel σ) (settings : σ) (pending : Pending σ) (name : Char)
    (rest : List Char) : Except Declined (σ × Pending σ) :=
  match level.options.find? fun option => option.short == some name with
  | some option => beginOption settings pending option (attachedValue rest)
  | none =>
      if name = 'h' then level.askHelp settings pending
      else .error (.fault (.unexpectedArgument (String.ofList ['-', name])))

/-- A word: the value of the option before it, or one that no option takes. -/
def word (level : CommandLevel σ) (settings : σ) (pending : Pending σ) (argument : String) :
    Except Declined (σ × Pending σ) :=
  match pending with
  | .awaiting option => .ok (settings, .filled option argument)
  | _ => .error (level.strayArgument argument)

/-- Whether an argument is the name of a subcommand where one may stand. -/
def entersSubcommand (level : CommandLevel σ) (pending : Pending σ) (argument : String) : Bool :=
  match pending with
  | .awaiting _ => false
  | _ => argument ∈ level.subcommands

/-- Reads the arguments of a level, up to a subcommand. -/
def scan (level : CommandLevel σ) (settings : σ) (pending : Pending σ) :
    List String → Except Declined (LevelEnd σ)
  | [] => .ok ⟨settings, pending, none⟩
  | argument :: rest =>
      if level.entersSubcommand pending argument then .ok ⟨settings, pending, some (argument, rest)⟩
      else
        match ArgumentShape.ofChars argument.toList, rest with
        | .barrier, [] => .ok ⟨settings, pending, none⟩
        | .barrier, next :: _ => .error (level.argumentBehindBarrier next)
        | .long name value, rest => do
            let (settings, pending) ← level.longOption settings pending name value
            level.scan settings pending rest
        | .short name text, rest => do
            let (settings, pending) ← level.shortOption settings pending name text
            level.scan settings pending rest
        | .word, rest => do
            let (settings, pending) ← level.word settings pending argument
            level.scan settings pending rest

end CommandLevel

end ClusterQuery
