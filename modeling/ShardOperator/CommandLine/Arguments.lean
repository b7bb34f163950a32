import ShardOperator.Text.Pieces

namespace ShardOperator

/-- What the command line says about a start. -/
structure Arguments where
  /-- Only the manifest is asked for. -/
  manifest : Bool := false
  config : Option String := none
  watchNamespaces : Option (List String) := none
  workers : Option Nat := none
  logJson : Bool := false
  deriving DecidableEq, Inhabited

/-- What is said by the variables of the environment. -/
structure Environment where
  config : Option String := none
  watchNamespaces : Option String := none
  /-- Which lines of the log are wished for. -/
  log : Option String := none
  deriving DecidableEq, Inhabited

/-- What a command line asks for. -/
inductive Command where
  | start (arguments : Arguments)
  | version
  | help
  | misuse
  deriving DecidableEq

namespace Arguments

/-- A number in decimal digits that fits a machine word, with or without a plus sign. -/
def count? (text : String) : Option Nat :=
  let digits : List Char := match text.toList with
    | '+' :: rest => rest
    | cs => cs
  let value : Nat := digits.foldl (fun n c => n * 10 + (c.toNat - '0'.toNat)) 0
  if digits ≠ [] ∧ digits.all Char.isDigit = true ∧ value < UInt64.size then some value
  else none

/-- Takes the value of an option. Only namespaces may be given more than once, and a path is never
empty. -/
def give? (a : Arguments) (option value : String) : Option Arguments :=
  match option with
  | "--config" =>
    if a.config.isNone ∧ value ≠ "" then some { a with config := some value } else none
  | "--watch-namespace" =>
    some { a with watchNamespaces := some (a.watchNamespaces.getD [] ++ Text.split ',' value) }
  | "--workers" =>
    if a.workers.isNone then (count? value).map fun n => { a with workers := some n } else none
  | _ => none

/-- A word that is no value: it begins with a dash, and there is more of it. -/
def isOption (word : String) : Bool := Text.startsWith "-" word && word ≠ "-"

/-- What the environment says counts where the command line is silent. -/
def fillFrom? (a : Arguments) (env : Environment) : Option Arguments :=
  let a := { a with
    watchNamespaces := a.watchNamespaces.or (env.watchNamespaces.map (Text.split ',')) }
  match a.config, env.config with
  | none, some path => a.give? "--config" path
  | _, _ => some a

end Arguments

namespace Command

/-- An option of one letter; whatever is written behind the letter does not count. -/
def ofLetter? (word : String) : Option Command :=
  if Text.startsWith "-V" word then some .version
  else if Text.startsWith "-h" word then some .help
  else none

/-- The part before the first equals sign, and the part behind it. -/
def cut (word : String) : String × Option String :=
  match word.toList.span (· ≠ '=') with
  | (name, []) => (String.ofList name, none)
  | (name, _ :: value) => (String.ofList name, some (String.ofList value))

/-- Reads words from the left; the first that settles the matter does. The value of an option is
written behind an equals sign, or it is the next word. -/
def ofWords (a : Arguments) : List String → Command
  | [] | ["--"] => .start a
  | "--version" :: _ => .version
  | "--help" :: _ => .help
  | "--crd" :: rest =>
    if a.manifest then .misuse else ofWords { a with manifest := true } rest
  | "--log-json" :: rest =>
    if a.logJson then .misuse else ofWords { a with logJson := true } rest
  | word :: rest =>
    match ofLetter? word, cut word, rest with
    | some command, _, _ => command
    | none, (option, some value), rest =>
      match a.give? option value with
      | some a => ofWords a rest
      | none => .misuse
    | none, (option, none), value :: rest =>
      match if Arguments.isOption value then none else a.give? option value with
      | some a => ofWords a rest
      | none => .misuse
    | none, (_, none), [] => .misuse

/-- The command of a command line in an environment. -/
def read (words : List String) (env : Environment) : Command :=
  match ofWords {} words with
  | .start a =>
    match a.fillFrom? env with
    | some a => .start a
    | none => .misuse
  | command => command

end Command

end ShardOperator
