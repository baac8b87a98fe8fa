import RegistryStorage.Report
import RegistryStorage.Settings.File

/-!
The command line.

A command line names one command. Options may stand before or behind it, each at most once on
either side; an option behind the command counts more than the same one before it, and both
count more than a variable of the environment. `Arguments.read?` gives the arguments or says
why the command line is not carried out: the first thing that cannot be read, from left to
right, then what stands behind the command as a whole, then what stands before it.
-/

set_option autoImplicit false

namespace RegistryStorage

/-- What the program is asked to do. -/
inductive Command
  /-- Put storage in place. -/
  | provision
  /-- Take storage down. -/
  | deprovision
  /-- Look whether storage exists. -/
  | status
  /-- Show the registry's environment. -/
  | environment (showSecrets : Bool)
  /-- Choose names for a cluster. -/
  | names (infrastructure : String)
deriving DecidableEq, Repr, Inhabited

/-- Why a command line is not carried out. -/
inductive Usage
  /-- It asks for help. -/
  | help
  /-- It asks for the version. -/
  | version
  /-- It says nothing, so help is shown. -/
  | nothing
  /-- It gives options but names no command. -/
  | missingCommand
  /-- It has a word where a command is expected. -/
  | unknownCommand
  /-- It has an option or a word that has no meaning there. -/
  | unknownArgument
  /-- It lacks a word that the command needs. -/
  | missingArgument
  /-- An option lacks its value, or has one that it does not take. -/
  | invalidValue
  /-- A switch has a value. -/
  | needlessValue
  /-- An option is given twice. -/
  | repeated
deriving DecidableEq, Repr, Inhabited

/-- The status with which the program ends. -/
def Usage.exitStatus : Usage → Nat
  | help | version => 0
  | _ => 2

/-- What is printed in place of a run. -/
def Usage.message : Usage → String
  | help | nothing =>
    "Usage: azstore [OPTIONS] <COMMAND>\n\n" ++
      "Commands:\n" ++
      "  provision      Create the storage account and container if they are missing\n" ++
      "  deprovision    Delete storage created by this tool\n" ++
      "  status         Check that the configured container exists\n" ++
      "  env            Print the registry storage environment\n" ++
      "  generate-name  Generate resource names for a cluster without calling Azure\n" ++
      "  help           Print this message\n\n" ++
      "Options:\n" ++
      "      --debug                Enable debug logging\n" ++
      "      --format <FORMAT>      Output format: text, json or yaml\n" ++
      "      --state <STATE>        Storage state file (JSON), created when missing\n" ++
      "      --infra <INFRA>        Cluster infrastructure file (JSON)\n" ++
      "      --settings <SETTINGS>  Settings file"
  | version => "azstore 0.3.1"
  | missingCommand => "error: a command is required"
  | unknownCommand => "error: unrecognized command"
  | unknownArgument => "error: unexpected argument found"
  | missingArgument => "error: the name of the cluster is missing"
  | invalidValue => "error: an option has a missing or an invalid value"
  | needlessValue => "error: a value was given to an option that takes none"
  | repeated => "error: an option was given more than once"

/-- The arguments of a run. -/
structure Arguments where
  command : Command
  debug : Bool
  format : Format
  /-- The path of the record. -/
  state : String
  /-- The path of the description of the cluster. -/
  infra : Option String
  /-- The path of the settings. -/
  settings : Option String
deriving DecidableEq, Repr, Inhabited

namespace Command

/-! ## Words -/

/-- The word that names a command. -/
inductive Word
  | provision
  | deprovision
  | status
  | environment
  | names
deriving DecidableEq, Repr, Inhabited

/-- The command word of a text. -/
def Word.ofText? : String → Option Word
  | "provision" => some .provision
  | "deprovision" => some .deprovision
  | "status" => some .status
  | "env" => some .environment
  | "generate-name" => some .names
  | _ => none

/-- The word that asks for help. -/
def helpWord : String := "help"

/-- Whether a text is a word that may stand where the command is expected. -/
def isCommandWord (s : String) : Bool := (Word.ofText? s).isSome || s == helpWord

/-- A part of the command line by its form. -/
inductive Token
  /-- Two dashes: no options behind them. -/
  | divider
  /-- A long option, with a value behind an equals sign. -/
  | long (name : String) (value : Option String)
  /-- Options of one letter behind one dash; the first one decides. -/
  | short (first : Char)
  | word (s : String)
deriving DecidableEq, Repr, Inhabited

/-- The form of a part of the command line. -/
def Token.of (s : String) : Token :=
  match s.toList with
  | ['-', '-'] => .divider
  | '-' :: '-' :: r =>
    .long (String.ofList (r.takeWhile (· != '=')))
      (match r.dropWhile (· != '=') with
       | _ :: value => some (String.ofList value)
       | [] => none)
  | '-' :: c :: _ => .short c
  | _ => .word s

/-! ## Options -/

/-- An option with a value. -/
inductive Parameter
  | format
  | state
  | infra
  | settings
deriving DecidableEq, Repr, Inhabited

/-- The variable that stands for an option that is not given. -/
def Parameter.variableName? : Parameter → Option String
  | format => none
  | state => some "AZSTORE_STATE"
  | infra => some "AZSTORE_INFRASTRUCTURE"
  | settings => some "AZSTORE_SETTINGS"

/-- All options with a value. -/
def Parameter.all : List Parameter := [format, state, infra, settings]

/-- Something that begins with dashes. -/
inductive Switch
  | parameter (p : Parameter)
  | debug
  | showSecrets
  | help
  | version
deriving DecidableEq, Repr, Inhabited

/-- The side of the command on which a part of the command line stands. -/
inductive Side
  | before
  | behind (w : Word)
deriving DecidableEq, Repr, Inhabited

/-- The meaning of a long option. -/
def Side.long? (side : Side) : String → Option Switch
  | "format" => some (.parameter .format)
  | "state" => some (.parameter .state)
  | "infra" => some (.parameter .infra)
  | "settings" => some (.parameter .settings)
  | "debug" => some .debug
  | "help" => some .help
  | "version" => if side = .before then some .version else none
  | "show-secrets" => if side = .behind .environment then some .showSecrets else none
  | _ => none

/-- The meaning of a short option. -/
def Side.short? (side : Side) (c : Char) : Option Switch :=
  if c = 'h' then some .help
  else if c = 'V' ∧ side = .before then some .version
  else none

/-! ## What is given on one side -/

/-- What one side of the command line gives. -/
structure Given where
  values : Parameter → Option String := fun _ => none
  debug : Bool := false
  showSecrets : Bool := false
  /-- The word behind the command. -/
  name : Option String := none

/-- Whether a value can be taken: a format that exists, or a path that is not empty. -/
def Parameter.accepts : Parameter → String → Bool
  | format, value => (Format.ofName? value).isSome
  | _, value => value != ""

/-- Takes the value of an option. -/
def Given.take (g : Given) (p : Parameter) (value : String) : Except Usage Given :=
  if (g.values p).isSome then .error .repeated
  else if p.accepts value then
    .ok { g with values := fun q => if q = p then some value else g.values q }
  else .error .invalidValue

/-- What has been read, and the option whose value is being read. -/
structure Reading where
  given : Given := {}
  /-- The option named last, and its value once it has come. -/
  pending : Option (Parameter × Option String) := none

namespace Reading

/-- Whether the next word is the value of an option. -/
def awaitsValue (r : Reading) : Option Parameter :=
  match r.pending with
  | some (p, none) => some p
  | _ => none

/-- Takes the value of the option named last. -/
def settle (r : Reading) : Except Usage Given :=
  match r.pending with
  | none => .ok r.given
  | some (_, none) => .error .invalidValue
  | some (p, some value) => r.given.take p value

/-- Reads a switch without a value. -/
def switch (r : Reading) : Switch → Except Usage Reading
  | .parameter p => do return { given := ← r.settle, pending := some (p, none) }
  | .debug => do
    let g ← r.settle
    if g.debug then throw .repeated else return { given := { g with debug := true } }
  | .showSecrets => do
    let g ← r.settle
    if g.showSecrets then throw .repeated else return { given := { g with showSecrets := true } }
  | .help => do
    let _ ← r.settle
    throw .help
  | .version => do
    let _ ← r.settle
    throw .version

/-- Reads a switch with a value. -/
def switchTo (r : Reading) (value : String) : Switch → Except Usage Reading
  | .parameter p => do return { given := ← (← r.settle).take p value }
  | _ => throw .needlessValue

/-- Reads a long option. -/
def long (r : Reading) (side : Side) (name : String) (value : Option String) :
    Except Usage Reading :=
  match side.long? name, value with
  | none, _ => .error .unknownArgument
  | some s, none => r.switch s
  | some s, some v => r.switchTo v s

/-- Reads options of one letter. -/
def short (r : Reading) (side : Side) (first : Char) : Except Usage Reading :=
  match side.short? first with
  | none => .error .unknownArgument
  | some s => r.switch s

/-- Reads a word behind the command. -/
def word (r : Reading) (w : Word) (s : String) : Except Usage Reading := do
  if w = .names ∧ r.given.name.isNone then
    return { given := { ← r.settle with name := some s } }
  else throw .unknownArgument

end Reading

/-! ## Reading the two sides -/

/-- What the words behind the request for help come to: they name at most one command. -/
def helpOn : List String → Usage
  | [] => .help
  | [w] => if isCommandWord w then .help else .unknownCommand
  | _ => .unknownCommand

/-- Reads what stands before the command, up to the command and what stands behind it. -/
def readBefore : List String → Reading → Except Usage (Reading × Option (Word × List String))
  | [], r => .ok (r, none)
  | s :: rest, r =>
    match Token.of s with
    | .divider =>
      match rest with
      | [] => .ok (r, none)
      | w :: _ => .error (if isCommandWord w then .unknownArgument else .unknownCommand)
    | .long name value => do readBefore rest (← r.long .before name value)
    | .short c => do readBefore rest (← r.short .before c)
    | .word s =>
      match r.awaitsValue with
      | some p => readBefore rest { r with pending := some (p, some s) }
      | none =>
        match Word.ofText? s with
        | some w => .ok (r, some (w, rest))
        | none => .error (if s = helpWord then helpOn rest else .unknownCommand)

/-- Reads what stands behind the command. -/
def readBehind (w : Word) : List String → Reading → Except Usage Reading
  | [], r => .ok r
  | s :: rest, r =>
    match Token.of s with
    | .divider => rest.foldlM (fun r s => r.word w s) r
    | .long name value => do readBehind w rest (← r.long (.behind w) name value)
    | .short c => do readBehind w rest (← r.short (.behind w) c)
    | .word s =>
      match r.awaitsValue with
      | some p => readBehind w rest { r with pending := some (p, some s) }
      | none => do readBehind w rest (← r.word w s)

/-- The value of an option's variable. -/
def Parameter.fromVariable (p : Parameter) (env : Variables) : Option String :=
  p.variableName?.bind env.get?

/-- What one side gives; the variables of the options that it does not give have to be values
of theirs. -/
def Reading.finish (r : Reading) (env : Variables) : Except Usage Given := do
  let g ← r.settle
  let acceptable (p : Parameter) : Bool :=
    (g.values p).isSome ||
      match p.fromVariable env with
      | some value => p.accepts value
      | none => true
  if Parameter.all.all acceptable then return g else throw .invalidValue

/-- The command that is asked for. -/
def Word.command (g : Given) : Word → Except Usage Command
  | provision => .ok .provision
  | deprovision => .ok .deprovision
  | status => .ok .status
  | environment => .ok (.environment g.showSecrets)
  | names =>
    match g.name with
    | some s => .ok (.names s)
    | none => .error .missingArgument

end Command

namespace Arguments

open Command

/-- The variables that count for a run. -/
def variableNames : List String := Settings.variableNames ++ Parameter.all.filterMap (·.variableName?)

/-- Where the record is kept when nobody says so. -/
def defaultState : String := "azstore-state.json"

/-- Whether anything is given by one side or by a variable. -/
def givesAnything (g : Given) (env : Variables) : Bool :=
  g.debug || Parameter.all.any fun p => ((g.values p).or (p.fromVariable env)).isSome

/-- The arguments of a command line. -/
def read? (words : List String) (env : Variables) : Except Usage Arguments := do
  let (r, found) ← readBefore words {}
  match found with
  | none =>
    let g ← r.finish env
    throw (if givesAnything g env then .missingCommand else .nothing)
  | some (w, rest) =>
    let behind ← (← readBehind w rest {}).finish env
    let command ← w.command behind
    let before ← r.finish env
    let value (p : Parameter) : Option String :=
      ((behind.values p).or (before.values p)).or (p.fromVariable env)
    return {
      command
      debug := before.debug || behind.debug
      format := ((value .format).bind Format.ofName?).getD .text
      state := (value .state).getD defaultState
      infra := value .infra
      settings := value .settings }

/-- Where the settings file is. -/
def settingsPath (a : Arguments) (env : Variables) : Except Fault String :=
  match a.settings with
  | some path => .ok path
  | none => Settings.path env

end Arguments

end RegistryStorage
