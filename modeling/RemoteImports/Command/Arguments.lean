import RemoteImports.Config.File
import RemoteImports.Project.Pathname

/-!
# The command line

A command line is a command with options and words. Some options can be given on either
side of the name of the command, where the inner side wins; the others belong to one
command. An option with a value takes it from behind a `=` or from the next argument, and
can be given once, except for the rules. After `--` every argument is a word.
-/

namespace RemoteImports
namespace Command

open Project

/-- Why no command is run: the arguments make no sense, or they ask about the program. -/
inductive Stop where
  | misuse
  | help
  | version
deriving DecidableEq

/-- The part of a command line that is being read: the part before the name of a command,
or the part behind it. -/
inductive Part where
  | outer
  | version
  | versions
  | transform
deriving DecidableEq

/-- An option without a value. -/
inductive Switch where
  | verbose
  | json
  | check
  | webpackIgnore
  | help
  | version
deriving DecidableEq

/-- An option with a value. -/
inductive Setting where
  | folder
  | config
  | outDir
  | host
  | fallback
  | shim
  | rule
  | manager
deriving DecidableEq

def Part.ofName? : String -> Option Part
  | "version" => some .version
  | "versions" => some .versions
  | "transform" => some .transform
  | _ => none

def Part.switch? (part : Part) : String -> Option Switch
  | "verbose" => some .verbose
  | "json" => some .json
  | "help" => some .help
  | "version" => if part = .outer then some .version else none
  | "check" => if part = .transform then some .check else none
  | "webpack-ignore" => if part = .transform then some .webpackIgnore else none
  | _ => none

def Part.letter? (part : Part) : Char -> Option Switch
  | 'v' => some .verbose
  | 'h' => some .help
  | 'V' => if part = .outer then some .version else none
  | _ => none

def Part.setting? (part : Part) (name : String) : Option Setting :=
  match name with
  | "cwd" => some .folder
  | "config" => some .config
  | "package-manager" => if part = .versions ∨ part = .transform then some .manager else none
  | _ =>
    if part = .transform then
      match name with
      | "out-dir" => some .outDir
      | "cdn" => some .host
      | "fallback" => some .fallback
      | "shim" => some .shim
      | "match" => some .rule
      | _ => none
    else none

/-- What was given in one part of a command line. -/
structure Given where
  verbosity : Nat := 0
  json : Bool := false
  folder : Option Pathname := none
  config : Option Pathname := none
  outDir : Option Pathname := none
  check : Bool := false
  host : Option String := none
  fallback : Option String := none
  shim : Option String := none
  rules : List String := []
  webpackIgnore : Bool := false
  manager : Option Package.Manager := none
  words : List String := []

/-!
## Taking options
-/

/-- Gives a flag that must not have been given before. -/
def raise (flag : Bool) : Except Stop Bool :=
  if flag then .error .misuse else .ok true

/-- Gives a value where none must have been given before. -/
def once {α : Type} (before : Option α) (value : α) : Except Stop (Option α) :=
  if before.isSome then .error .misuse else .ok (some value)

def pathOf (value : String) : Except Stop Pathname :=
  if value.isEmpty then .error .misuse else .ok ⟨value⟩

def managerOf : String -> Except Stop Package.Manager
  | "yarn" => .ok .yarn
  | "npm" => .ok .npm
  | _ => .error .misuse

def Given.takeSwitch (given : Given) : Switch -> Except Stop Given
  | .verbose => return { given with verbosity := given.verbosity + 1 }
  | .json => return { given with json := <- raise given.json }
  | .check => return { given with check := <- raise given.check }
  | .webpackIgnore => return { given with webpackIgnore := <- raise given.webpackIgnore }
  | .help => throw .help
  | .version => throw .version

def Given.takeSetting (given : Given) (value : String) : Setting -> Except Stop Given
  | .folder => return { given with folder := <- once given.folder (<- pathOf value) }
  | .config => return { given with config := <- once given.config (<- pathOf value) }
  | .outDir => return { given with outDir := <- once given.outDir (<- pathOf value) }
  | .host => return { given with host := <- once given.host value }
  | .fallback => return { given with fallback := <- once given.fallback value }
  | .shim => return { given with shim := <- once given.shim value }
  | .rule => return { given with rules := given.rules ++ [value] }
  | .manager => return { given with manager := <- once given.manager (<- managerOf value) }

def Given.takeLetters (part : Part) (given : Given) : List Char -> Except Stop Given
  | [] => return given
  | letter :: letters => do
    match part.letter? letter with
    | some switch => takeLetters part (<- given.takeSwitch switch) letters
    | none => throw .misuse

/-- Takes a word. Only the command that works on paths has words. -/
def Given.takeWord (part : Part) (given : Given) (word : String) : Except Stop Given :=
  if part = .transform ∧ ¬ word.isEmpty then .ok { given with words := given.words ++ [word] }
  else .error .misuse

def Given.takeWords (part : Part) (given : Given) : List String -> Except Stop Given
  | [] => return given
  | word :: words => do takeWords part (<- given.takeWord part word) words

/-!
## Reading a part
-/

/-- What an argument looks like. -/
inductive Shape where
  | divider
  | named (name : String) (value : Option String)
  | letters (letters : List Char)
  | word
deriving DecidableEq

def shape (argument : String) : Shape :=
  match argument.toList with
  | ['-', '-'] => .divider
  | '-' :: '-' :: rest =>
    let name := String.ofList (rest.takeWhile (· != '='))
    match rest.dropWhile (· != '=') with
    | [] => .named name none
    | _ :: value => .named name (some (String.ofList value))
  | '-' :: letter :: letters => .letters (letter :: letters)
  | _ => .word

/-- Reads a part of a command line, up to the name of a command if it is the outer one:
what was given, and the command and the arguments for it. -/
def readPart (part : Part) (given : Given) :
    List String -> Except Stop (Given × Option (Part × List String))
  | [] => return (given, none)
  | argument :: rest => do
    match shape argument with
    | .divider => return (<- given.takeWords part rest, none)
    | .letters letters => readPart part (<- given.takeLetters part letters) rest
    | .named name value =>
      match part.setting? name, part.switch? name, value, rest with
      | some setting, _, some value, rest =>
        readPart part (<- given.takeSetting value setting) rest
      | some setting, _, none, value :: rest =>
        if shape value = .word then readPart part (<- given.takeSetting value setting) rest
        else throw .misuse
      | none, some switch, none, rest => readPart part (<- given.takeSwitch switch) rest
      | _, _, _, _ => throw .misuse
    | .word =>
      if part = .outer then
        match Part.ofName? argument with
        | some command => return (given, some (command, rest))
        | none => throw (if argument = "help" then helpOn rest else .misuse)
      else readPart part (<- given.takeWord part argument) rest
where
  /-- Help is given on one of the commands, itself among them, or on all. -/
  helpOn : List String -> Stop
    | [] => .help
    | [topic] => if topic = "help" ∨ (Part.ofName? topic).isSome then .help else .misuse
    | _ => .misuse

/-!
## Command lines
-/

/-- What is to be changed about a configuration. -/
structure Overrides where
  host : Option String := none
  fallback : Option String := none
  shim : Option String := none
  rules : List String := []
  webpackIgnore : Bool := false
  manager : Option Package.Manager := none

def Overrides.apply (overrides : Overrides) (file : Config.File) : Config.File :=
  { file with
    host := overrides.host <|> file.host
    fallback := overrides.fallback <|> file.fallback
    shim := overrides.shim <|> file.shim
    entries :=
      if overrides.rules.isEmpty then file.entries
      else overrides.rules.map Config.MatchEntry.ofArgument
    webpackIgnore := if overrides.webpackIgnore then some true else file.webpackIgnore
    manager := overrides.manager <|> file.manager }

/-- What a rewrite of files is to work on, and where the results go. -/
structure Job where
  paths : List Pathname
  outDir : Option Pathname := none
  check : Bool := false

/-- A command with what belongs to it alone. -/
inductive Action where
  | version
  | versions (overrides : Overrides)
  | transform (overrides : Overrides) (job : Job)

/-- A command line that makes sense. -/
structure Invocation where
  json : Bool := false
  folder : Option Pathname := none
  config : Option Pathname := none
  action : Action := .version

/-- What the options of a command change about a configuration. -/
def Given.overrides (given : Given) : Overrides :=
  { host := given.host
    fallback := given.fallback
    shim := given.shim
    rules := given.rules
    webpackIgnore := given.webpackIgnore
    manager := given.manager }

def Given.action (given : Given) : Part -> Except Stop Action
  | .outer => return .version
  | .version => return .version
  | .versions => return .versions given.overrides
  | .transform =>
    let job : Job :=
      { paths := given.words.map Pathname.mk, outDir := given.outDir, check := given.check }
    if given.words.isEmpty then throw .misuse else return .transform given.overrides job

/-- Reads a command line. Without the name of a command it asks for the version. -/
def read (arguments : List String) : Except Stop Invocation := do
  let (outer, command) <- readPart .outer {} arguments
  match command with
  | none => return { json := outer.json, folder := outer.folder, config := outer.config }
  | some (part, rest) =>
    let (inner, _) <- readPart part {} rest
    return {
      json := outer.json || inner.json
      folder := inner.folder <|> outer.folder
      config := inner.config <|> outer.config
      action := <- inner.action part }

end Command
end RemoteImports
