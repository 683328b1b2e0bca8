import Chatline.Arguments

namespace Chatline

structure ChatOptions where
  name        : String
  displayName : Option String
  format      : Option String
  prefixText  : Option String
  suffixText  : Option String
  verifier    : Option String
  badge       : Option String
  plain       : Bool
  deriving DecidableEq, Repr

inductive Command
  | render (options : ChatOptions) (body : String)
  | console (options : ChatOptions)
  | showTemplate (format : Option String)
  | initConfig
  deriving DecidableEq, Repr

inductive Wish
  | help
  | version
  | run (configPath : Option String) (command : Command)
  -- The command line is not one of this program.
  | refused
  deriving DecidableEq, Repr

namespace CommandLine

inductive Key
  | help
  | version
  | config
  | name
  | displayName
  | format
  | prefixText
  | suffixText
  | verifier
  | badge
  | plain
  | message
  deriving DecidableEq

def helpSpec : OptionSpec Key :=
  { key := .help, spellings := ["-h", "--help"], takesValue := false, ends := true }

def mainSpecs : List (OptionSpec Key) :=
  [helpSpec,
   { key := .version, spellings := ["--version"], takesValue := false, ends := true },
   { key := .config, spellings := ["--config", "-c"] }]

def formatSpec : OptionSpec Key :=
  { key := .format, spellings := ["--format", "-f"] }

def chatSpecs : List (OptionSpec Key) :=
  [helpSpec,
   { key := .name, spellings := ["--name", "-n"] },
   { key := .displayName, spellings := ["--display-name"] },
   formatSpec,
   { key := .prefixText, spellings := ["--prefix"] },
   { key := .suffixText, spellings := ["--suffix"] },
   { key := .verifier, spellings := ["--verifier"] },
   { key := .badge, spellings := ["--badge"] },
   { key := .plain, spellings := ["--plain"], takesValue := false }]

def renderSpecs : List (OptionSpec Key) :=
  chatSpecs ++ [{ key := .message, spellings := ["--message", "-m"] }]

def chatOptions? (f : Arguments.Found Key) : Option ChatOptions := do
  return {
    name        := ← f.value? .name
    displayName := f.value? .displayName
    format      := f.value? .format
    prefixText  := f.value? .prefixText
    suffixText  := f.value? .suffixText
    verifier    := f.value? .verifier
    badge       := f.value? .badge
    plain       := f.has .plain }

def readCommand (configPath : Option String) (specs : List (OptionSpec Key)) (leftOver : Bool)
    (args : List String) (command? : Arguments.Found Key → Option Command) : Wish :=
  match Arguments.read? specs false args with
  | none   => .refused
  | some f =>
    if f.ending?.isSome then .help
    else
      match command? f with
      | some command =>
        if leftOver || !f.extras.isEmpty then .refused else .run configPath command
      | none         => .refused

def read (args : List String) : Wish :=
  match Arguments.read? mainSpecs true args with
  | none   => .refused
  | some f =>
    match f.ending? with
    | some .version => .version
    | some _        => .help
    | none          =>
      let command := readCommand (f.value? .config)
      let leftOver := !f.extras.isEmpty
      match f.command with
      | none                         => if leftOver then .refused else .help
      | some ("render" :: args)        =>
        command renderSpecs leftOver args fun f => do
          return .render (← chatOptions? f) (← f.value? .message)
      | some ("console" :: args)       =>
        command chatSpecs leftOver args fun f => do return .console (← chatOptions? f)
      | some ("show-template" :: args) =>
        command [helpSpec, formatSpec] leftOver args fun f => some (.showTemplate (f.value? .format))
      | some ("init-config" :: args)   =>
        command [helpSpec] leftOver args fun _ => some .initConfig
      | some _                         => .refused

end CommandLine
end Chatline
