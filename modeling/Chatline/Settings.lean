import Chatline.Environment
import Chatline.FileTree
import Chatline.Logging
import Chatline.Record
import Chatline.Text.Lower
import Chatline.Text.Upper
import Chatline.Yaml.Builder

namespace Chatline

structure Settings where
  format : Option String
  level  : String
  layout : LogLayout
  source : Option Path
  deriving DecidableEq, Repr

namespace Settings

def default : Settings :=
  { format := none, level := "INFO", layout := .detailed, source := none }

instance : Inhabited Settings :=
  ⟨default⟩

def defaultPath : Path :=
  Path.ofText "config/config.yml"

def defaultText : String :=
  "# Chat format.\n" ++
  "#\n" ++
  "# Placeholders:\n" ++
  "#   \x7bname\x7d            player name\n" ++
  "#   \x7bdisplayname\x7d     player display name\n" ++
  "#   \x7bmessage\x7d         the chat message\n" ++
  "#   \x7bprefix\x7d          prefix from the chat meta provider\n" ++
  "#   \x7bsuffix\x7d          suffix from the chat meta provider\n" ++
  "#   \x7bverifier-badge\x7d  badge of the service the player's account is linked to\n" ++
  "#\n" ++
  "# Colors use '&' codes (&a, &l, ...) and hex colors as &#rrggbb.\n" ++
  "format: \"<\x7bprefix\x7d\x7bname\x7d\x7bsuffix\x7d> \x7bmessage\x7d\"\n" ++
  "\n" ++
  "logging:\n" ++
  "  level: INFO\n" ++
  "  format: detailed\n"

def resolvePath (e : Environment) (path : Option String) : Path :=
  match path <|> e.configPath? with
  | some s => .ofText s
  | none   => defaultPath

structure Statement where
  format : Option Datum
  level  : Option Datum
  layout : Option Datum

namespace Statement

def empty : Statement :=
  { format := none, level := none, layout := none }

def formatKey  : String := "format"
def loggingKey : String := "logging"
def levelKey   : String := "level"
def layoutKey  : String := "format"

def ofDocument? (doc : Yaml.Document) : Option Statement :=
  match doc.root, doc.entries? doc.root with
  | .single .null, _ => some empty
  | _, none          => none
  | _, some entries  =>
    let format := (Yaml.Document.entry? entries formatKey).map doc.outline
    match (Yaml.Document.entry? entries loggingKey).bind doc.entries? with
    | none         => some { empty with format }
    | some logging =>
      let said (key : String) := (Yaml.Document.entry? logging key).map doc.tree
      some { format, level := said levelKey, layout := said layoutKey }

def formatText (s : Statement) : Option String × List Record :=
  match s.format with
  | none | some .null => (none, [])
  | some (.text ps)   => (some (.ofList (Text.joined ps)), [])
  | some d            => (none, [.formatNotText d.typeName])

def levelName (s : Statement) : Except Failure (Option String) :=
  s.level.mapM fun d => return .ofList (Text.joined (Text.upperPoints (← d.display)))

def namedLayout (s : Statement) : Except Failure (Option LogLayout) :=
  match s.layout with
  | none   => .ok none
  | some d => return LogLayout.ofTitle? (.ofList (Text.joined (Text.lowerPoints (← d.display))))

end Statement

def withStatement (source : Option Path) (format : Option String) (s : Statement) :
    Except Failure Settings := do
  let level ← s.levelName
  let layout ← s.namedLayout
  return { format, level := level.getD default.level, layout := layout.getD default.layout, source }

def ofStatement (source : Option Path) (s : Statement) : Except Failure Settings × List Record :=
  let (format, records) := s.formatText
  (withStatement source format s, records)

def override (s : Settings) (e : Environment) : Settings :=
  { s with format := e.format? <|> s.format, level := (e.level?.map Text.upper).getD s.level }

-- What a settings file says. A file that is missing or cannot be used is as good as an empty one, with a
-- warning. Only bytes that are not text, or values that are none, are not put up with.
def readStatement (files : FileTree) (path : Path) : Except Failure (Statement × List Record) :=
  match files.read path with
  | .error (.file .notFound _) => .ok (.empty, [.settingsMissing path.toText])
  | .error (.file f p)         => .ok (.empty, [.settingsUnreadable path.toText (.file (.file f p))])
  | .error e                   => .error e
  | .ok bytes                  =>
    match Yaml.read (.ofBytes bytes) with
    | .error .malformed    => .ok (.empty, [.settingsUnreadable path.toText .malformed])
    | .error (.unusable e) => .error e
    | .ok doc              =>
      match Statement.ofDocument? doc with
      | some s => .ok (s, [])
      | none   => .ok (.empty, [.settingsNotMap path.toText])

def load (files : FileTree) (e : Environment) (path : Option String) :
    Except Failure Settings × List Record :=
  let path := resolvePath e path
  match readStatement files path with
  | .error e           => (.error e, [])
  | .ok (s, warnings) =>
    let (settings, records) := ofStatement (some path) s
    (settings.map (·.override e), warnings ++ records)

def saveDefault (e : Environment) (path : Option String) : FileOp Bool := do
  let path := resolvePath e path
  if ← (← get).holds path then return false
  FileTree.ensureFolders path.parent path.parent.parts.length
  FileTree.write path (Text.Utf8.encode defaultText)
  return true

end Settings
end Chatline
