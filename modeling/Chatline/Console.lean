import Chatline.CommandLine
import Chatline.Dispatch
import Chatline.Text.Blank

namespace Chatline.Console

abbrev Desk := Host Empty Unit

def noGuests : Guests Empty Unit :=
  fun guest => nomatch guest

structure Seat where
  player : Player
  bus    : BusId
  plugin : PluginId
  plain  : Bool

def registerMeta (o : ChatOptions) (identity : Identity) (d : DirectoryId) (h : Desk) : Desk :=
  if o.prefixText.isNone && o.suffixText.isNone then h
  else
    let of (text : Option String) (id : Identity) : Reply := .ok (if id = identity then text else none)
    let (p, h) := h.introduce (.chatMeta "cli" (of o.prefixText) (of o.suffixText))
    h.register noGuests d .chatMeta p

def registerAccount (o : ChatOptions) (identity : Identity) (d : DirectoryId) (h : Desk) : Desk :=
  match o.verifier with
  | none          => h
  | some verifier =>
    let (a, h) := h.introduce (.accounts fun id => .ok (if id = identity then some verifier else none))
    let h := h.register noGuests d .accounts a
    let (b, h) := h.introduce (.verifierPrefixes fun v => .ok (if v = verifier then o.badge else none))
    h.register noGuests d .verifierPrefixes b

-- Sets up a plugin with the given settings. Providers are registered last, so they reach the plugin as
-- changes, like those of services that start late.
def sitDown (o : ChatOptions) (configPath : Option String) (settings : Settings) (h : Desk) :
    Except Failure Seat × Desk :=
  let player := Player.offline o.name o.displayName
  let (bus, h) := h.openBus
  let (directory, h) := h.openDirectory (some bus)
  let (plugin, h) := h.attach configPath false (some bus) (some directory)
  match h.enable noGuests plugin (some settings) with
  | (.error e, h) => (.error e, h)
  | (.ok (), h)   =>
    let h := match o.format with
      | some format => (h.reload plugin (some format)).2
      | none        => h
    let h := registerAccount o player.identity directory (registerMeta o player.identity directory h)
    (.ok { player, bus, plugin, plain := o.plain }, h)

def printed (plain : Bool) (m : ChatMessage) : String :=
  if plain then .ofList (Color.strip m.render.toList) else m.render

def say (s : Seat) (body : String) (h : Desk) : String × Desk :=
  let (m, h) := h.publish noGuests s.bus s.player body
  (printed s.plain m ++ "\n", h)

def labels : List String :=
  ["/chatformatter", "/cf"]

def feed (s : Seat) (line : String) (h : Desk) : Except Failure String × Desk :=
  let line := Text.chompNewlines line
  match Text.words line with
  | []            => (.ok "", h)
  | label :: args =>
    if labels.contains (label.map Char.toLower) then
      match h.command noGuests s.plugin args with
      | (.error e, h) => (.error e, h)
      | (.ok r, h)    =>
        let usage := if r.handled then [] else [s!"Usage: {label} reload"]
        (.ok (String.join ((r.messages ++ usage).map (· ++ "\n"))), h)
    else
      let (out, h) := say s line h
      (.ok out, h)

inductive Input
  | line (text : String)
  | change (path : Path) (content : Option (List UInt8))
  | interrupt

-- What is printed for an input, and whether there is more to come. The plugin is put out of work in the end,
-- which is reached when there are no more inputs.
def step (s : Seat) : Option Input → Desk → Except Failure (String × Bool) × Desk
  | none,                        h => (.ok ("", false), h.disable s.plugin)
  | some .interrupt,             h => (.ok ("\n", false), h.disable s.plugin)
  | some (.change path content), h =>
    (.ok ("", true), { h with files := (FileTree.supply path content h.files).2 })
  | some (.line text),           h =>
    let (out, h) := feed s text h
    (out.map (·, true), h)

def read (s : Seat) : List Input → Desk → Except Failure String × Desk
  | [],      h =>
    let (out, h) := step s none h
    (out.map Prod.fst, h)
  | i :: is, h =>
    match step s (some i) h with
    | (.error e, h)         => (.error e, h)
    | (.ok (out, false), h) => (.ok out, h)
    | (.ok (out, true), h)  =>
      let (rest, h) := read s is h
      (rest.map (out ++ ·), h)

structure Report where
  exitCode : Nat
  output   : String
  errors   : String
  setup    : Option LogSetup
  deriving DecidableEq, Repr

def Report.ok (output : String) (setup : LogSetup) : Report :=
  { exitCode := 0, output, errors := "", setup := some setup }

def Report.failed (message : String) (setup : LogSetup) : Report :=
  { exitCode := 1, output := "", errors := message ++ "\n", setup := some setup }

def render (o : ChatOptions) (body : String) (configPath : Option String) (settings : Settings)
    (h : Desk) : Except Failure String × Desk :=
  match sitDown o configPath settings h with
  | (.error e, h) => (.error e, h)
  | (.ok s, h)    =>
    let (out, h) := say s body h
    (.ok out, h)

def showTemplate (format : Option String) : String :=
  let t := Template.compile format
  s!"Raw:      {t.raw}\nCompiled: {t.text}\n"

def written (isNew : Bool) : String :=
  if isNew then "Default config written.\n" else "Config file already exists, left unchanged.\n"

def perform (c : Command) (configPath : Option String) (settings : Settings) (inputs : List Input)
    (h : Desk) : Except Failure Report × Desk :=
  let setup := LogSetup.of settings.level settings.layout
  match c with
  | .render o body        =>
    match render o body configPath settings h with
    | (.error e, h) => (.ok (.failed s!"Error formatting message: {e.message}" setup), h)
    | (.ok out, h)  => (.ok (.ok out setup), h)
  | .console o            =>
    match sitDown o configPath settings h with
    | (.error e, h) => (.error e, h)
    | (.ok s, h)    =>
      let (out, h) := read s inputs h
      (out.map (.ok · setup), h)
  | .showTemplate format  => (.ok (.ok (showTemplate (format <|> settings.format)) setup), h)
  | .initConfig           =>
    match h.saveDefault configPath with
    | (.ok isNew, h)          => (.ok (.ok (written isNew) setup), h)
    | (.error (.file f p), h) =>
      (.ok (.failed s!"Error writing config: {(Failure.file f p).message}" setup), h)
    | (.error e, h)           => (.error e, h)

def run (c : Command) (configPath : Option String) (inputs : List Input) (h : Desk) :
    Except Failure Report × Desk :=
  match h.loadSettings configPath with
  | (.error e, h)     => (.error e, h)
  | (.ok settings, h) => perform c configPath settings inputs h

def versionText : String := "chat-formatter 1.0.0\n"

end Chatline.Console
