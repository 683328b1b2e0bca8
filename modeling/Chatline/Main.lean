import Chatline.Console

open Chatline

namespace Chatline.Main

def usage : String :=
  "usage: chat-formatter [-h] [--version] [--config CONFIG] \x7brender,console,show-template,init-config\x7d ...\n"

def environment : IO Environment := do
  return {
    format     := ← IO.getEnv "CHAT_FORMAT"
    level      := ← IO.getEnv "CHAT_FORMATTER_LOG_LEVEL"
    configPath := ← IO.getEnv "CHAT_FORMATTER_CONFIG" }

-- What there is on the way to a file. Whatever is there and cannot be read as a file counts as a folder.
partial def snapshot (p : Path) (files : FileTree) (steps : Nat) : IO FileTree := do
  if steps > p.parts.length then return files
  let here : Path := { p with parts := p.parts.take steps }
  let found ← try
      pure (some (some (← IO.FS.readBinFile here.toText).toList))
    catch e =>
      match e with
      | .noFileOrDirectory .. => pure none
      | _                     => pure (some none)
  match found with
  | none                => return files
  | some (some content) => return (FileTree.supply here (some content) files).2
  | some none           => snapshot p (FileTree.supply here none files).2 (steps + 1)

def store (p : Path) (before after : FileTree) : IO Unit := do
  match before.read p, after.read p with
  | .error _, .ok content =>
    IO.FS.createDirAll p.parent.toText
    IO.FS.writeBinFile p.toText ⟨content.toArray⟩
  | _, _                  => return

def showLog (level : Nat) (h : Console.Desk) : IO Unit :=
  for r in h.log do
    if level ≤ r.level.rank then IO.eprintln s!"{r.level.title}: {r.text}"

def fail (e : Failure) : IO UInt32 := do
  IO.eprintln e.message
  return 1

partial def converse (config : Path) (level : Nat) (s : Console.Seat) (h : Console.Desk) : IO UInt32 := do
  let line ← (← IO.getStdin).getLine
  let h := { h with files := ← snapshot config .bare 1, log := [] }
  let (outcome, h) := Console.step s (if line.isEmpty then none else some (.line line)) h
  showLog level h
  match outcome with
  | .error e          => fail e
  | .ok (out, isOpen) =>
    IO.print out
    (← IO.getStdout).flush
    if isOpen then converse config level s h else return 0

def run (path : Option String) (command : Command) : IO UInt32 := do
  let e ← environment
  let config := Settings.resolvePath e path
  let files ← snapshot config .bare 1
  match (Host.new files e () : Console.Desk).loadSettings path with
  | (.error e, _)     => fail e
  | (.ok settings, h) =>
    let level := LogSetup.levelOf settings.level
    match command with
    | .console o =>
      match Console.sitDown o path settings h with
      | (.error e, h) => showLog level h; fail e
      | (.ok s, h)    => showLog level h; converse config level s h
    | _          =>
      let (report, h) := Console.perform command path settings [] h
      showLog level h
      store config files h.files
      match report with
      | .error e => fail e
      | .ok r    =>
        IO.print r.output
        IO.eprint r.errors
        return r.exitCode.toUInt32

end Chatline.Main

def main (args : List String) : IO UInt32 := do
  match CommandLine.read args with
  | .help             => IO.print Main.usage; return 0
  | .version          => IO.print Console.versionText; return 0
  | .refused          => IO.eprint Main.usage; return 2
  | .run path command => Main.run path command
