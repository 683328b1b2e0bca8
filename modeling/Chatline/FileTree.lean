import Chatline.Failure
import Chatline.Path
import Chatline.Table

namespace Chatline

abbrev Place := List String

inductive FileEntry
  | file (content : List UInt8)
  | folder
  deriving DecidableEq, Repr

structure FileTree where
  home    : Place
  entries : Table Place FileEntry

-- An operation on files. What has been done before a failure stays done.
abbrev FileOp (α : Type) := ExceptT Failure (StateM FileTree) α

namespace FileTree

def get? (t : FileTree) (place : Place) : Option FileEntry :=
  if place = [] then some .folder else t.entries.get? place

def put (t : FileTree) (place : Place) (entry : FileEntry) : FileTree :=
  { t with entries := t.entries.set place entry }

def bare : FileTree :=
  { home := ["srv", "chat"], entries := .ofList [(["srv"], .folder), (["srv", "chat"], .folder)] }

def base (t : FileTree) (p : Path) : Place :=
  match p.start with
  | .here => t.home
  | _     => []

def checkName (name : String) : Except FileFault Unit :=
  if name.utf8ByteSize > 255 then .error .nameTooLong else .ok ()

-- Follows a path. Every step is taken from a folder, also a step back.
def walk (t : FileTree) (place : Place) : List String → Except FileFault Place
  | []            => .ok place
  | name :: names =>
    match t.get? place with
    | none           => .error .notFound
    | some (.file _) => .error .notDirectory
    | some .folder   => do
      checkName name
      t.walk (if name = ".." then place.dropLast else place ++ [name]) names

def locate (t : FileTree) (p : Path) : Except FileFault Place :=
  t.walk (t.base p) p.parts

def fault (p : Path) (f : FileFault) : Failure :=
  .file f p.toText

def checkPath (p : Path) : Except Failure Unit :=
  if p.toText.toList.contains '\x00' then .error .nulInPath
  else if p.toText.utf8ByteSize ≥ 4096 then .error (fault p .nameTooLong)
  else .ok ()

def placeOf (t : FileTree) (p : Path) : Except Failure Place := do
  checkPath p
  (t.locate p).mapError (fault p)

def read (t : FileTree) (p : Path) : Except Failure (List UInt8) := do
  match t.get? (← t.placeOf p) with
  | none                 => throw (fault p .notFound)
  | some .folder         => throw (fault p .isDirectory)
  | some (.file content) => return content

def holds (t : FileTree) (p : Path) : Except Failure Bool :=
  match t.placeOf p with
  | .ok place                         => .ok (t.get? place).isSome
  | .error (.file .nameTooLong path)  => .error (.file .nameTooLong path)
  | .error _                          => .ok false

def isFolder (t : FileTree) (p : Path) : Bool :=
  match t.placeOf p with
  | .ok place => t.get? place = some .folder
  | .error _  => false

def write (p : Path) (content : List UInt8) : FileOp Unit := do
  let t : FileTree ← get
  let place ← t.placeOf p
  match t.get? place with
  | some .folder => throw (fault p .isDirectory)
  | _            => set (t.put place (.file content))

def makeFolder (p : Path) : FileOp Unit := do
  checkPath p
  let t : FileTree ← get
  match p.parts.getLast? with
  | none      => throw (fault p .exists)
  | some name =>
    let place ← (t.locate p.parent).mapError (fault p)
    match t.get? place with
    | none           => throw (fault p .notFound)
    | some (.file _) => throw (fault p .notDirectory)
    | some .folder   =>
      (checkName name).mapError (fault p)
      if name = ".." || (t.get? (place ++ [name])).isSome then throw (fault p .exists)
      set (t.put (place ++ [name]) .folder)

def ensureFolder (p : Path) : FileOp Unit :=
  tryCatch (makeFolder p) fun e => do
    unless (← get).isFolder p do throw e

def ensureFolders (p : Path) : Nat → FileOp Unit
  | 0         => ensureFolder p
  | depth + 1 =>
    tryCatch (makeFolder p) fun e => do
      match e with
      | .file .notFound _ =>
        ensureFolders p.parent depth
        ensureFolder p
      | _                 => unless (← get).isFolder p do throw e

def supply (p : Path) (content : Option (List UInt8)) : FileOp Unit := do
  match content with
  | none       => ensureFolders p p.parts.length
  | some bytes =>
    ensureFolders p.parent p.parts.length
    write p bytes

def remove (t : FileTree) (p : Path) : FileTree :=
  match t.locate p with
  | .error _  => t
  | .ok place =>
    let isKept (e : Place × FileEntry) : Bool := !place.isPrefixOf e.1
    { t with entries := ⟨t.entries.entries.filter isKept⟩ }

def listing (t : FileTree) : List (String × List UInt8) :=
  t.entries.entries.filterMap fun (place, entry) =>
    match entry with
    | .folder       => none
    | .file content =>
      if t.home.isPrefixOf place then some ("/".intercalate (place.drop t.home.length), content)
      else none

end FileTree
end Chatline
