import Chatline.Yaml.Graph
import Chatline.Yaml.Token

namespace Chatline.Yaml

structure Place where
  lexer   : Lexer
  graph   : Graph
  anchors : List (String × NodeId)
  handles : List (String × String)

abbrev NodeReader := StateT Place (Except Fault)

namespace NodeReader

def peek : NodeReader (Option Token) := do
  let l ← (← get).lexer.upcoming
  modify fun p => { p with lexer := l }
  return l.queue.head?

def advance : NodeReader Unit :=
  modify fun p => { p with lexer := p.lexer.advance }

def refuse {α : Type} : NodeReader α :=
  throw .malformed

def add (tag : Tag) (body : NodeBody) : NodeReader NodeId := do
  let (n, graph) := (← get).graph.add { tag, body }
  modify fun p => { p with graph }
  return n

def addEmpty : NodeReader NodeId :=
  add .null (.scalar [])

def name (anchor : Option String) (n : NodeId) : NodeReader Unit := do
  if let some a := anchor then
    modify fun p => { p with anchors := (a, n) :: p.anchors }

def anchor? : NodeReader (Option String) := do
  match ← peek with
  | some (.anchor a) => advance; return some a
  | _                => return none

def tagName? : NodeReader (Option TagName) := do
  match ← peek with
  | some (.tag t) => advance; return some t
  | _             => return none

def properties : NodeReader (Option String × Option TagName) := do
  match ← anchor? with
  | some a => return (some a, ← tagName?)
  | none   =>
    match ← tagName? with
    | some t => return (← anchor?, some t)
    | none   => return (none, none)

def expand (t : TagName) : NodeReader (Option Tag) := do
  let uri ←
    match t.handle with
    | none   => pure t.suffix
    | some h =>
      match (← get).handles.lookup h with
      | some expansion => pure (expansion ++ t.suffix)
      | none           => throw .malformed
  return if uri = "!" then none else some (.ofUri uri)

def isBlockStop : Option Token → Bool
  | some .key | some .value | some .blockEnd => true
  | _                                        => false

def isEntryStop : Option Token → Bool
  | some .blockEntry | some .blockEnd => true
  | _                                 => false

def isLooseEntryStop : Option Token → Bool
  | some .blockEntry | some .key | some .value | some .blockEnd => true
  | _                                                           => false

def isFlowListStop : Option Token → Bool
  | some .flowEntry | some .flowListEnd => true
  | _                                   => false

def isFlowMapStop : Option Token → Bool
  | some .flowEntry | some .flowMapEnd => true
  | _                                  => false

def separator (first : Bool) : NodeReader Unit := do
  unless first do
    match ← peek with
    | some .flowEntry => advance
    | _               => refuse

def collection (anchor : Option String) (tag : Tag) (blank : NodeBody) (contents : NodeReader NodeBody) :
    NodeReader NodeId := do
  let n ← add tag blank
  name anchor n
  let body ← contents
  modify fun p => { p with graph := p.graph.setBody n body }
  return n

mutual

def node (block loose : Bool) : Nat → NodeReader NodeId
  | 0        => refuse
  | fuel + 1 => do
    if let some (.alias a) ← peek then
      advance
      match (← get).anchors.lookup a with
      | some n => return n
      | none   => throw .malformed
    let (anchor, tagName) ← properties
    let tag? := (← tagName.mapM expand).join
    let next ← peek
    let anchors := (← get).anchors
    if anchor.any fun a => (anchors.lookup a).isSome then throw .malformed
    let listOf (items : NodeReader (List NodeId)) : NodeReader NodeId :=
      collection anchor (tag?.getD .list) (.list []) (.list <$> items)
    let mapOf (entries : NodeReader (List (NodeId × NodeId))) : NodeReader NodeId :=
      collection anchor (tag?.getD .map) (.map []) (.map <$> entries)
    let scalarOf (tag : Tag) (text : List Text.CodePoint) : NodeReader NodeId := do
      let n ← add (tag?.getD tag) (.scalar text)
      name anchor n
      return n
    match next, block, loose with
    | some .blockEntry, _, true          => listOf (looseItems fuel)
    | some (.scalar plain text), _, _    => do
      advance
      scalarOf (if plain || tagName.isSome then Plain.tag text else .text) text
    | some .flowListStart, _, _          => do advance; listOf (flowItems true fuel)
    | some .flowMapStart, _, _           => do advance; mapOf (flowEntries true fuel)
    | some .blockListStart, true, _      => do advance; listOf (blockItems fuel)
    | some .blockMapStart, true, _       => do advance; mapOf (blockEntries fuel)
    | _, _, _                            =>
      if anchor.isSome || tagName.isSome then scalarOf .null [] else refuse

def nodeUnless (isStop : Option Token → Bool) (block loose : Bool) : Nat → NodeReader NodeId
  | 0        => refuse
  | fuel + 1 => do if isStop (← peek) then addEmpty else node block loose fuel

def blockItems : Nat → NodeReader (List NodeId)
  | 0        => refuse
  | fuel + 1 => do
    match ← peek with
    | some .blockEntry =>
      advance
      let n ← nodeUnless isEntryStop true false fuel
      return n :: (← blockItems fuel)
    | some .blockEnd   => advance; return []
    | _                => refuse

-- The items of a list that has no indentation of its own. It ends at any token that is not an item.
def looseItems : Nat → NodeReader (List NodeId)
  | 0        => refuse
  | fuel + 1 => do
    match ← peek with
    | some .blockEntry =>
      advance
      let n ← nodeUnless isLooseEntryStop true false fuel
      return n :: (← looseItems fuel)
    | _                => return []

def blockEntries : Nat → NodeReader (List (NodeId × NodeId))
  | 0        => refuse
  | fuel + 1 => do
    match ← peek with
    | some .key      =>
      advance
      let k ← nodeUnless isBlockStop true true fuel
      let v ← blockValue fuel
      return (k, v) :: (← blockEntries fuel)
    | some .blockEnd => advance; return []
    | _              => refuse

def blockValue : Nat → NodeReader NodeId
  | 0        => refuse
  | fuel + 1 => do
    match ← peek with
    | some .value => advance; nodeUnless isBlockStop true true fuel
    | _           => addEmpty

def flowItems (first : Bool) : Nat → NodeReader (List NodeId)
  | 0        => refuse
  | fuel + 1 => do
    if let some .flowListEnd ← peek then
      advance
      return []
    separator first
    match ← peek with
    | some .flowListEnd => advance; return []
    | some .key         =>
      let n ← collection none .map (.map []) do
        advance
        let isStop := fun t => isFlowListStop t || (t matches some .value)
        let k ← nodeUnless isStop false false fuel
        let v ← flowValue isFlowListStop fuel
        return .map [(k, v)]
      return n :: (← flowItems false fuel)
    | _                 =>
      let n ← node false false fuel
      return n :: (← flowItems false fuel)

def flowEntries (first : Bool) : Nat → NodeReader (List (NodeId × NodeId))
  | 0        => refuse
  | fuel + 1 => do
    if let some .flowMapEnd ← peek then
      advance
      return []
    separator first
    match ← peek with
    | some .flowMapEnd => advance; return []
    | some .key        =>
      advance
      let isStop := fun t => isFlowMapStop t || (t matches some .value)
      let k ← nodeUnless isStop false false fuel
      let v ← flowValue isFlowMapStop fuel
      return (k, v) :: (← flowEntries false fuel)
    | _                =>
      let k ← node false false fuel
      let _ ← peek
      let v ← addEmpty
      return (k, v) :: (← flowEntries false fuel)

def flowValue (isStop : Option Token → Bool) : Nat → NodeReader NodeId
  | 0        => refuse
  | fuel + 1 => do
    match ← peek with
    | some .value => advance; nodeUnless isStop false false fuel
    | _           => addEmpty

end

def standardHandles : List (String × String) :=
  [("!", "!"), ("!!", Tag.space)]

def directives (versioned : Bool) (handles : List (String × String)) : Nat → NodeReader Unit
  | 0        => refuse
  | fuel + 1 => do
    match ← peek with
    | some (.versionDirective major)     =>
      if versioned || major ≠ 1 then throw .malformed
      advance
      directives true handles fuel
    | some (.tagDirective handle expansion) =>
      if (handles.lookup handle).isSome then throw .malformed
      advance
      directives versioned ((handle, expansion) :: handles) fuel
    | some .otherDirective               => advance; directives versioned handles fuel
    | some .documentStart                =>
      advance
      modify fun p => { p with handles := handles ++ standardHandles }
    | _                                  => refuse

def isDocumentStop : Option Token → Bool
  | none | some .documentStart | some .documentEnd => true
  | some (.versionDirective _) | some (.tagDirective _ _) | some .otherDirective => true
  | _ => false

def isDocumentStart : Token → Bool
  | .documentStart | .versionDirective _ | .tagDirective _ _ | .otherDirective => true
  | _ => false

def documentEnds : Nat → NodeReader Unit
  | 0        => return
  | fuel + 1 => do
    if let some .documentEnd ← peek then
      advance
      documentEnds fuel

def document? (fuel : Nat) : NodeReader (Option NodeId) := do
  match ← peek with
  | none   => return none
  | some t =>
    let root ←
      if isDocumentStart t then do
        directives false [] fuel
        nodeUnless isDocumentStop true false fuel
      else node true false fuel
    documentEnds fuel
    match ← peek with
    | none   => return some root
    | some _ =>
      directives false [] fuel
      refuse

end NodeReader

namespace Graph

-- The structure of the document that a text holds, with its root. Every step of a reader either takes a token
-- or is followed by one that does, and no character brings more than four tokens.
def ofSource? (s : Source) : Except Fault (Graph × Option NodeId) := do
  let fuel := 16 * s.chars.length + 32
  let (root, p) ← (NodeReader.document? fuel).run
    { lexer := .start s, graph := .empty, anchors := [], handles := NodeReader.standardHandles }
  return (p.graph, root)

end Graph
end Chatline.Yaml
