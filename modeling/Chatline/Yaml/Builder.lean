import Chatline.Table
import Chatline.Yaml.Document
import Chatline.Yaml.Meaning
import Chatline.Yaml.Node

namespace Chatline.Yaml

-- The work of finding the values of a document. Collections are opened when they come up, and `waiting` are
-- those that have not been filled yet, in the order in which they came up.
structure Work where
  graph       : Graph
  values      : Table NodeId Value
  collections : Array Collection
  waiting     : List (NodeId × CollectionId)

abbrev Builder := StateT Work (Except Fault)

namespace Builder

def fail {α : Type} (e : Failure) : Builder α :=
  throw (.unusable e)

def attempt {α : Type} (r : Except Failure α) : Builder α :=
  match r with
  | .ok a    => return a
  | .error e => fail e

def onGraph {α : Type} (change : Graph.Change α) : Builder α := do
  let (a, graph) ← change.run (← get).graph
  modify fun w => { w with graph }
  return a

def node (n : NodeId) : Builder Node :=
  return (← get).graph.node n

def text (n : NodeId) : Builder (List Text.CodePoint) := do
  match (← get).graph.scalarText n with
  | .ok s    => return s
  | .error e => throw e

def openCollection (n : NodeId) (blank : Collection) : Builder Value := do
  let c : CollectionId := ⟨(← get).collections.size⟩
  modify fun w => { w with collections := w.collections.push blank, waiting := w.waiting ++ [(n, c)] }
  return .collection c

def float (n : NodeId) : Builder Value := do
  let s ← text n
  match ← attempt (Meaning.float s) with
  | .nan => return if Meaning.isCommonUndefined s then .single (.float .nan) else .undefined n
  | f    => return .single (.float f)

def timestamp (n : NodeId) : Builder Value := do
  let s ← text n
  match (← node n).body with
  | .scalar _ => return .single (← attempt (Meaning.timestamp s))
  | _         => fail .timestampMap

def binary (n : NodeId) : Builder Value := do
  match Meaning.binary (← text n) with
  | .ok d    => return .single d
  | .error e => throw e

def build (n : NodeId) : Builder Value := do
  match (← node n).tag with
  | .list       => openCollection n (.list [])
  | .map        => openCollection n (.map [])
  | .set        => openCollection n (.set [])
  | .orderedMap => openCollection n (.pairs [])
  | .pairs      => openCollection n (.pairs [])
  | .null       => do let _ ← text n; return .single .null
  | .bool       => return .single (.bool (← attempt (Meaning.truth (← text n))))
  | .int        => return .single (.int (← attempt (Meaning.integer (← text n))))
  | .float      => float n
  | .timestamp  => timestamp n
  | .binary     => binary n
  | .text       => return .single (.text (← text n))
  | _           => throw .malformed

def value (n : NodeId) : Builder Value := do
  if let some v := (← get).values.get? n then return v
  let v ← build n
  modify fun w => { w with values := w.values.set n v }
  return v

def fillList (n : NodeId) : Builder Collection := do
  match (← node n).body with
  | .list items => return .list (← items.mapM value)
  | _           => throw .malformed

def mapEntries (n : NodeId) : Builder (List (Value × Value)) := do
  onGraph (Graph.flatten n)
  let es ← onGraph (Graph.entries n)
  es.foldlM (fun entries (k, v) => do
    let k ← value k
    if !k.isKey then throw .malformed
    return Collection.insertEntry entries k (← value v)) []

def fillPairs (n : NodeId) : Builder Collection := do
  match (← node n).body with
  | .list items =>
    let pairs ← items.mapM fun item => do
      match (← node item).body with
      | .map [(k, v)] => return (← value k, ← value v)
      | _             => throw .malformed
    return .pairs pairs
  | _           => throw .malformed

def fill (n : NodeId) : Builder Collection := do
  match (← node n).tag with
  | .list => fillList n
  | .map  => return .map (← mapEntries n)
  | .set  => return .ofMembers ((← mapEntries n).map (·.1))
  | _     => fillPairs n

def fillAll : Nat → Builder Unit
  | 0        => return
  | fuel + 1 => do
    match (← get).waiting with
    | []              => return
    | (n, c) :: waiting =>
      modify fun w => { w with waiting }
      let filled ← fill n
      modify fun w => { w with collections := w.collections.setIfInBounds c.number filled }
      fillAll fuel

def document (root : NodeId) : Builder Document := do
  let v ← value root
  fillAll ((← get).graph.nodes.size + 1)
  return { collections := (← get).collections, root := v }

end Builder

def read (r : Text.Reading) : Except Fault Document := do
  match ← Graph.ofSource? (← Source.ofReading r) with
  | (_, none)         => return { collections := #[], root := .single .null }
  | (graph, some root) =>
    (·.1) <$> (Builder.document root).run { graph, values := .empty, collections := #[], waiting := [] }

end Chatline.Yaml
