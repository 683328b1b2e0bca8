import Chatline.Yaml.Plain

namespace Chatline.Yaml

structure NodeId where
  number : Nat
  deriving DecidableEq, Repr

inductive NodeBody
  | scalar (text : List Text.CodePoint)
  | list (items : List NodeId)
  | map (entries : List (NodeId × NodeId))

structure Node where
  tag  : Tag
  body : NodeBody

structure Graph where
  nodes : Array Node

namespace Graph

def empty : Graph :=
  ⟨#[]⟩

def blank : Node :=
  { tag := .null, body := .scalar [] }

def node (g : Graph) (n : NodeId) : Node :=
  (g.nodes[n.number]?).getD blank

def add (g : Graph) (x : Node) : NodeId × Graph :=
  (⟨g.nodes.size⟩, ⟨g.nodes.push x⟩)

def set (g : Graph) (n : NodeId) (x : Node) : Graph :=
  ⟨g.nodes.setIfInBounds n.number x⟩

def setTag (g : Graph) (n : NodeId) (tag : Tag) : Graph :=
  g.set n { g.node n with tag }

def setBody (g : Graph) (n : NodeId) (body : NodeBody) : Graph :=
  g.set n { g.node n with body }

def entryCount (g : Graph) : Nat :=
  g.nodes.foldl (fun count x => match x.body with | .map es => count + es.length | _ => count) 0

def hasTag (g : Graph) (n : NodeId) (tag : Tag) : Bool :=
  (g.node n).tag == tag

def scalarText (g : Graph) (n : NodeId) : Except Fault (List Text.CodePoint) :=
  go (g.nodes.size + 1) n
where
  go : Nat → NodeId → Except Fault (List Text.CodePoint)
    | 0,        _ => .error (.unusable .tooDeep)
    | fuel + 1, n =>
      match (g.node n).body with
      | .scalar s => .ok s
      | .list _   => .error .malformed
      | .map es   =>
        match es.find? fun (k, _) => g.hasTag k .value with
        | some (_, v) => go fuel v
        | none        => .error .malformed

def splitMerge (g : Graph) (es : List (NodeId × NodeId)) :
    Option (List (NodeId × NodeId) × NodeId × List (NodeId × NodeId)) :=
  let before := es.takeWhile fun (k, _) => !g.hasTag k .merge
  match es.drop before.length with
  | (_, v) :: behind => some (before, v, behind)
  | []               => none

abbrev Change (α : Type) := StateT Graph (Except Fault) α

def entries (n : NodeId) : Change (List (NodeId × NodeId)) := do
  match ((← get).node n).body with
  | .map es => return es
  | _       => throw .malformed

def settleKeys (es : List (NodeId × NodeId)) : Change Unit :=
  for (k, _) in es do
    modify fun g => if g.hasTag k .value then g.setTag k .text else g

mutual

-- Puts the entries that a map takes over from others in front of its own. `merged` holds those that have been
-- found so far. Every entry that merges is dropped before it is followed, so that a map which merges itself
-- takes over what it has besides.
def flattenFrom (n : NodeId) (merged : List (NodeId × NodeId)) : Nat → Change Unit
  | 0        => throw .malformed
  | fuel + 1 => do
    let es ← entries n
    match (← get).splitMerge es with
    | none                   =>
      settleKeys es
      modify fun g => g.setBody n (.map (merged ++ es))
    | some (before, v, behind) =>
      modify fun g => g.setBody n (.map (before ++ behind))
      let more ← takeOver v fuel
      flattenFrom n (merged ++ more) fuel

def takeOver (v : NodeId) : Nat → Change (List (NodeId × NodeId))
  | 0        => throw .malformed
  | fuel + 1 => do
    match ((← get).node v).body with
    | .map _      =>
      flattenFrom v [] fuel
      entries v
    | .list items =>
      let parts ← items.mapM fun item => do
        let _ ← entries item
        flattenFrom item [] fuel
        entries item
      return parts.reverse.flatten
    | .scalar _   => throw .malformed

end

def flatten (n : NodeId) : Change Unit := do
  flattenFrom n [] (2 * (← get).entryCount + 4)

end Graph
end Chatline.Yaml
