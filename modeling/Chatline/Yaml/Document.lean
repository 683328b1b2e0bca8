import Chatline.SetOrder
import Chatline.Yaml.Graph

namespace Chatline.Yaml

structure CollectionId where
  number : Nat
  deriving DecidableEq, Repr

-- A value of a document. Collections are referred to, so that they can be shared and contain themselves. An
-- undefined number that was spelled out in words is different from every other one, so it has its origin
-- with it.
inductive Value
  | single (d : Datum)
  | undefined (origin : NodeId)
  | collection (c : CollectionId)

namespace Value

def isKey : Value → Bool
  | collection _ => false
  | _            => true

def sameKey : Value → Value → Bool
  | single d,    single e    => d.sameKey e
  | undefined n, undefined m => n == m
  | _,           _           => false

def hash? : Value → Option Nat
  | single (.bool b)  => some (SetOrder.ofInt (if b then 1 else 0))
  | single (.int i)   => some (SetOrder.ofInt i)
  | single (.float f) => SetOrder.ofFloat? f
  | _                 => none

end Value

inductive Collection
  | list (items : List Value)
  | pairs (items : List (Value × Value))
  | set (members : List Value)
  | map (entries : List (Value × Value))

namespace Collection

def insertEntry (entries : List (Value × Value)) (key value : Value) : List (Value × Value) :=
  match entries with
  | []           => [(key, value)]
  | (k, v) :: es => if k.sameKey key then (k, value) :: es else (k, v) :: insertEntry es key value

def ofMembers (members : List Value) : Collection :=
  match members.mapM Value.hash? with
  | some hashes => set (SetOrder.listed (hashes.zip members))
  | none        => set members

end Collection

structure Document where
  collections : Array Collection
  root        : Value

namespace Document

def collection (doc : Document) (c : CollectionId) : Collection :=
  (doc.collections[c.number]?).getD (.list [])

def entries? (doc : Document) : Value → Option (List (Value × Value))
  | .collection c =>
    match doc.collection c with
    | .map es => some es
    | _       => none
  | _             => none

def entry? (entries : List (Value × Value)) (key : String) : Option Value :=
  (entries.find? fun (k, _) => k.sameKey (.single (.ofString key))).map (·.2)

def outline (doc : Document) : Value → Datum
  | .single d     => d
  | .undefined _  => .float .nan
  | .collection c =>
    match doc.collection c with
    | .list _ | .pairs _ => .list []
    | .set _             => .set []
    | .map _             => .map []

-- A value as a tree. Collections that are open, as they contain the value, are not entered again. Without
-- counting any of them twice, no more can be open than there are.
def tree (doc : Document) : Value → Datum :=
  go (doc.collections.size + 1) []
where
  go : Nat → List CollectionId → Value → Datum
    | _,        _,    .single d     => d
    | _,        _,    .undefined _  => .float .nan
    | 0,        _,    .collection _ => .enclosing false
    | fuel + 1, open_, .collection c =>
      let enter := go fuel (c :: open_)
      match doc.collection c with
      | .list items   =>
        if open_.contains c then .enclosing false else .list (items.map enter)
      | .pairs items  =>
        if open_.contains c then .enclosing false
        else .list (items.map fun (a, b) => .pair (enter a) (enter b))
      | .set members  => .set (members.map enter)
      | .map entries  =>
        if open_.contains c then .enclosing true
        else .map (entries.map fun (k, v) => (enter k, enter v))

end Document
end Chatline.Yaml
