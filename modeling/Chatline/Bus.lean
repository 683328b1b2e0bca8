namespace Chatline

inductive Priority
  | lowest
  | low
  | normal
  | high
  | highest
  | monitor
  deriving DecidableEq, Repr

namespace Priority

def rank : Priority → Nat
  | lowest  => 0
  | low     => 1
  | normal  => 2
  | high    => 3
  | highest => 4
  | monitor => 5

def title : Priority → String
  | lowest  => "LOWEST"
  | low     => "LOW"
  | normal  => "NORMAL"
  | high    => "HIGH"
  | highest => "HIGHEST"
  | monitor => "MONITOR"

def all : List Priority :=
  [lowest, low, normal, high, highest, monitor]

def ofTitle? (s : String) : Option Priority :=
  all.find? (·.title = s)

end Priority

structure Envelope where
  topic    : String
  source   : String
  sequence : Nat
  deriving DecidableEq, Repr

namespace Envelope

def describe (topic : String) (origin : Option (String × Int)) : String :=
  match origin with
  | none                    => s!"BusEvent(type='{topic}')"
  | some (source, sequence) => s!"BusEvent(type='{topic}', source='{source}', seq={sequence})"

def text (e : Envelope) : String :=
  describe e.topic (some (e.source, e.sequence))

end Envelope

structure Subscription (ω : Type) where
  serial   : Nat
  topic    : String
  priority : Priority
  observer : ω

-- A bus without the observers' behaviour: who listens to what, and which events there have been.
-- Subscriptions are in the order of delivery.
structure Bus (ω : Type) where
  subscriptions : List (Subscription ω)
  subscribed    : Nat
  sequence      : Nat
  history       : List Envelope

namespace Bus

variable {ω : Type}

def capacity : Nat := 1000

def fresh : Bus ω :=
  { subscriptions := [], subscribed := 0, sequence := 0, history := [] }

instance : Inhabited (Bus ω) :=
  ⟨fresh⟩

def insert (s : Subscription ω) : List (Subscription ω) → List (Subscription ω)
  | []      => [s]
  | t :: ts => if t.priority.rank ≤ s.priority.rank then t :: insert s ts else s :: t :: ts

def subscribe (b : Bus ω) (topic : String) (priority : Priority) (observer : ω) : Bus ω :=
  { b with
    subscriptions := insert { serial := b.subscribed, topic, priority, observer } b.subscriptions
    subscribed    := b.subscribed + 1 }

def unsubscribe (b : Bus ω) (serial : Nat) : Bus ω :=
  { b with subscriptions := b.subscriptions.filter (·.serial ≠ serial) }

def live (b : Bus ω) (topic : String) : List (Subscription ω) :=
  b.subscriptions.filter (·.topic = topic)

def isLive (b : Bus ω) (serial : Nat) : Bool :=
  b.subscriptions.any (·.serial = serial)

def count (b : Bus ω) (topic : String) : Nat :=
  (b.live topic).length

def number (b : Bus ω) (topic source : String) : Envelope × Bus ω :=
  let e : Envelope := { topic, source, sequence := b.sequence + 1 }
  let history := b.history ++ [e]
  (e, { b with sequence := b.sequence + 1, history := history.drop (history.length - capacity) })

-- The history, oldest event first. A positive limit keeps as many of the newest events. A negative one
-- leaves out as many of the oldest, and zero leaves out none.
def recent (b : Bus ω) : Option Int → List Envelope
  | none       => b.history
  | some limit =>
    if limit > 0 then b.history.drop (b.history.length - limit.toNat)
    else b.history.drop limit.natAbs

end Bus
end Chatline
