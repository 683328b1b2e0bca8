namespace Chatline

-- The parts of a host refer to each other by numbers, which are never used twice.
structure BusId where
  number : Nat
  deriving DecidableEq, Repr, Inhabited

structure DirectoryId where
  number : Nat
  deriving DecidableEq, Repr, Inhabited

structure ProviderId where
  number : Nat
  deriving DecidableEq, Repr, Inhabited

structure PluginId where
  number : Nat
  deriving DecidableEq, Repr, Inhabited

structure SubscriptionId where
  bus    : BusId
  serial : Nat
  deriving DecidableEq, Repr, Inhabited

end Chatline
