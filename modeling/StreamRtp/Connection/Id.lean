/-!
# Connection identities

A connection is named by a 64-bit number. Streams of the operating system use their descriptor, a
signed 32-bit number that is extended by its sign, so two streams that are open at the same time
never share an identity.
-/

namespace StreamRtp

/-- The identity of a connection: registry key, filter key and packet source. -/
structure ConnectionId where
  /-- The identity as a number. -/
  value : UInt64
  deriving DecidableEq, Repr

namespace ConnectionId

/-- The identity of a stream with the given descriptor. -/
def ofDescriptor (descriptor : Int32) : ConnectionId :=
  ⟨descriptor.toInt64.toUInt64⟩

/-- How a connection is shown in texts. -/
def text (id : ConnectionId) : String :=
  "conn#" ++ toString id.value.toNat

/-- The given identities in ascending order, each once. -/
def ascending (ids : List ConnectionId) : List ConnectionId :=
  ids.foldr insertOnce []
where
  /-- Put an identity at its place in an ascending list, unless it is there already. -/
  insertOnce (id : ConnectionId) : List ConnectionId → List ConnectionId
    | [] => [id]
    | first :: rest =>
      if id.value < first.value then id :: first :: rest
      else if id = first then first :: rest
      else first :: insertOnce id rest

end ConnectionId

end StreamRtp
