/-!
# Numbers that name things

Connections, pools, channels and calls are told apart by numbers.
-/

namespace BroadcastLink

/-- The number of a connection. -/
abbrev LineId := Nat

/-- The number of a pool. -/
abbrev PoolId := Nat

/-- The number of a channel. -/
abbrev ChannelId := Nat

/-- The number of a call: one use of the link's interface, from its start to its answer. -/
abbrev CallId := Nat

end BroadcastLink
