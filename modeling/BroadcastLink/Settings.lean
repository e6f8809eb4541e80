import BroadcastLink.Duration

/-!
# Settings

The durations and limits of each part of a link, with their defaults. A setter keeps what its part
cannot work without: room to read into, and room for one message.
-/

namespace BroadcastLink

/-- How a command pool behaves. -/
structure PoolSettings where
  /-- How long a caller waits for a session. -/
  acquireTimeout : Duration := .ofSecs 5
  /-- How long a session waits for one response. -/
  responseTimeout : Duration := .ofSecs 5
  /-- How long the liveness check of an idle session may take. -/
  validationTimeout : Duration := .ofSecs 1
  /-- How long connecting may take. -/
  connectTimeout : Duration := .ofSecs 5
  /-- How long connecting pauses after a failure. -/
  createRetryDelay : Duration := .ofSecs 2
  /-- How long a session above the minimum may stay idle. -/
  softIdleTimeout : Duration := .ofSecs 30
  /-- How often idle sessions are looked through; zero for never. -/
  evictionInterval : Duration := .ofSecs 1
  /-- How long draining waits for lent sessions. -/
  drainTimeout : Duration := .ofSecs 10
  /-- How many callers may wait; zero for any number. -/
  maxWaiting : Nat := 0
  deriving DecidableEq, Repr

/-- How a notify channel behaves. -/
structure ChannelSettings where
  /-- How long to rest between two connections. -/
  reconnectDelay : Duration := .ofSecs 10
  /-- How long connecting may take. -/
  connectTimeout : Duration := .ofSecs 5
  /-- How long one write may take. -/
  writeTimeout : Duration := .ofSecs 1
  /-- The most bytes of one read. -/
  readBufferSize : Nat := 8192
  deriving DecidableEq, Repr

/-- The least room to read into. -/
def minReadBufferSize : Nat := 64

/-- Read at most `size` bytes at once. -/
def ChannelSettings.withReadBufferSize (s : ChannelSettings) (size : Nat) : ChannelSettings :=
  { s with readBufferSize := max size minReadBufferSize }

/-- How a hub behaves. -/
structure HubSettings where
  /-- How many messages of a topic are kept for slow subscribers. -/
  channelCapacity : Nat := 256
  /-- How often topics without subscribers are swept away. -/
  cleanupInterval : Duration := .ofSecs 30
  deriving DecidableEq, Repr

/-- Keep `capacity` messages of each topic, at least one. -/
def HubSettings.withChannelCapacity (s : HubSettings) (capacity : Nat) : HubSettings :=
  { s with channelCapacity := max capacity 1 }

/-- How a registry behaves, and the pools and channels it makes. -/
structure RegistrySettings where
  pool : PoolSettings := {}
  channel : ChannelSettings := {}
  /-- How long a local studio may take until it listens. -/
  launchTimeout : Duration := .ofSecs 15
  deriving DecidableEq, Repr

end BroadcastLink
