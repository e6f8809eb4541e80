/-!
# What a configuration changed

The outcome of bringing the links in line with a configuration, by the names of the studios.
-/

namespace BroadcastLink

/-- The studios a configuration touched, by what became of them. -/
structure Summary where
  /-- New and live. -/
  added : List String := []
  /-- Gone from the configuration. -/
  removed : List String := []
  /-- Built anew at another host or port. -/
  recreated : List String := []
  /-- Given other pool bounds. -/
  resized : List String := []
  /-- Left as they were. -/
  unchanged : List String := []
  /-- New, but their launch failed. -/
  launchFailed : List String := []
  deriving DecidableEq, Repr

/-- Was no link made, taken down or resized? -/
def Summary.isNoop (s : Summary) : Bool :=
  s.added.isEmpty && s.removed.isEmpty && s.recreated.isEmpty && s.resized.isEmpty
    && s.launchFailed.isEmpty

end BroadcastLink
