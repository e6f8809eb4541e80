import BroadcastLink.Json.Quoted
import BroadcastLink.Studio.Fleet

/-!
# Writing a configuration

The fields of a studio in their order, the launch command only if there is one.
-/

namespace BroadcastLink

/-- The text of a truth value. -/
def boolText (b : Bool) : String := if b then "true" else "false"

/-- The fields of a studio with their values as text. -/
def Studio.fields (s : Studio) : List (String × String) :=
  let launch := match s.launchCommand with
    | some command => [("launchCommand", Json.quote command)]
    | none => []
  [("name", Json.quote s.name), ("host", Json.quote s.host), ("port", Decimal.natText s.port.toNat),
    ("minPoolSize", Decimal.natText s.minPool.toNat),
    ("maxPoolSize", Decimal.natText s.maxPool.toNat)]
    ++ launch ++ [("autoStart", boolText s.autoStart)]

/-- A studio as a document. -/
def Studio.json (s : Studio) : String := Json.object s.fields

/-- A configuration as a document. -/
def Fleet.json (f : Fleet) : String :=
  Json.object [("studios", Json.object (f.entries.map fun e => (e.1, e.2.json)))]

end BroadcastLink
