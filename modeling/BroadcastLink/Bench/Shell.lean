import BroadcastLink.Bench.Shell.Run

/-!
# A small shell on the bench

Enough of a command language to say how a launch command ends.
-/

namespace BroadcastLink.Bench.Shell

/-- More steps than a command line takes that comes to its end in good time. -/
def manySteps : Nat := 100000

/-- How a command line ends. -/
def exitStatus (line : String) : ExitStatus :=
  match ((runLine manySteps line).run).run {} with
  | (.error (.ended status), _) => status
  | (_, after) => .code after.status

end BroadcastLink.Bench.Shell
