import VoyaVPN.ListMove
import VoyaVPN.RoutingManager

/-! A move of a routing rule takes it out of the list and puts it back at the place asked for. -/
namespace RuleMoves

open Entities VoyaStore ActionRules ManagerSession RoutingManager ListMove
open ProfileManager (MoveAction)

/-- The place that a move asks for among the other elements. -/
def requestedPlace (index count position : Nat) : MoveAction → Nat
  | .top => 0
  | .up => index - 1
  | .down => min (index + 1) (count - 1)
  | .bottom => count - 1
  | .position => placeBefore index count position

section Normalization

variable {ε : Type}

end Normalization

section Storing

variable {store : Store} {item : RoutingItem}

end Storing

section Moving

end Moving

end RuleMoves
