import Cove.Protocol.Identity

/-!
The ordered events of a run and the values they carry.
-/

namespace Cove.Protocol.Terminal
open Protocol.Identity

structure Geometry where
  cols : Nat
  rows : Nat
  deriving DecidableEq

structure Appearance where
  foreground : Option String
  background : Option String
  palette : List (Nat × String)
  deriving DecidableEq

structure ControlHolder where
  connection : ConnectionRef
  subscriptionId : String
  viewId : String
  deriving DecidableEq

inductive RunEvent where
  | output (run : RunRef) (seq : Nat)
  | resize (run : RunRef) (seq : Nat) (geometry : Geometry) (requiresBaseline : Bool)
  | control (run : RunRef) (seq : Nat) (epoch : Nat) (holder : Option ControlHolder) (geometry : Geometry)
  | appearance (run : RunRef) (seq : Nat) (appearance : Appearance)
  | exit (run : RunRef) (seq : Nat) (exitCode : Option Int) (signal : Option String)
  deriving DecidableEq

def RunEvent.seq : RunEvent → Nat
  | .output _ seq => seq
  | .resize _ seq _ _ => seq
  | .control _ seq _ _ _ => seq
  | .appearance _ seq _ => seq
  | .exit _ seq _ _ => seq

def RunEvent.isExit : RunEvent → Bool
  | .exit .. => true
  | _ => false

structure Fact where
  event : RunEvent
  bytes : List UInt8
  deriving DecidableEq

def Fact.seq (fact : Fact) : Nat := fact.event.seq

end Cove.Protocol.Terminal
