import Stomp.Command.Fault
import Stomp.Frame.Wire
import Stomp.Parser
import Stomp.Scale
import Stomp.Session.Mode

/-!
# Errors

Everything that can go wrong, by cause.
-/

namespace Stomp

/-- What goes wrong on the channel; `reason` is the channel's own text. -/
inductive ConnectionFault where
  | notConnected
  | alreadyConnected (label : String)
  | closed (reason : String)
  | notWritten (reason : String)
  | beatNotWritten (reason? : Option String)
  | notClosed (reason : String)
deriving DecidableEq, Repr

inductive Error (R : Type) where
  | malformed (fault : Malformed)
  | mapBody (fault : MapFault)
  | unwritable (cause : Unwritable)
  | command (fault : Command.Fault)
  | broker (frame : Frame)
  | illegal (mode : Session.Mode) (operation : String)
  | draining (mode : Session.Mode) (operation : String)
  | noSubscription (mode : Session.Mode) (id : Given)
  | connection (fault : ConnectionFault)
  | beatFailed (fault : ConnectionFault)
  | serverSilent (interval : R)
  | intervalTooShort (interval timeout : R)
  | connectTimeout (timeout : Quantity R)
  | missingReceipt (id : String)
  | unimplemented
  | beyondScale
  | intervalUnknown
  | stalled

namespace Error

variable {R : Type}

/-- Whether the cause lies in the protocol, the connection or the way it is used, and not in a
value that is out of range or of the wrong kind. -/
def isOperational : Error R → Bool
  | .malformed (.map (.json (.tooManyDigits _))) => false
  | .mapBody _ => false
  | .unwritable _ => false
  | .command (.unknownMinimum _) => false
  | .command (.requeueUnsupported _ _) => false
  | .command (.invalidInteger _) => false
  | .command (.integerTooLong _) => false
  | .command .integerWithoutText => false
  | .command .boundlessInterval => false
  | .command .undefinedInterval => false
  | .command .bannerWithoutText => false
  | .unimplemented => false
  | .beyondScale => false
  | .intervalUnknown => false
  | .stalled => false
  | _ => true

end Error

end Stomp
