import Stomp.Decimal.Fixed
import Stomp.Decimal.Shortest
import Stomp.Error.Basic

/-!
# The wording of errors
-/

namespace Stomp

namespace Utf8

def Reason.message : Reason → String
  | .badStart => "invalid start byte"
  | .badContinuation => "invalid continuation byte"
  | .truncated => "unexpected end of data"

def Fault.message (f : Fault) : String :=
  let place := match f.bytes with
    | [b] => s!"byte 0x{String.ofList (Hex.digits 2 b.toNat)} in position {f.position}"
    | bs => s!"bytes in position {f.position}-{f.position + bs.length - 1}"
  "'utf-8' codec can't decode " ++ place ++ ": " ++ f.reason.message

end Utf8

def Json.Fault.message : Json.Fault → String
  | .malformed cause place stop => Json.malformedMessage cause place stop
  | .tooManyDigits digits => Command.integerTooLongMessage digits

def MapFault.message : MapFault → String
  | .encoding f => f.message
  | .json f => f.message

def Malformed.message : Malformed → String
  | .headers f => s!"Invalid header encoding [{f.message}]"
  | .map (.json (.tooManyDigits digits)) => Command.integerTooLongMessage digits
  | .map f => s!"Invalid map body [{f.message}]"

def ConnectionFault.message : ConnectionFault → String
  | .notConnected => "Not connected"
  | .alreadyConnected label => s!"Already connected to {label}"
  | .closed reason => s!"Connection closed [{reason}]"
  | .notWritten reason => s!"Could not send to connection [{reason}]"
  | .beatNotWritten none => "Could not send heart-beat"
  | .beatNotWritten (some reason) => s!"Could not send heart-beat [{reason}]"
  | .notClosed reason => s!"Could not close connection cleanly [{reason}]"

def Quantity.shown : Quantity Float → String
  | .whole n => String.ofList (Numeral.write n)
  | .real x => shortestText x

/-- What a broker says in an ERROR frame: its message header, or else its body. -/
def brokerText (f : Frame) : String :=
  match HeaderValue.nonempty? (f.get? Name.message) with
  | some v => v.shown
  | none => String.ofList (Utf8.decodeLossy f.body)

def Unwritable.message : Unwritable → String
  | .real x => s!"Out of range float values are not JSON compliant: {shortestText x}"
  | .number _ => ""

private def notAllowed (mode : Session.Mode) (operation : String) : String :=
  "\"" ++ operation ++ "\" is not allowed in \"" ++ mode.name ++ "\"."

def Error.message : Error Float → String
  | .malformed f => f.message
  | .mapBody f => f.message
  | .unwritable cause => cause.message
  | .command f => f.message
  | .broker f => "Error \"" ++ brokerText f ++ "\""
  | .illegal mode operation => notAllowed mode operation
  | .draining mode operation =>
    notAllowed mode operation ++ " Please make sure that there is no draining message left. " ++
      "Call read until it returns None."
  | .noSubscription mode id =>
    notAllowed mode "unsubscribe" ++ s!" No such subscription [{id.shown}]"
  | .connection f => f.message
  | .beatFailed f => s!"Could not send heart-beat to server [{f.message}]"
  | .serverSilent interval =>
    s!"The server failed to send expected heart-beats [interval={fixedText 3 interval}s]"
  | .intervalTooShort interval timeout =>
    "Client heart-beat interval is lower than the read timeout of the connection " ++
      s!"[{shortestText interval}ms < {shortestText timeout}ms]"
  | .connectTimeout timeout => s!"STOMP session connect failed [timeout={timeout.shown}]"
  | .missingReceipt id =>
    "Missing receipt frame for id \"" ++ id ++
      "\". Maybe the broker is under heavy load. Try to increase timeouts."
  | .unimplemented => ""
  | .beyondScale => "int too large to convert to float"
  | .intervalUnknown => ""
  | .stalled => "the channel keeps bringing data without end"

end Stomp
