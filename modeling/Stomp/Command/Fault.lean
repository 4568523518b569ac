import Stomp.Dialect
import Stomp.Frame.Display
import Stomp.Version

/-!
# Why a frame cannot be built or understood

The causes for which a command is refused before anything is sent, and those for which the answer
of a broker is not accepted, with their wording.
-/

namespace Stomp.Command

inductive Fault where
  | unsupportedVersion (given : Given)
  | unknownMinimum (given : Given)
  | invalidAck (ack : Given) (version : Version)
  | nackUnsupported (version : Version)
  | incompatibleVersion (offered : List Version) (headers : Headers)
  | missingHeader (command : String) (header : String) (headers : Headers)
  | unexpectedFrame (expected : String) (frame : Frame)
  | clientIdNeeded (server : Option HeaderValue)
  | requeueUnsupported (dialect : Dialect) (server : Option HeaderValue)
  | invalidInteger (text : String)
  | integerTooLong (digits : Nat)
  | integerWithoutText
  | boundlessInterval
  | undefinedInterval
  | bannerWithoutText

def shownServer (server : Option HeaderValue) : String := (Offer.ofHeader server).shown

/-- An integer literal is shown up to its first 200 characters. -/
def invalidIntegerMessage (text : String) : String :=
  "invalid literal for int() with base 10: " ++
    String.ofList ((Quoted.text text).toList.take 200)

def integerTooLongMessage (digits : Nat) : String :=
  s!"Exceeds the limit ({Numeral.digitLimit} digits) for integer string conversion: " ++
    s!"value has {digits} digits; use sys.set_int_max_str_digits() to increase the limit"

def integerWithoutTextMessage : String :=
  s!"Exceeds the limit ({Numeral.digitLimit} digits) for integer string conversion; " ++
    "use sys.set_int_max_str_digits() to increase the limit"

def unexpectedFrameMessage (expected : String) (frame : Frame) : String :=
  s!"Unexpected response received. {expected} [{frame.info}]"

namespace Fault

def message : Fault → String
  | .unsupportedVersion g => s!"Version is not supported [{g.shown}]"
  | .unknownMinimum g => s!"{g.quoted} is not in list"
  | .invalidAck ack v =>
    "\"" ++ ack.shown ++ "\" is not a valid ack value for STOMP " ++ v.text ++ " [valid=" ++
      ", ".intercalate v.ackModes ++ "]"
  | .nackUnsupported v => s!"{Verb.nack} not supported (version {v.text})"
  | .incompatibleVersion offered headers =>
    "Server version incompatible with accepted versions " ++
      Quoted.list (offered.map fun v => Quoted.text v.text) ++ " [headers=" ++ headers.shown ++ "]"
  | .missingHeader command header headers =>
    s!"Invalid {command} frame ({header} header mandatory) [headers={headers.shown}]"
  | .unexpectedFrame expected frame => unexpectedFrameMessage expected frame
  | .clientIdNeeded server =>
    s!"Durable subscriptions need a client id [server={shownServer server}]"
  | .requeueUnsupported dialect server =>
    s!"requeue header not supported by {dialect.name} broker [server={shownServer server}]"
  | .invalidInteger text => invalidIntegerMessage text
  | .integerTooLong digits => integerTooLongMessage digits
  | .integerWithoutText => integerWithoutTextMessage
  | .boundlessInterval => "cannot convert float infinity to integer"
  | .undefinedInterval => "cannot convert float NaN to integer"
  | .bannerWithoutText => ""

end Fault

end Stomp.Command
