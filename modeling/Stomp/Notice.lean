import Stomp.Error.Message

/-!
# Notices

What is worth telling about a running connection, with level and wording.
-/

namespace Stomp

inductive Level where
  | debug
  | info
  | warning
  | error
deriving DecidableEq, Repr

namespace Level

def name : Level → String
  | .debug => "DEBUG"
  | .info => "INFO"
  | .warning => "WARNING"
  | .error => "ERROR"

end Level

inductive Notice (R : Type) where
  | ignoredLength (value? : Option Bytes)
  | ignoredBeats (value : HeaderValue)
  | beatsEnabled (observer : String) (interval : R)
  | sendingBeat
  | beatNotSent (fault : ConnectionFault)
  | serverSilent (interval : R)
  | sending (frame : Frame)
  | received (frame : Frame)
  | dropped (bytes : Nat)
  | dialectChosen (dialect : Dialect) (version : Version) (server : Option HeaderValue)
  | established (label : String) (version : Version) (session : Option HeaderValue)
  | notDisconnected (error : Error R)
  | disconnected (label : String)
  | transition (old new : Session.Mode)

namespace Notice

variable {R : Type}

def level : Notice R → Level
  | .ignoredLength _ | .ignoredBeats _ | .serverSilent _ | .dropped _ | .notDisconnected _ =>
    .warning
  | .dialectChosen _ _ _ | .established _ _ _ | .disconnected _ => .info
  | .beatNotSent _ => .error
  | _ => .debug

def message : Notice Float → String
  | .ignoredLength value? =>
    let value := match value? with
      | some bs => Quoted.bytes bs
      | none => "None"
    s!"Ignoring invalid content-length header [{value}]"
  | .ignoredBeats value => s!"Ignoring invalid heart-beat header [{value.shown}]"
  | .beatsEnabled observer interval => s!"{observer} enabled [interval={fixedText 3 interval}s]"
  | .sendingBeat => "Sending heart-beat"
  | .beatNotSent fault => s!"Could not send heart-beat [{fault.message}]"
  | .serverSilent interval => s!"Broker heart-beat missing for more than {fixedText 3 interval}s"
  | .sending f => s!"Sending {f.info}"
  | .received f => s!"Received {f.info}"
  | .dropped n => s!"Dropping {n} unparsed bytes"
  | .dialectChosen d v server =>
    s!"Using {d.name} dialect [version={v.text}, server={Command.shownServer server}]"
  | .established label v session =>
    s!"STOMP session established with broker {label} " ++
      s!"[version={v.text}, session={Command.shownServer session}]"
  | .notDisconnected e => s!"Could not disconnect cleanly [{e.message}]"
  | .disconnected label => s!"Disconnected from {label}"
  | .transition old new => s!"{old.name} -> {new.name}"

end Notice

end Stomp
