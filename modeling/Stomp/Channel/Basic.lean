import Stomp.Scale
import Stomp.Text.Utf8

/-!
# Channels

A channel carries bytes both ways and tells the time. Its operations may fail with a text of their
own; what the channel did before stays done.
-/

namespace Stomp

inductive Operation where
  | read
  | canRead
  | write
  | sendAlive
  | close
deriving DecidableEq, Repr

namespace Operation

def all : List Operation := [.read, .canRead, .write, .sendAlive, .close]

def name : Operation → String
  | .read => "read"
  | .canRead => "canRead"
  | .write => "write"
  | .sendAlive => "sendAlive"
  | .close => "close"

end Operation

class Channel (κ : Type) (R : outParam Type) where
  label : κ → String
  isConnected : κ → Bool
  /-- Seconds and microseconds. -/
  readTimeout : κ → Quantity R × Quantity R
  now : κ → R
  /-- At most this many bytes that are there already, or none. -/
  read : Nat → EStateM String κ Bytes
  /-- Waits for data, at most for a time if one is given; true if there is data. -/
  canRead : Option (Quantity R) → EStateM String κ Bool
  write : Bytes → EStateM String κ Unit
  /-- Writes one heart-beat; true if that worked. -/
  sendAlive : Option (Quantity R) → EStateM String κ Bool
  close : EStateM String κ Unit
  /-- A bound for the bytes and the reads still to come. -/
  patience : κ → Nat

end Stomp
