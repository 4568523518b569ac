import Stomp.Command.Basic
import Stomp.Scale

/-!
# The configuration of a client
-/

namespace Stomp

structure Config (R : Type) where
  login : Offer := .text ""
  passcode : Offer := .text ""
  versions : List Offer := Version.all.map fun v => .text v.text
  host : Offer := .absent
  clientId : Offer := .absent
  /-- The intervals, in milliseconds, in which the client sends and receives heart-beats. -/
  beats : List BeatOffer := [.whole 0, .whole 0]
  /-- How long to wait for the CONNECTED frame, in seconds. -/
  connectTimeout : Quantity R
  /-- How long to wait for a RECEIPT frame, in seconds. -/
  receiptTimeout : Quantity R
  /-- Whether frames are sent with a receipt unless asked otherwise. -/
  sync : Bool := true

/-- One second for the CONNECTED frame, and two for a RECEIPT frame. -/
def Config.standard {R : Type} [Scale R] : Config R :=
  { connectTimeout := .real (Scale.decimal 10 1), receiptTimeout := .real (Scale.decimal 20 1) }

end Stomp
