import Stomp.Proofs.Client.Routine
import Stomp.Proofs.Client.Writing
import Stomp.Proofs.Transport.Usage

/-!
# What a client does with its channel

What a transport keeps when it reads and writes, a client keeps when it waits and sends
(`Client.Private`). In particular no wait and no send closes the channel, and one waits for data
only while the deadline is still to come (`proceeds_sendFrame`, `proceeds_awaitConnected`).
-/

namespace Stomp.Client

open Stomp.Action

variable {κ R : Type}

/-- If nobody watches, nobody does later, and the relation holds between the links. -/
def Private (q : Link κ R → Link κ R → Prop) (c d : Client κ R) : Prop :=
  Transport.Private q c.transport d.transport

variable {q : Link κ R → Link κ R → Prop}

instance [Progress q] : Bookkeeping (Private q) where
  refl c := Progress.refl (r := Transport.Private q) c.transport
  trans hcd hde := Progress.trans (r := Transport.Private q) hcd hde
  onIds c := Progress.refl (r := Transport.Private q) c.transport
  onQueue c _ := Progress.refl (r := Transport.Private q) c.transport

variable [Scale R] [Channel κ R]

theorem keeps_receive [Link.Used q] :
    Keeps (Private q) (onTransport Transport.readFrame : ClientAction κ R (Option Frame)) :=
  Transport.keeps_readFrame.on fun _ _ h => h

theorem keeps_write [Link.Written q] :
    Keeps (Beside (Private q)) (writeFrame : InHand (Error R) (Client κ R) Unit) := by
  rintro ⟨f, c⟩
  exact outcome_writeFrame_of_transport (Transport.keeps_writeFrame (f, c.transport))

/-! ## The journal -/

theorem proceeds_waitForData (deadline : R) (late : Error R) :
    Keeps (Private Link.Proceeds)
      (waitForData deadline late : ClientAction κ R Unit) := by
  refine keeps_waitForData_of late fun c hearly => ?_
  have hwait := Transport.keeps_onLink (Link.proceeds_canRead (κ := κ) hearly)
  exact Outcome.on (hwait c.transport)

theorem proceeds_awaitReceipt (id : String) (deadline : R) (steps : Nat) :
    Keeps (Private Link.Proceeds) (awaitReceipt id deadline steps : ClientAction κ R Unit) :=
  keeps_awaitReceipt_of keeps_receive (proceeds_waitForData deadline _) steps

theorem proceeds_awaitConnected (deadline : R) (late : Error R) (steps : Nat) :
    Keeps (Private Link.Proceeds)
      (awaitConnected deadline late steps : ClientAction κ R Frame) :=
  keeps_awaitConnected_of keeps_receive (proceeds_waitForData deadline late) steps

theorem proceeds_sendFrame (sync? : Option Bool) :
    Keeps (Beside (Private Link.Proceeds))
      (sendFrame sync? : InHand (Error R) (Client κ R) Unit) :=
  keeps_sendFrame_of keeps_write proceeds_awaitReceipt sync?

end Stomp.Client
