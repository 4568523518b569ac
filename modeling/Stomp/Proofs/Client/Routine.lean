import Stomp.Proofs.Action.Outcome
import Stomp.Proofs.Client.Call

/-!
# What every use of a client keeps

A client reads and writes through its transport, queues frames and makes up ids. A relation that
these keep is kept by whatever is done with a connected client, however it ends (`keeps_perform`).
Where it matters what the transport does, the relation is kept by waits and sends if it is by the
reads and writes that they are made of (`keeps_awaitReceipt_of`, `keeps_sendFrame_of`).
-/

namespace Stomp.Client

open Stomp.Action

variable {κ R α : Type}

/-- A relation between earlier and later clients that is kept by what concerns the client alone. -/
class Bookkeeping (r : Client κ R → Client κ R → Prop) : Prop extends Progress r where
  onIds (c : Client κ R) : r c { c with ids := c.ids.next.2 }
  onQueue (c : Client κ R) (queue : List Frame) : r c { c with queue }

/-- A relation that is kept in every step. -/
class Routine (r : Client κ R → Client κ R → Prop) : Prop extends Bookkeeping r where
  onTransport (c : Client κ R) (t : Transport κ R) : r c { c with transport := t }

def SameProtocol (c d : Client κ R) : Prop := d.protocol? = c.protocol?

instance : Routine (SameProtocol : Client κ R → Client κ R → Prop) where
  refl _ := rfl
  trans hcd hde := Eq.trans hde hcd
  onTransport _ _ := rfl
  onIds _ := rfl
  onQueue _ _ := rfl

section Bookkeeping

variable (r : Client κ R → Client κ R → Prop) [Bookkeeping r]

theorem keeps_freshId : Keeps r (freshId : ClientAction κ R String) := Bookkeeping.onIds

theorem keeps_protocol : Keeps r (protocol : ClientAction κ R Protocol) := by
  apply Keeps.get.bind
  intro c
  split
  · exact Keeps.pure _
  · exact Keeps.throw _

theorem keeps_enqueue (f : Frame) :
    Keeps r (modify fun c => { c with queue := c.queue ++ [f] } : ClientAction κ R Unit) :=
  Keeps.modify fun c => Bookkeeping.onQueue c _

variable [Scale R] [Channel κ R]

theorem keeps_deadline (timeout : Quantity R) :
    Keeps r (deadline timeout : ClientAction κ R R) := by
  unfold deadline
  split
  · exact Keeps.get.bind fun c => Keeps.pure _
  · exact Keeps.throw _

variable {r}

theorem keeps_waitForData_of {deadline : R} (late : Error R)
    (hwait : ∀ c : Client κ R, Scale.le (deadline - c.transport.now) Scale.zero = false →
      Leaves (r c)
        ((onTransport (Transport.canRead (some (.real (deadline - c.transport.now)))) :
          ClientAction κ R Bool) c)) :
    Keeps r (waitForData deadline late : ClientAction κ R Unit) := by
  intro c
  unfold waitForData
  rw [get_bind]
  dsimp only
  split
  · exact Progress.refl (r := r) c
  · rename_i hearly
    exact Outcome.discard (hwait c (by simpa using hearly))

section Wait

variable {deadline : R}
  (hread : Keeps r (onTransport Transport.readFrame : ClientAction κ R (Option Frame)))

include hread

theorem keeps_awaitReceipt_of {id : String}
    (hwait : Keeps r (waitForData deadline (.missingReceipt id) : ClientAction κ R Unit))
    (steps : Nat) : Keeps r (awaitReceipt id deadline steps : ClientAction κ R Unit) := by
  induction steps with
  | zero => exact Keeps.throw _
  | succ steps ih =>
      unfold awaitReceipt
      have hagain : Keeps r (do
          waitForData deadline (.missingReceipt id)
          awaitReceipt id deadline steps : ClientAction κ R Unit) :=
        hwait.bind fun _ => ih
      apply hread.bind
      intro f?
      cases f? with
      | none => exact hagain
      | some f =>
          dsimp only
          split
          · split
            · exact Keeps.pure _
            · apply (Keeps.throw _).bind
              intro _
              exact (keeps_enqueue r f).bind fun _ => hagain
          · exact (keeps_enqueue r f).bind fun _ => hagain

theorem keeps_awaitConnected_of {late : Error R}
    (hwait : Keeps r (waitForData deadline late : ClientAction κ R Unit)) (steps : Nat) :
    Keeps r (awaitConnected deadline late steps : ClientAction κ R Frame) := by
  induction steps with
  | zero => exact Keeps.throw _
  | succ steps ih =>
      unfold awaitConnected
      apply hread.bind
      intro f?
      cases f? with
      | none => exact hwait.bind fun _ => ih
      | some f =>
          dsimp only
          split
          · exact Keeps.pure _
          · exact Keeps.throw _

end Wait

theorem keeps_sendFrame_of
    (hwrite : Keeps (Beside r) (writeFrame : InHand (Error R) (Client κ R) Unit))
    (hwait : ∀ id limit steps, Keeps r (awaitReceipt id limit steps : ClientAction κ R Unit))
    (sync? : Option Bool) :
    Keeps (Beside r) (sendFrame sync? : InHand (Error R) (Client κ R) Unit) := by
  apply (keeps_protocol r).beside.bind
  intro _
  apply Keeps.get.bind
  intro p
  dsimp only
  split
  · apply (keeps_freshId r).beside.bind
    intro id
    refine Keeps.bind (Keeps.modify fun p => Progress.refl p.2) fun _ => ?_
    apply hwrite.bind
    intro _
    refine Keeps.beside ((keeps_deadline r _).bind fun limit => ?_)
    exact Keeps.get.bind fun c => hwait id limit _
  · exact hwrite

end Bookkeeping

variable (r : Client κ R → Client κ R → Prop) [Routine r]

theorem keeps_onTransport (x : EStateM (Error R) (Transport κ R) α) :
    Keeps r (onTransport x : ClientAction κ R α) :=
  (Keeps.trivial x).on fun c t _ => Routine.onTransport c t

variable [Scale R] [Channel κ R]

theorem keeps_writeFrame :
    Keeps (Beside r) (writeFrame : InHand (Error R) (Client κ R) Unit) := by
  intro p
  unfold writeFrame
  dsimp only
  cases Transport.writeFrame (p.1, p.2.transport) with
  | ok a q => exact Routine.onTransport p.2 q.2
  | error e q => exact Routine.onTransport p.2 q.2

theorem keeps_sendFrame (sync? : Option Bool) :
    Keeps (Beside r) (sendFrame sync? : InHand (Error R) (Client κ R) Unit) := by
  refine keeps_sendFrame_of (keeps_writeFrame r) (fun id limit steps => ?_) sync?
  have hwait : Keeps r (waitForData limit (.missingReceipt id) : ClientAction κ R Unit) :=
    keeps_waitForData_of _ fun c _ => keeps_onTransport r _ c
  exact keeps_awaitReceipt_of (keeps_onTransport r _) hwait steps

theorem keeps_sendBody (destination : Given) (body : Bytes) (headers : List (String × Given))
    (sync? : Option Bool) :
    Keeps r (sendBody destination body headers sync? : ClientAction κ R Unit) :=
  (keeps_protocol r).bind fun _ => (keeps_sendFrame r sync?).withFrame

theorem keeps_sendPrepared (destination : Given) (headers : List (String × Given))
    (sync? : Option Bool) :
    Keeps (Beside r)
      (sendPrepared destination headers sync? : InHand (Error R) (Client κ R) Unit) := by
  apply (keeps_protocol r).beside.bind
  intro _
  exact Keeps.bind (Keeps.modify fun p => Progress.refl p.2) fun _ => keeps_sendFrame r sync?

theorem keeps_readFrame : Keeps r (readFrame : ClientAction κ R (Option Frame)) := by
  apply Keeps.get.bind
  intro c
  split
  · exact Keeps.bind (Keeps.modify fun c => Bookkeeping.onQueue c _) fun _ => Keeps.pure _
  · exact keeps_onTransport r _

theorem keeps_canRead (timeout : Option (Quantity R)) :
    Keeps r (canRead timeout : ClientAction κ R Bool) := by
  unfold canRead
  apply Keeps.get.bind
  intro c
  split
  · exact Keeps.pure _
  · apply (keeps_onTransport r _).bind
    intro f?
    cases f? with
    | none => exact keeps_onTransport r _
    | some f => exact (keeps_enqueue r f).bind fun _ => Keeps.pure _

theorem keeps_perform (call : Call R) : Keeps r (call.perform : ClientAction κ R Answer) := by
  cases call with
  | sendFrame f sync? =>
      exact (keeps_sendFrame r sync?).withFrame.bind fun _ => Keeps.pure _
  | sendBody destination body headers sync? =>
      exact (keeps_sendBody r destination body headers sync?).bind fun _ => Keeps.pure _
  | sendPrepared f destination headers sync? =>
      exact (keeps_sendPrepared r destination headers sync?).withFrame.bind fun _ => Keeps.pure _
  | readFrame => exact (keeps_readFrame r).bind fun _ => Keeps.pure _
  | canRead timeout => exact (keeps_canRead r timeout).bind fun _ => Keeps.pure _

theorem keeps_run (c : Client κ R) (calls : List (Call R)) : r c (c.run calls) := by
  induction calls generalizing c with
  | nil => exact Progress.refl c
  | cons call calls ih => exact Progress.trans ((keeps_perform r call).after c) (ih _)

end Stomp.Client
