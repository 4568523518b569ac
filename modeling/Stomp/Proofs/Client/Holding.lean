import Stomp.Proofs.Client.Writing
import Stomp.Proofs.Transport.Holding

/-!
# Clients of which all is known

What a send with a receipt does when nobody watches and nothing fails: it is written and waited for
(`outcome_sendFrame_of_wait`), and the wait goes from frame to frame (`awaitReceipt_of_receipt`,
`awaitReceipt_of_other`).
-/

namespace Stomp

open Stomp.Action

variable {κ R : Type}

namespace Client

/-- A client that nobody watches, with this channel, this parser and these frames in its queue. -/
structure Holds (c : Client κ R) (channel : κ) (p : Parser) (queue : List Frame) : Prop where
  transport : c.transport.Holds channel p
  queue : c.queue = queue

variable {c : Client κ R} {channel after : κ} {p q : Parser} {queue : List Frame}
  {ok : Unit → Client κ R → Prop} {failed : Error R → Client κ R → Prop}

variable [Channel κ R] [Scale R]

/-! ## Sending -/

theorem holds_writeFrame (hc : c.Holds channel p queue)
    (hconnected : Channel.isConnected channel = true)
    (hwrite : ∀ data, Channel.write data channel = .ok () channel) {f g : Frame}
    (hf : f.rendered = .ok g) :
    Outcome (fun _ r => r.2.Holds channel p queue) (fun _ _ => False)
      ((writeFrame : InHand (Error R) (Client κ R) Unit) (f, c)) := by
  have hwritten := hc.transport.writeFrame hconnected hwrite hf
  exact outcome_writeFrame_of_transport
    (hwritten.mono (fun _ _ h => ⟨h, hc.queue⟩) (fun _ _ h => h))

theorem outcome_sendFrame_of_wait (hc : c.Holds channel p queue)
    (hprotocol : c.protocol?.isSome) (hconnected : Channel.isConnected channel = true)
    (hwrite : ∀ data, Channel.write data channel = .ok () channel) {f : Frame}
    (hf : ∃ g, f.rendered = .ok g) {sync? : Option Bool}
    (hsync : sync?.getD c.config.sync = true) {time : R}
    (htime : c.config.receiptTimeout.toScale? = some time)
    (hwait : ∀ d : Client κ R, d.Holds channel p queue →
      Outcome ok failed ((awaitReceipt c.ids.next.1 (Channel.now channel + time)
        (2 * Channel.patience channel + p.buffer.length + 16) : ClientAction κ R Unit) d)) :
    Outcome ok failed (withFrame f (sendFrame sync?) c) := by
  obtain ⟨protocol, hprotocol⟩ := Option.isSome_iff_exists.1 hprotocol
  obtain ⟨g, hg⟩ := Frame.exists_rendered_set hf Name.receipt (.text c.ids.next.1)
  apply Outcome.withFrame
  unfold sendFrame
  rw [bind_of_ok (beside_of_ok (protocol_of_connected hprotocol) f), get_bind]
  dsimp only
  rw [if_pos hsync]
  change Outcome _ _ ((writeFrame >>= _)
    (f.set Name.receipt (.text c.ids.next.1), { c with ids := c.ids.next.2 }))
  have hids : Holds { c with ids := c.ids.next.2 } channel p queue := ⟨hc.transport, hc.queue⟩
  apply (holds_writeFrame hids hconnected hwrite hg).bind (fun _ _ h => h.elim)
  rintro - ⟨f', d⟩ hd
  have hd : d.Holds channel p queue := hd
  apply Outcome.on
  have hlimit : Outcome (fun limit e => limit = Channel.now channel + time ∧ d = e)
      (fun _ _ => False) ((deadline c.config.receiptTimeout : ClientAction κ R R) d) := by
    unfold deadline
    rw [htime]
    exact ⟨congrArg (Channel.now · + time) hd.transport.channel, rfl⟩
  apply hlimit.bind (fun _ _ h => h.elim)
  rintro limit e ⟨rfl, rfl⟩
  rw [get_bind, waitSteps, hd.transport.channel, hd.transport.parser]
  exact hwait d hd

/-! ## Waiting -/

theorem receive_of_reads {f : Frame} (hc : c.Holds channel p queue)
    (hread : c.transport.Reads f after q) :
    Outcome (fun f? d => f? = some f ∧ d.Holds after q queue) (fun _ _ => False)
      ((onTransport Transport.readFrame : ClientAction κ R (Option Frame)) c) :=
  Outcome.on (hread.mono (fun _ _ h => ⟨h.1, h.2, hc.queue⟩) (fun _ _ h => h))

theorem awaitReceipt_of_receipt {f : Frame} (hc : c.Holds channel p queue)
    (hread : c.transport.Reads f after q) {id : String} (hcommand : f.command = Verb.receipt)
    (hid : f.get? Name.receiptId = some (.text id)) (limit : R) (steps : Nat) :
    Outcome (fun _ d => d.Holds after q queue) (fun _ _ => False)
      ((awaitReceipt id limit (steps + 1) : ClientAction κ R Unit) c) := by
  unfold awaitReceipt
  apply (receive_of_reads hc hread).bind (fun _ _ h => h)
  rintro - d ⟨rfl, hd⟩
  dsimp only
  rw [if_pos hcommand, if_pos hid]
  exact hd

theorem awaitReceipt_of_malformed {fault : Malformed} (hc : c.Holds channel p queue)
    (hfinds : c.transport.Finds (.error fault) after q) (id : String) (limit : R) (steps : Nat) :
    Outcome (fun _ _ => False) (fun e d => e = .malformed fault ∧ d.Holds after q queue)
      ((awaitReceipt id limit (steps + 1) : ClientAction κ R Unit) c) := by
  have hreceive : Outcome (fun _ _ => False)
      (fun e d => e = .malformed fault ∧ d.Holds after q queue)
      ((onTransport Transport.readFrame : ClientAction κ R (Option Frame)) c) := by
    refine Outcome.on (Outcome.mono hfinds ?_ ?_)
    · rintro f? u ⟨⟨f, -, hf⟩, -⟩
      cases hf
    · rintro e u ⟨hreports, hu⟩
      cases hreports
      exact ⟨rfl, hu, hc.queue⟩
  unfold awaitReceipt
  exact hreceive.bind (fun _ _ h => h) (fun _ _ h => h.elim)

theorem awaitReceipt_of_other {f : Frame} (hc : c.Holds channel p queue)
    (hread : c.transport.Reads f after q) {id : String} (hcommand : f.command ≠ Verb.receipt)
    (limit : R) (steps : Nat)
    (hnext : ∀ d : Client κ R, d.Holds after q (queue ++ [f]) → Outcome ok failed
      ((do
        waitForData limit (.missingReceipt id)
        awaitReceipt id limit steps : ClientAction κ R Unit) d)) :
    Outcome ok failed ((awaitReceipt id limit (steps + 1) : ClientAction κ R Unit) c) := by
  unfold awaitReceipt
  apply (receive_of_reads hc hread).bind (fun _ _ h => h.elim)
  rintro - d ⟨rfl, hd⟩
  dsimp only
  rw [if_neg hcommand]
  exact hnext { d with queue := d.queue ++ [f] } ⟨hd.transport, by rw [hd.queue]⟩

end Client

end Stomp
