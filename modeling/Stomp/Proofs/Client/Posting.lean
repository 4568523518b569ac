import Stomp.Proofs.Client.Ids
import Stomp.Proofs.Client.Quiet
import Stomp.Proofs.Client.Usage
import Stomp.Proofs.Frame.Headers

/-!
# What becomes of a frame that is sent

A connected client that is to send a frame, with a receipt or without, writes it once or not at all,
whoever watches (`posted_sendFrame`). The frame in hand keeps the id of the receipt that was asked
for, also when it is not written.
-/

namespace Stomp

open Stomp.Action

variable {κ R α : Type}

/-! ## The frame in hand -/

section Headed

variable {ε σ : Type}

def SameHeaders (p q : Frame × σ) : Prop := q.1.headers = p.1.headers

instance : Progress (SameHeaders : Frame × σ → Frame × σ → Prop) where
  refl _ := rfl
  trans hpq hqr := Eq.trans hqr hpq

theorem sameHeaders_beside (x : EStateM ε σ α) : Keeps SameHeaders (Action.beside x) :=
  (Keeps.trivial x).on fun _ _ _ => rfl

end Headed

namespace Transport

theorem sameHeaders_renderFrame :
    Keeps SameHeaders (renderFrame : InHand (Error R) (Transport κ R) Frame) := by
  rintro ⟨f, t⟩
  refine (outcome_renderFrame f t).mono ?_ (fun _ _ h => h.2.1)
  rintro g q ⟨hg, rfl⟩
  exact Frame.headers_of_rendered hg

variable [Scale R] [Channel κ R]

theorem sameHeaders_writeFrame :
    Keeps SameHeaders (writeFrame : InHand (Error R) (Transport κ R) Unit) := by
  unfold writeFrame
  apply (sameHeaders_beside _).bind
  intro _
  apply Keeps.get.bind
  intro p
  apply (sameHeaders_beside _).bind
  intro _
  apply sameHeaders_renderFrame.bind
  intro g
  exact (sameHeaders_beside _).bind fun _ => sameHeaders_beside _

/-! ## Waiting -/

def Silent (t u : Transport κ R) : Prop := t.link.Silent u.link

instance : Receiving (Silent : Transport κ R → Transport κ R → Prop) where
  refl t := Progress.refl t.link
  trans htu huv := Progress.trans (r := Link.Silent) htu huv
  onParser t _ := Progress.refl t.link
  onNotice t _ h := Link.silent_notify t.link h
  notify e t := outcome_notify e t
  read limit t := outcome_onLink (Link.silent_read limit t.link)

end Transport

namespace Client

open Link (Wrote Sends)

/-- No frame went out, and the ids at most moved on. -/
structure Rests (c d : Client κ R) : Prop where
  silent : c.transport.Silent d.transport
  later : c.Later d

/-- The frame that is written for a frame that is to be sent: with the id of the receipt, if one is
asked for. -/
def stamped (c : Client κ R) (f : Frame) (sync? : Option Bool) : Frame :=
  match c.receipt? sync? with
  | some id => f.set Name.receipt (.text id)
  | none => f

/-- The frame was sent as far as that went, all the way if the call returned, and is in hand. -/
structure Posted (f : Frame) (sync? : Option Bool) (c : Client κ R) (returned : Bool)
    (q : Frame × Client κ R) : Prop where
  headers : q.1.headers = (c.stamped f sync?).headers
  sends : Sends (· = c.stamped f sync?) c.transport.link q.2.transport.link
  wrote : returned = true → Wrote (c.stamped f sync?) c.transport.link q.2.transport.link
  issued : c.ids.issued + (if sync?.getD c.config.sync then 1 else 0) ≤ q.2.ids.issued

abbrev Posts (f : Frame) (sync? : Option Bool) (c : Client κ R) :
    EStateM.Result (Error R) (Frame × Client κ R) α → Prop :=
  Outcome (fun _ => Posted f sync? c true) (fun _ => Posted f sync? c false)

theorem get?_stamped (c : Client κ R) (f : Frame) (sync? : Option Bool) :
    (c.stamped f sync?).get? Name.receipt =
      if sync?.getD c.config.sync then some (.text c.ids.next.1) else f.get? Name.receipt := by
  unfold stamped receipt?
  split_ifs with hsync
  · dsimp only
    rw [Frame.get?_set_self, Given.stored?_text c.ids.next_ne_empty]
  · rfl

variable [Scale R] [Channel κ R]

instance : Bookkeeping (Rests : Client κ R → Client κ R → Prop) where
  refl c := ⟨Progress.refl c.transport, Progress.refl c⟩
  trans hcd hde :=
    ⟨Progress.trans hcd.silent hde.silent, Progress.trans hcd.later hde.later⟩
  onIds c := ⟨Progress.refl c.transport, Bookkeeping.onIds c⟩
  onQueue c queue := ⟨Progress.refl c.transport, Bookkeeping.onQueue c queue⟩

theorem rests_awaitReceipt (id : String) (limit : R) (steps : Nat) :
    Keeps Rests (awaitReceipt id limit steps : ClientAction κ R Unit) := by
  have hread : Keeps Rests
      (onTransport Transport.readFrame : ClientAction κ R (Option Frame)) :=
    Transport.keeps_readFrame.on fun c t h => ⟨h, Nat.le_refl _⟩
  apply keeps_awaitReceipt_of hread
  refine keeps_waitForData_of _ fun c _ => Outcome.on ?_
  have hwait := Link.silent_canRead (some (.real (limit - c.transport.now))) c.transport.link
  exact (Transport.outcome_onLink hwait).mono (fun _ t h => ⟨h, Nat.le_refl _⟩)
    (fun _ t h => ⟨h, Nat.le_refl _⟩)

theorem sameHeaders_writeFrame :
    Keeps SameHeaders (writeFrame : InHand (Error R) (Client κ R) Unit) := by
  rintro ⟨f, c⟩
  exact outcome_writeFrame_of_transport (Transport.sameHeaders_writeFrame (f, c.transport))

theorem wrote_writeFrame (f : Frame) (c : Client κ R) :
    Outcome
      (fun _ q => Wrote f c.transport.link q.2.transport.link ∧ q.1.headers = f.headers ∧
        c.Later q.2)
      (fun _ q => Sends (· = f) c.transport.link q.2.transport.link ∧ q.1.headers = f.headers ∧
        c.Later q.2)
      ((writeFrame : InHand (Error R) (Client κ R) Unit) (f, c)) :=
  (outcome_writeFrame f c).and ((sameHeaders_writeFrame (f, c)).and (keeps_writeFrame Later (f, c)))

/-- The id is in the frame before it is written, and what is done after that writes no frame. -/
theorem posted_sendFrame {c : Client κ R} (hc : c.protocol?.isSome) (f : Frame)
    (sync? : Option Bool) :
    Posts f sync? c ((sendFrame sync? : InHand (Error R) (Client κ R) Unit) (f, c)) := by
  obtain ⟨p, hp⟩ := Option.isSome_iff_exists.1 hc
  unfold sendFrame
  rw [bind_of_ok (beside_of_ok (protocol_of_connected hp) f), get_bind]
  dsimp only
  split
  case isFalse hplain =>
    have hstamped : c.stamped f sync? = f := by rw [stamped, receipt?, if_neg hplain]
    refine (wrote_writeFrame f c).mono ?_ ?_
    · rintro - q ⟨hwrote, hheaders, hlater⟩
      exact ⟨by rw [hstamped, hheaders], Or.inr ⟨f, hstamped.symm, hwrote⟩,
        fun _ => hstamped.symm ▸ hwrote, by rw [if_neg hplain]; exact hlater⟩
    · rintro - q ⟨hsends, hheaders, hlater⟩
      exact ⟨by rw [hstamped, hheaders], hstamped.symm ▸ hsends, nofun,
        by rw [if_neg hplain]; exact hlater⟩
  case isTrue hsync =>
    have hstamped : c.stamped f sync? = f.set Name.receipt (.text c.ids.next.1) := by
      rw [stamped, receipt?, if_pos hsync]
    rw [bind_of_ok (beside_of_ok (freshId_eq c) f)]
    change Outcome _ _ ((writeFrame >>= _) (f.set Name.receipt (.text c.ids.next.1), _))
    rw [← hstamped]
    apply (wrote_writeFrame (c.stamped f sync?) { c with ids := c.ids.next.2 }).bind
    · rintro - q ⟨hsends, hheaders, hlater⟩
      exact ⟨hheaders, hsends, nofun, by rw [if_pos hsync]; exact hlater⟩
    rintro - ⟨g, d⟩ ⟨hwrote, hheaders, hlater⟩
    have hrests : Keeps Rests (do
        let limit ← deadline c.config.receiptTimeout
        awaitReceipt c.ids.next.1 limit (← get).waitSteps : ClientAction κ R Unit) :=
      (keeps_deadline Rests _).bind fun limit =>
        Keeps.get.bind fun d => rests_awaitReceipt c.ids.next.1 limit d.waitSteps
    have hposted (returned : Bool) : ∀ q : Frame × Client κ R, d.Rests q.2 ∧ g = q.1 →
        Posted f sync? c returned q := by
      rintro q ⟨hrest, rfl⟩
      have hwrote := hwrote.silent hrest.silent
      exact ⟨hheaders, Or.inr ⟨_, rfl, hwrote⟩, fun _ => hwrote,
        by rw [if_pos hsync]; exact hlater.trans hrest.later⟩
    exact (Outcome.beside (hrests d)).mono (fun _ => hposted true) (fun _ => hposted false)

theorem posted_sendPrepared {c : Client κ R} (hc : c.protocol?.isSome) (f : Frame)
    (destination : Given) (headers : List (String × Given)) (sync? : Option Bool) :
    Posts ((f.add headers).set Name.destination destination) sync? c
      ((sendPrepared destination headers sync? : InHand (Error R) (Client κ R) Unit) (f, c)) := by
  obtain ⟨p, hp⟩ := Option.isSome_iff_exists.1 hc
  unfold sendPrepared
  rw [bind_of_ok (beside_of_ok (protocol_of_connected hp) f)]
  exact posted_sendFrame hc _ sync?

theorem posted_sendBody {c : Client κ R} {p : Protocol} (hp : c.protocol? = some p)
    (destination : Given) (body : Bytes) (headers : List (String × Given)) (sync? : Option Bool) :
    let f := p.send destination body headers .absent
    Outcome (fun _ d => ∃ g, Posted f sync? c true (g, d))
      (fun _ d => ∃ g, Posted f sync? c false (g, d))
      ((sendBody destination body headers sync? : ClientAction κ R Unit) c) := by
  intro f
  unfold sendBody
  rw [bind_of_ok (protocol_of_connected hp)]
  apply Outcome.withFrame
  have hsend := posted_sendFrame (Option.isSome_iff_exists.2 ⟨p, hp⟩) f sync?
  exact hsend.mono (fun _ q h => ⟨q.1, h⟩) (fun _ q h => ⟨q.1, h⟩)

end Client

end Stomp
