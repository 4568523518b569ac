import Stomp.Client.Basic
import Stomp.Proofs.Frame.Headers
import Stomp.Proofs.Link.Outgoing

/-!
# Writing a frame

A client that is to send a frame without a receipt writes the frame or nothing at all, and if it
does not fail it has written the frame.
-/

namespace Stomp

open Stomp.Action

variable {κ R α : Type}

namespace Link

/-- The frame was announced, and then written in its wire form. -/
def Wrote (f : Frame) (l m : Link κ R) : Prop :=
  ∃ g, f.rendered = .ok g ∧ m.offered = l.offered ++ [f] ∧ m.written = l.written ++ [g.wire]

/-- Either that became of a frame as described, or nothing was written. -/
def Sends (P : Frame → Prop) (l m : Link κ R) : Prop :=
  m.written = l.written ∨ ∃ f, P f ∧ Wrote f l m

theorem Sends.mono {P Q : Frame → Prop} {l m : Link κ R} (h : Sends P l m)
    (hPQ : ∀ f, P f → Q f) : Sends Q l m :=
  h.imp_right fun ⟨f, hf, hwrote⟩ => ⟨f, hPQ f hf, hwrote⟩

theorem Wrote.silent {f : Frame} {l m n : Link κ R} (h : Wrote f l m) (hmn : Silent m n) :
    Wrote f l n := by
  obtain ⟨g, hg, hoffered, hwritten⟩ := h
  exact ⟨g, hg, hmn.offered.trans hoffered, hmn.written.trans hwritten⟩

variable [Channel κ R]

theorem outcome_write (data : Bytes) (l : Link κ R) :
    Outcome (fun _ m => m.written = l.written ++ [data] ∧ m.offered = l.offered)
      (fun _ m => Silent l m) (write data l) := by
  unfold write perform
  cases Channel.write data l.channel with
  | ok a c => exact ⟨written_enter { l with channel := c } (.write data), rfl⟩
  | error text c =>
      exact ⟨(silent_enter { l with channel := c } (t := .failed .write) rfl).written, rfl⟩

end Link

open Link (Silent Wrote Sends)

namespace Transport

theorem outcome_onLink {P Q : Link κ R → Prop} {x : EStateM ConnectionFault (Link κ R) α}
    {t : Transport κ R} (hx : Outcome (fun _ l => P l) (fun _ l => Q l) (x t.link)) :
    Outcome (fun _ u => P u.link) (fun _ u => Q u.link)
      ((onLink x : EStateM (Error R) (Transport κ R) α) t) :=
  Outcome.mapError (Outcome.on hx)

theorem outcome_logNotice (n : Notice R) (t : Transport κ R) :
    Outcome (fun _ u => u.link = t.link.notify n) (fun _ _ => False)
      ((logNotice n : EStateM (Error R) (Transport κ R) Unit) t) := rfl

theorem outcome_renderFrame (f : Frame) (t : Transport κ R) :
    Outcome (fun g q => f.rendered = .ok g ∧ (g, t) = q)
      (fun e q => (∃ cause, f.rendered = .error cause ∧ e = .unwritable cause) ∧
        q.1.headers = f.headers ∧ t = q.2)
      ((renderFrame : InHand (Error R) (Transport κ R) Frame) (f, t)) := by
  have hheaders : (f.filled.toOption.getD f).headers = f.headers := by
    cases hfilled : f.filled with
    | error x => rfl
    | ok g => exact Frame.headers_of_filled hfilled
  unfold renderFrame
  dsimp only
  cases f.rendered with
  | ok g => exact ⟨rfl, rfl⟩
  | error cause => exact ⟨⟨cause, rfl, rfl⟩, hheaders, rfl⟩

variable [Scale R] [Channel κ R]

theorem outcome_notify (e : Event) (t : Transport κ R) :
    Leaves (fun u => Silent t.link u.link)
      ((notify e : EStateM (Error R) (Transport κ R) Unit) t) :=
  Outcome.on (Observers.quiet_notify e (t.observers, t.link))

theorem outcome_writeFrame (f : Frame) (t : Transport κ R) :
    Outcome (fun _ q => Wrote f t.link q.2.link) (fun _ q => Sends (· = f) t.link q.2.link)
      ((writeFrame : InHand (Error R) (Transport κ R) Unit) (f, t)) := by
  unfold writeFrame
  refine (Outcome.beside (outcome_onLink (Link.silent_requireConnected t.link))).bind
    (fun _ q h => Or.inl h.1.written) ?_
  rintro - ⟨f', u⟩ ⟨hu, hf⟩
  have hf : f = f' := hf
  subst hf
  rw [get_bind]
  have hoffered : (u.link.notify (.sending f)).offered = t.link.offered ++ [f] := by
    rw [Link.offered_notify, hu.offered]
    rfl
  have hwritten : (u.link.notify (.sending f)).written = t.link.written := hu.written
  apply (Outcome.beside (outcome_logNotice (.sending f) u)).bind (fun _ q h => h.1.elim)
  rintro - ⟨f', v⟩ ⟨hv, hf⟩
  have hf : f = f' := hf
  subst hf
  rw [← hv] at hoffered hwritten
  apply (outcome_renderFrame f v).bind
  · rintro e ⟨g, w⟩ ⟨-, -, rfl⟩
    exact Or.inl hwritten
  rintro g q ⟨hg, rfl⟩
  apply (Outcome.beside (outcome_onLink (Link.outcome_write g.wire v.link))).bind
  · rintro e q ⟨hq, -⟩
    exact Or.inl (hq.written.trans hwritten)
  rintro - q ⟨⟨hwrote, hsame⟩, -⟩
  have hdone : Wrote f t.link q.2.link :=
    ⟨g, hg, hsame.trans hoffered, by rw [hwrote, hwritten]⟩
  apply (Outcome.beside (outcome_notify (.sent g) q.2)).mono
  · rintro - r ⟨hr, -⟩
    exact hdone.silent hr
  · rintro - r ⟨hr, -⟩
    exact Or.inr ⟨f, rfl, hdone.silent hr⟩

end Transport

namespace Client

theorem outcome_protocol (c : Client κ R) :
    Outcome (fun p d => c.protocol? = some p ∧ c = d)
      (fun e d => (c.protocol? = none ∧ e = .connection .notConnected) ∧ c = d)
      ((protocol : ClientAction κ R Protocol) c) := by
  unfold protocol
  rw [get_bind]
  cases h : c.protocol? with
  | none => exact ⟨⟨rfl, rfl⟩, rfl⟩
  | some p => exact ⟨rfl, rfl⟩

theorem protocol_of_connected {c : Client κ R} {p : Protocol} (hp : c.protocol? = some p) :
    (protocol : ClientAction κ R Protocol) c = .ok p c := by
  unfold protocol
  rw [get_bind, hp]
  rfl

theorem outcome_bind_protocol {c : Client κ R} {x : Protocol → ClientAction κ R α}
    {ok : α → Client κ R → Prop} {failed : Error R → Client κ R → Prop}
    (hnone : failed (.connection .notConnected) c) (hsome : ∀ p, Outcome ok failed (x p c)) :
    Outcome ok failed ((protocol >>= x) c) := by
  apply (outcome_protocol c).bind
  · rintro e d ⟨⟨-, rfl⟩, rfl⟩
    exact hnone
  · rintro p d ⟨-, rfl⟩
    exact hsome p

theorem outcome_bind_beside_protocol {f : Frame} {c : Client κ R}
    {x : Protocol → InHand (Error R) (Client κ R) α} {ok : α → Frame × Client κ R → Prop}
    {failed : Error R → Frame × Client κ R → Prop}
    (hnone : failed (.connection .notConnected) (f, c))
    (hsome : ∀ p, Outcome ok failed (x p (f, c))) :
    Outcome ok failed ((beside protocol >>= x) (f, c)) := by
  apply (Outcome.beside (outcome_protocol c)).bind
  · rintro e ⟨g, d⟩ ⟨⟨⟨-, rfl⟩, hd⟩, hg⟩
    obtain rfl : c = d := hd
    obtain rfl : f = g := hg
    exact hnone
  · rintro p ⟨g, d⟩ ⟨⟨-, hd⟩, hg⟩
    obtain rfl : c = d := hd
    obtain rfl : f = g := hg
    exact hsome p

variable [Scale R] [Channel κ R]

theorem outcome_writeFrame_of_transport {f : Frame} {c : Client κ R}
    {ok : Unit → Frame × Client κ R → Prop} {failed : Error R → Frame × Client κ R → Prop}
    (hwrite : Outcome (fun a q => ok a (q.1, { c with transport := q.2 }))
      (fun e q => failed e (q.1, { c with transport := q.2 }))
      (Transport.writeFrame (f, c.transport))) :
    Outcome ok failed ((writeFrame : InHand (Error R) (Client κ R) Unit) (f, c)) := by
  unfold writeFrame
  revert hwrite
  dsimp only
  cases Transport.writeFrame (f, c.transport) <;> exact id

theorem outcome_writeFrame (f : Frame) (c : Client κ R) :
    Outcome (fun _ q => Wrote f c.transport.link q.2.transport.link)
      (fun _ q => Sends (· = f) c.transport.link q.2.transport.link)
      ((writeFrame : InHand (Error R) (Client κ R) Unit) (f, c)) :=
  outcome_writeFrame_of_transport (Transport.outcome_writeFrame f c.transport)

theorem outcome_sendFrame (f : Frame) (c : Client κ R) :
    Outcome (fun _ q => Wrote f c.transport.link q.2.transport.link)
      (fun _ q => Sends (· = f) c.transport.link q.2.transport.link)
      ((sendFrame (some false) : InHand (Error R) (Client κ R) Unit) (f, c)) := by
  unfold sendFrame
  refine outcome_bind_beside_protocol (Or.inl rfl) fun p => ?_
  rw [get_bind]
  exact outcome_writeFrame f c

theorem sends_sendFrame (f : Frame) (c : Client κ R) :
    Leaves (fun q => Sends (· = f) c.transport.link q.2.transport.link)
      ((sendFrame (some false) : InHand (Error R) (Client κ R) Unit) (f, c)) :=
  (outcome_sendFrame f c).mono (fun _ _ h => Or.inr ⟨f, rfl, h⟩) (fun _ _ h => h)

theorem sends_sendBody (destination : Given) (body : Bytes) (headers : List (String × Given))
    (c : Client κ R) :
    Leaves (fun d => Sends (fun f => ∃ p, f = Protocol.send p destination body headers .absent)
        c.transport.link d.transport.link)
      ((sendBody destination body headers (some false) : ClientAction κ R Unit) c) := by
  unfold sendBody
  refine outcome_bind_protocol (Or.inl rfl) fun p => ?_
  have hsend := sends_sendFrame (p.send destination body headers .absent) c
  refine Outcome.withFrame (hsend.mono fun q h => ?_)
  exact h.mono fun f hf => ⟨p, hf⟩

theorem sends_sendPrepared (destination : Given) (headers : List (String × Given)) (f : Frame)
    (c : Client κ R) :
    Leaves (fun q => Sends (· = (f.add headers).set Name.destination destination)
        c.transport.link q.2.transport.link)
      ((sendPrepared destination headers (some false) : InHand (Error R) (Client κ R) Unit)
        (f, c)) := by
  unfold sendPrepared
  exact outcome_bind_beside_protocol (Or.inl rfl) fun p => sends_sendFrame _ c

end Client

end Stomp
