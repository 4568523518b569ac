import Stomp.Proofs.Client.Writing
import Stomp.Proofs.Transport.Reading

/-!
# What reads nothing

Writing frames, and waiting, leave the frames of a client as they are, both those that are queued
and those that the parser has yet to give (`Client.Quiet`). In particular a send without a receipt
does (`quiet_sendFrame`).
-/

namespace Stomp

open Stomp.Action

variable {κ R α : Type}

namespace Error

def isIncoming : Error R → Bool
  | .malformed _ | .broker _ | .command (.unexpectedFrame _ _) => true
  | _ => false

def isWriting : Error R → Bool
  | .connection _ | .unwritable _ => true
  | _ => false

/-- The errors of sending a frame, apart from those of the wait for a receipt. -/
def isSending : Error R → Bool
  | .connection _ | .unwritable _ | .beyondScale | .stalled => true
  | _ => false

/-- The error for which the frame is kept back: the channel fails, or the frame cannot be
written. -/
inductive Withholds (f : Frame) : Error R → Prop
  | channel {e : Error R} : e.isConnection = true → Withholds f e
  | unwritable {cause : Unwritable} : f.rendered = .error cause → Withholds f (.unwritable cause)

namespace Withholds

variable {f : Frame} {e : Error R}

theorem isWriting (h : Withholds f e) : e.isWriting = true := by
  cases h with
  | channel h =>
      cases e with
      | connection fault => rfl
      | _ => cases h
  | unwritable _ => rfl

theorem isConnection (h : Withholds f e) {g : Frame} (hf : f.rendered = .ok g) :
    e.isConnection = true := by
  cases h with
  | channel h => exact h
  | unwritable hnot => cases hf.symm.trans hnot

end Withholds

theorem isSending_of_isWriting {e : Error R} (h : e.isWriting = true) : e.isSending = true := by
  cases e
  case connection fault => rfl
  case unwritable x => rfl
  all_goals cases h

theorem isSending_of_isChannel {e : Error R} (h : e.isChannel = true) : e.isSending = true := by
  cases e
  case connection fault => rfl
  case stalled => rfl
  all_goals cases h

theorem isSending_of_isConnection {e : Error R} (h : e.isConnection = true) :
    e.isSending = true :=
  isSending_of_isChannel (isChannel_of_isConnection h)

theorem not_isIncoming_of_isSending {e : Error R} (h : e.isSending = true) :
    e.isIncoming = false := by
  cases e
  case connection fault => rfl
  case unwritable x => rfl
  case beyondScale => rfl
  case stalled => rfl
  all_goals cases h

end Error

namespace Transport

variable [Scale R] [Channel κ R]

theorem brings_writeFrame {t : Transport κ R} (ht : t.Unwatched) (f : Frame) :
    Outcome (fun _ q => t.Brings [] q.2) (fun e q => e.Withholds f ∧ t.Brings [] q.2)
      ((writeFrame : InHand (Error R) (Transport κ R) Unit) (f, t)) := by
  unfold writeFrame
  have hconnected := (Link.leaves_requireConnected t.link).mono
    (Q := fun l => t.link.Serves [] l) (fun l hl => hl ▸ .refl t.link)
  refine (Outcome.beside (brings_onLink hconnected)).bind
    (fun e q h => ⟨.channel h.1.1, h.1.2⟩) ?_
  rintro - ⟨g, u⟩ ⟨hu, hg⟩
  obtain rfl : f = g := hg
  rw [get_bind]
  refine (Outcome.beside (parsed_logNotice (.sending f) u)).bind (fun _ _ h => h.1.elim) ?_
  rintro - ⟨g, v⟩ ⟨hv, hg⟩
  obtain rfl : f = g := hg
  have hv : t.Brings [] v := hu.trans hv.brings
  apply (outcome_renderFrame f v).bind
  · rintro e ⟨g, w⟩ ⟨⟨cause, hcause, rfl⟩, -, rfl⟩
    exact ⟨.unwritable hcause, hv⟩
  rintro h ⟨g, w⟩ ⟨-, hw⟩
  obtain rfl : v = w := congrArg Prod.snd hw
  apply (Outcome.beside (brings_onLink (Link.serves_write h.wire v.link))).bind
  · rintro e q ⟨hq, -⟩
    exact ⟨.channel hq.1, hv.trans hq.2⟩
  rintro - q ⟨hq, -⟩
  have hq : t.Brings [] q.2 := hv.trans hq
  refine (Outcome.beside (outcome_notify_of_unwatched (ht.of_eq hq.observers) (.sent h))).mono ?_
    (fun _ _ h => h.1.elim)
  rintro - r ⟨hr, -⟩
  exact hr ▸ hq

end Transport

namespace Client

variable [Channel κ R]

/-- The later client has read nothing. -/
structure Quiet (c d : Client κ R) : Prop where
  transport : c.transport.Brings [] d.transport
  queue : d.queue = c.queue
  config : d.config = c.config

section Quiet

variable {c d e : Client κ R}

theorem Quiet.refl (c : Client κ R) : c.Quiet c := ⟨.refl _, rfl, rfl⟩

theorem Quiet.trans (hcd : c.Quiet d) (hde : d.Quiet e) : c.Quiet e where
  transport := hcd.transport.trans hde.transport
  queue := hde.queue.trans hcd.queue
  config := hde.config.trans hcd.config

end Quiet

omit [Channel κ R] in
theorem freshId_eq (c : Client κ R) :
    (freshId : ClientAction κ R String) c = .ok c.ids.next.1 { c with ids := c.ids.next.2 } := rfl

variable [Scale R]

theorem quiet_writeFrame {c : Client κ R} (hc : c.transport.Unwatched) (f : Frame) :
    Outcome (fun _ q => c.Quiet q.2) (fun e q => e.Withholds f ∧ c.Quiet q.2)
      ((writeFrame : InHand (Error R) (Client κ R) Unit) (f, c)) := by
  have hwrite := Transport.brings_writeFrame hc f
  apply outcome_writeFrame_of_transport
  exact hwrite.mono (fun _ _ h => ⟨h, rfl, rfl⟩) (fun _ _ h => ⟨h.1, h.2, rfl, rfl⟩)

theorem outcome_deadline (timeout : Quantity R) (c : Client κ R) :
    Outcome (fun limit d => ∃ time, timeout.toScale? = some time ∧
        limit = c.transport.now + time ∧ c = d)
      (fun e d => timeout.toScale? = none ∧ e = .beyondScale ∧ c = d)
      ((deadline timeout : ClientAction κ R R) c) := by
  unfold deadline
  cases timeout.toScale? with
  | some time => exact ⟨time, rfl, rfl, rfl⟩
  | none => exact ⟨rfl, rfl, rfl⟩

theorem outcome_waitForData (deadline : R) (late : Error R) (c : Client κ R) :
    let remaining := deadline - c.transport.now
    Outcome
      (fun _ d => Scale.le remaining Scale.zero = false ∧ ∃ ready t,
        Channel.canRead (some (.real remaining)) c.transport.link.channel =
          .ok ready t.link.channel ∧ c.transport.Brings [] t ∧ d = { c with transport := t })
      (fun e d => (Scale.le remaining Scale.zero = true ∧ e = late ∧ c = d) ∨
        e.isConnection = true ∧ ∃ t, c.transport.Brings [] t ∧ d = { c with transport := t })
      ((waitForData deadline late : ClientAction κ R Unit) c) := by
  intro remaining
  unfold waitForData
  rw [get_bind]
  dsimp only
  split
  · rename_i hlate
    exact Or.inl ⟨hlate, rfl, rfl⟩
  · rename_i hearly
    have hearly : Scale.le remaining Scale.zero = false := by simpa using hearly
    have hwait := Transport.outcome_canRead (some (.real remaining)) c.transport
    apply Outcome.discard
    refine Outcome.on (hwait.mono (fun ready t h => ?_) (fun e t h => ?_))
    · exact ⟨hearly, ready, t, h.1, h.2, rfl⟩
    · exact Or.inr ⟨h.1, t, h.2, rfl⟩

theorem search_receive {c : Client κ R} (hc : c.transport.Unwatched) :
    let steps := Channel.patience c.transport.link.channel + 2
    Outcome (fun f? d => ∃ t, c.transport.Search steps (.ok f?) t ∧ d = { c with transport := t })
      (fun e d => ∃ t, c.transport.Search steps (.error e) t ∧ d = { c with transport := t })
      ((onTransport Transport.readFrame : ClientAction κ R (Option Frame)) c) :=
  Outcome.on ((Transport.search_readFrame hc).mono (fun _ t h => ⟨t, h, rfl⟩)
    (fun _ t h => ⟨t, h, rfl⟩))

theorem outcome_receive {c : Client κ R} (hc : c.transport.Unwatched) :
    Outcome (fun f? d => ∃ t, c.transport.Delivers f? t ∧ d = { c with transport := t })
      (fun e d => ∃ t, c.transport.Fails e t ∧ d = { c with transport := t })
      ((onTransport Transport.readFrame : ClientAction κ R (Option Frame)) c) :=
  (search_receive hc).mono (fun _ _ ⟨t, ht, hd⟩ => ⟨t, ht.delivers, hd⟩)
    (fun _ _ ⟨t, ht, hd⟩ => ⟨t, ht.fails, hd⟩)

/-! ## Sends -/

section Send

variable {c : Client κ R} {f : Frame} {sync? : Option Bool}
  (ok : Unit → Client κ R → Prop) (failed : Error R → Client κ R → Prop)

theorem outcome_sendFrame_of_plain (hplain : sync?.getD c.config.sync = false)
    (hunconnected : failed (.connection .notConnected) c)
    (hwrite : Outcome (fun a q => ok a q.2) (fun e q => failed e q.2)
      ((writeFrame : InHand (Error R) (Client κ R) Unit) (f, c))) :
    Outcome (fun a q => ok a q.2) (fun e q => failed e q.2)
      ((sendFrame sync? : InHand (Error R) (Client κ R) Unit) (f, c)) := by
  unfold sendFrame
  refine outcome_bind_beside_protocol hunconnected fun p => ?_
  rw [get_bind]
  dsimp only
  rw [if_neg (by simp [hplain])]
  exact hwrite

/-- A send with a receipt writes the frame with the id that the client makes up next, and waits for
it till the deadline. -/
theorem outcome_sendFrame_of_write (before : Client κ R → Prop)
    (hsync : sync?.getD c.config.sync = true)
    (hunconnected : failed (.connection .notConnected) c)
    (hwrite : Outcome (fun _ q => before q.2) (fun e q => failed e q.2)
      ((writeFrame : InHand (Error R) (Client κ R) Unit)
        (f.set Name.receipt (.text c.ids.next.1), { c with ids := c.ids.next.2 })))
    (hunlimited : ∀ d, before d → c.config.receiptTimeout.toScale? = none → failed .beyondScale d)
    (hwait : ∀ d time, before d → c.config.receiptTimeout.toScale? = some time →
      Outcome ok failed ((awaitReceipt c.ids.next.1 (d.transport.now + time) d.waitSteps :
        ClientAction κ R Unit) d)) :
    Outcome (fun a q => ok a q.2) (fun e q => failed e q.2)
      ((sendFrame sync? : InHand (Error R) (Client κ R) Unit) (f, c)) := by
  unfold sendFrame
  refine outcome_bind_beside_protocol hunconnected fun p => ?_
  rw [get_bind]
  dsimp only
  rw [if_pos hsync]
  rw [bind_of_ok (beside_of_ok (freshId_eq c) f)]
  change Outcome _ _ ((writeFrame >>= _) (f.set Name.receipt (.text c.ids.next.1), _))
  apply hwrite.bind (fun _ _ h => h)
  rintro - ⟨g, d⟩ hd
  apply Outcome.on
  apply (outcome_deadline c.config.receiptTimeout d).bind
  · rintro e q ⟨hnone, rfl, rfl⟩
    exact hunlimited d hd hnone
  rintro limit q ⟨time, htime, rfl, rfl⟩
  rw [get_bind]
  exact hwait d time hd htime

end Send

theorem quiet_sendFrame {c : Client κ R} (hc : c.transport.Unwatched) (f : Frame)
    {sync? : Option Bool} (hsync : sync?.getD c.config.sync = false) :
    Outcome (fun _ q => c.Quiet q.2) (fun e q => e.isSending = true ∧ c.Quiet q.2)
      ((sendFrame sync? : InHand (Error R) (Client κ R) Unit) (f, c)) :=
  outcome_sendFrame_of_plain (fun _ d => c.Quiet d)
    (fun e d => e.isSending = true ∧ c.Quiet d) hsync ⟨rfl, .refl c⟩
    ((quiet_writeFrame hc f).mono (fun _ _ h => h)
      (fun _ _ h => ⟨Error.isSending_of_isWriting h.1.isWriting, h.2⟩))

theorem quiet_sendBody {c : Client κ R} (hc : c.transport.Unwatched) (destination : Given)
    (body : Bytes) (headers : List (String × Given)) {sync? : Option Bool}
    (hsync : sync?.getD c.config.sync = false) :
    Outcome (fun _ d => c.Quiet d) (fun e d => e.isSending = true ∧ c.Quiet d)
      ((sendBody destination body headers sync? : ClientAction κ R Unit) c) := by
  unfold sendBody
  refine outcome_bind_protocol ⟨rfl, .refl c⟩ fun p => ?_
  exact Outcome.withFrame (quiet_sendFrame hc _ hsync)

theorem quiet_sendPrepared {c : Client κ R} (hc : c.transport.Unwatched) (f : Frame)
    (destination : Given) (headers : List (String × Given)) {sync? : Option Bool}
    (hsync : sync?.getD c.config.sync = false) :
    Outcome (fun _ q => c.Quiet q.2) (fun e q => e.isSending = true ∧ c.Quiet q.2)
      ((sendPrepared destination headers sync? : InHand (Error R) (Client κ R) Unit) (f, c)) := by
  unfold sendPrepared
  refine outcome_bind_beside_protocol ⟨rfl, .refl c⟩ fun p => ?_
  exact quiet_sendFrame hc ((f.add headers).set Name.destination destination) hsync

theorem outcome_sendFrame_of_sync {c : Client κ R} (hc : c.transport.Unwatched) (f : Frame)
    {sync? : Option Bool} (hsync : sync?.getD c.config.sync = true)
    {ok : Unit → Client κ R → Prop} {failed : Error R → Client κ R → Prop}
    (hfailed : ∀ e d, e.isSending = true → c.Quiet d → failed e d)
    (hwait : ∀ (d : Client κ R) limit steps, c.Quiet d →
      Outcome ok failed ((awaitReceipt c.ids.next.1 limit steps : ClientAction κ R Unit) d)) :
    Outcome (fun a q => ok a q.2) (fun e q => failed e q.2)
      ((sendFrame sync? : InHand (Error R) (Client κ R) Unit) (f, c)) := by
  have hids : c.Quiet { c with ids := c.ids.next.2 } := ⟨.refl _, rfl, rfl⟩
  have hwrite := quiet_writeFrame (c := { c with ids := c.ids.next.2 }) hc
    (f.set Name.receipt (.text c.ids.next.1))
  refine outcome_sendFrame_of_write ok failed c.Quiet hsync (hfailed _ c rfl (.refl c)) ?_ ?_ ?_
  · refine hwrite.mono (fun _ _ h => hids.trans h) fun e q h => ?_
    exact hfailed e q.2 (Error.isSending_of_isWriting h.1.isWriting) (hids.trans h.2)
  · exact fun d hd _ => hfailed _ d rfl hd
  · exact fun d _ hd _ => hwait d _ _ hd

end Client

end Stomp
