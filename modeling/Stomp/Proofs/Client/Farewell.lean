import Stomp.Proofs.Channel.Script
import Stomp.Proofs.Client.Holding
import Stomp.Proofs.Client.Negotiation
import Stomp.Proofs.Client.Termination
import Stomp.Proofs.Client.Usage
import Stomp.Proofs.Parser.MapRoundTrip

/-!
# Saying good-bye

A client that disconnects closes its channel once and starts anew, whether its good-bye comes
through or not (`parted_disconnect`). A good-bye with a receipt may be interrupted, though, by an
error that is none of the protocol or the connection. Then nothing is cleaned up, as for a client to
which a map comes with an integer of too many digits (`not_cleaned_overwhelmed`).
-/

namespace Stomp

open Stomp.Action

variable {κ R : Type}

/-! ## Closing -/

def Traffic.isClosing : Traffic R → Bool
  | .close | .failed .close => true
  | _ => false

namespace Link

def closings (l : Link κ R) : Nat := l.journal.countP Traffic.isClosing

theorem closings_enter (l : Link κ R) {t : Traffic R} (h : t.isClosing = true) :
    (l.enter t).closings = l.closings + 1 := by
  rw [closings, enter, List.countP_append, List.countP_singleton, if_pos h, closings]

theorem Proceeds.closings_eq [Scale R] {l m : Link κ R} (h : l.Proceeds m) :
    m.closings = l.closings := by
  obtain ⟨more, hjournal, hopen⟩ := h
  have hnone : more.countP Traffic.isClosing = 0 := by
    refine List.countP_eq_zero.2 fun t ht hclosing => ?_
    have htopen := hopen t ht
    unfold Traffic.isClosing at hclosing
    split at hclosing
    · exact htopen
    · exact htopen
    · cases hclosing
  rw [closings, hjournal, List.countP_append, hnone, closings, Nat.add_zero]

variable [Channel κ R]

theorem outcome_close (l : Link κ R) :
    Outcome (fun _ m => m.closings = l.closings + 1)
      (fun e m => (∃ reason, e = .notClosed reason) ∧ m.closings = l.closings + 1)
      ((close : EStateM ConnectionFault (Link κ R) Unit) l) := by
  unfold close perform
  cases (Channel.close : EStateM String κ Unit) l.channel with
  | ok a d => exact closings_enter { l with channel := d } rfl
  | error reason d => exact ⟨⟨reason, rfl⟩, closings_enter { l with channel := d } rfl⟩

end Link

namespace Transport

structure Closed (t u : Transport κ R) : Prop where
  closings : u.link.closings = t.link.closings + 1
  parser : u.parser = { legacy := t.parser.legacy }

variable [Channel κ R]

theorem outcome_close (t : Transport κ R) :
    Outcome (fun _ u => t.Closed u)
      (fun e u => (∃ reason, e = .connection (.notClosed reason)) ∧ t.Closed u)
      ((close : EStateM (Error R) (Transport κ R) Unit) t) := by
  have hlink : Outcome (fun _ u => u.link.closings = t.link.closings + 1 ∧ u.parser = t.parser)
      (fun e u => (∃ reason, e = .connection (.notClosed reason)) ∧
        u.link.closings = t.link.closings + 1 ∧ u.parser = t.parser)
      ((onLink Link.close : EStateM (Error R) (Transport κ R) Unit) t) := by
    refine Outcome.mapError (Outcome.on ((Link.outcome_close t.link).mono ?_ ?_))
    · exact fun _ _ h => ⟨h, rfl⟩
    · rintro e l ⟨⟨reason, rfl⟩, h⟩
      exact ⟨⟨reason, rfl⟩, h, rfl⟩
  have hdrop : ∀ u : Transport κ R,
      u.link.closings = t.link.closings + 1 → u.parser = t.parser →
      t.Closed { u with
        parser := u.parser.flush.2
        link := if u.parser.flush.1 = [] then u.link
          else u.link.notify (.dropped u.parser.flush.1.length) } := by
    intro u hclosings hparser
    refine ⟨?_, by rw [hparser]; rfl⟩
    dsimp only
    split <;> exact hclosings
  unfold close
  revert hlink
  dsimp only
  cases (onLink Link.close : EStateM (Error R) (Transport κ R) Unit) t with
  | ok a u => exact fun h => hdrop u h.1 h.2
  | error e u => exact fun h => ⟨h.1, hdrop u h.2.1 h.2.2⟩

end Transport

namespace Client

/-- What `c` is like when it has disconnected: its channel was closed once, and it is new but for
the form in which it reads. -/
structure Cleaned (c d : Client κ R) : Prop where
  closings : d.transport.link.closings = c.transport.link.closings + 1
  protocol : d.protocol? = none
  session : d.session = none
  queue : d.queue = []
  parser : d.transport.parser = { legacy := c.transport.parser.legacy }

/-- What a send leaves alone: the channel is not closed. -/
structure Sent (c d : Client κ R) : Prop where
  unwatched : d.transport.Unwatched
  closings : d.transport.link.closings = c.transport.link.closings
  protocol : d.protocol? = c.protocol?
  legacy : d.transport.parser.legacy = c.transport.parser.legacy

variable [Channel κ R] [Scale R]

/-- What interrupts a good-bye of `c` with a receipt, and leaves `d`: none of these is an error of
the protocol or the connection. -/
inductive Interrupts (c : Client κ R) (sync? : Option Bool) : Error R → Client κ R → Prop
  /-- After some frames, the parser gave this for what the channel brought. -/
  | digits {frames : List Frame} {n : Nat} {d : Client κ R} :
      sync?.getD c.config.sync = true →
      c.transport.Advance (frames.map .ok ++ [.error (.map (.json (.tooManyDigits n)))])
        d.transport →
      c.Interrupts sync? (.malformed (.map (.json (.tooManyDigits n)))) d
  | timeout {d : Client κ R} : sync?.getD c.config.sync = true →
      c.config.receiptTimeout.toScale? = none → c.Interrupts sync? .beyondScale d
  | stalled {d : Client κ R} : sync?.getD c.config.sync = true →
      ¬ Channel.IsMetered c.transport.link.channel → c.Interrupts sync? .stalled d

variable {c : Client κ R} {sync? : Option Bool}

theorem Interrupts.not_isOperational {e : Error R} {d : Client κ R}
    (h : c.Interrupts sync? e d) : e.isOperational = false := by
  cases h <;> rfl

omit [Scale R] in
theorem Accounted.exists_advance {awaited? : Option String} {fault : Malformed} {d : Client κ R}
    (h : c.Accounted ⟨awaited?, .error (.malformed fault)⟩ d) :
    ∃ frames : List Frame, c.transport.Advance (frames.map .ok ++ [.error fault]) d.transport := by
  obtain ⟨⟨kept, last?⟩, ⟨hending, -, -⟩, hturn⟩ := h
  cases hending with
  | failed hnot => cases hnot
  | reported hreports =>
      cases hreports
      exact ⟨kept, hturn.transport⟩

theorem Interrupts.of_isOverlong {e : Error R} {awaited? : Option String} {d : Client κ R}
    (hsync : sync?.getD c.config.sync = true) (he : e.isOverlong = true)
    (h : c.Accounted ⟨awaited?, .error e⟩ d) : c.Interrupts sync? e d := by
  obtain ⟨n, rfl⟩ := Error.exists_of_isOverlong he
  obtain ⟨frames, hadvance⟩ := h.exists_advance
  exact .digits hsync hadvance

omit [Scale R] in
theorem cleaned_finish {d : Client κ R} (hd : c.Sent d) {u : Transport κ R}
    (hu : d.transport.Closed u) :
    Outcome (fun _ d' => c.Cleaned d') (fun _ _ => False)
      ((disconnect.finish : ClientAction κ R Unit) { d with transport := u }) := by
  refine ⟨?_, rfl, rfl, rfl, ?_⟩
  · exact hu.closings.trans (by rw [hd.closings])
  · exact hu.parser.trans (by rw [hd.legacy])

omit [Scale R] in
/-- What follows the good-bye: the channel is closed, and the client is cleaned up even if the
channel fails to close. -/
theorem cleaned_close {d : Client κ R} (hd : c.Sent d) :
    Outcome (fun _ d' => c.Cleaned d') (fun e d' => e.isOperational = true ∧ c.Cleaned d')
      ((do
        match onTransport Transport.close (← get) with
        | .ok _ c =>
          set c
          disconnect.finish
        | .error e c =>
          set c
          disconnect.finish
          throw e : ClientAction κ R Unit) d) := by
  have hclose : Outcome
      (fun _ d' => ∃ u, d.transport.Closed u ∧ d' = { d with transport := u })
      (fun e d' => e.isOperational = true ∧
        ∃ u, d.transport.Closed u ∧ d' = { d with transport := u })
      ((onTransport Transport.close : ClientAction κ R Unit) d) := by
    refine Outcome.on ((Transport.outcome_close d.transport).mono ?_ ?_)
    · exact fun _ u hu => ⟨u, hu, rfl⟩
    · rintro e u ⟨⟨reason, rfl⟩, hu⟩
      exact ⟨rfl, u, hu, rfl⟩
  rw [get_bind]
  revert hclose
  cases (onTransport Transport.close : ClientAction κ R Unit) d with
  | ok a d' =>
      rintro ⟨u, hu, rfl⟩
      dsimp only
      rw [set_bind]
      exact (cleaned_finish hd hu).mono (fun _ _ h => h) (fun _ _ h => h.elim)
  | error e d' =>
      rintro ⟨he, u, hu, rfl⟩
      dsimp only
      rw [set_bind]
      exact (cleaned_finish hd hu).bind (fun _ _ h => h.elim) (fun _ _ h => ⟨he, h⟩)

/-- What is left when a good-bye of `c` fails with `e`. -/
structure Parted (c : Client κ R) (sync? : Option Bool) (e : Error R) (d : Client κ R) : Prop where
  cleaned_iff : c.Cleaned d ↔ ¬ c.Interrupts sync? e d
  kept : c.Interrupts sync? e d →
    d.transport.link.closings = c.transport.link.closings ∧ d.protocol? = c.protocol?

theorem Parted.of_cleaned {e : Error R} {d : Client κ R} (he : e.isOperational = true)
    (hd : c.Cleaned d) : c.Parted sync? e d := by
  have hnot : ¬ c.Interrupts sync? e d := fun h =>
    Bool.false_ne_true (h.not_isOperational.symm.trans he)
  exact ⟨⟨fun _ => hnot, fun _ => hd⟩, fun h => absurd h hnot⟩

theorem Parted.of_interrupted {e : Error R} {d : Client κ R} (he : c.Interrupts sync? e d)
    (hd : c.Sent d) : c.Parted sync? e d := by
  refine ⟨⟨fun h => ?_, fun hnot => absurd he hnot⟩, fun _ => ⟨hd.closings, hd.protocol⟩⟩
  have := h.closings
  have := hd.closings
  omega

/-! ## The good-bye -/

variable (hc : c.transport.Unwatched)

include hc

theorem sent_sendFrame (f : Frame) (sync? : Option Bool) :
    Leaves (fun q => c.Sent q.2)
      ((sendFrame sync? : InHand (Error R) (Client κ R) Unit) (f, c)) := by
  have hjournal := proceeds_sendFrame (κ := κ) (R := R) sync? (f, c)
  have hprotocol := keeps_sendFrame (SameProtocol : Client κ R → Client κ R → Prop) sync? (f, c)
  have hsent : ∀ {answer : Except (Error R) Answer} (q : Frame × Client κ R),
      c.Accounted ⟨c.receipt? sync?, answer⟩ q.2 →
      Beside (Private Link.Proceeds) (f, c) q ∧ Beside SameProtocol (f, c) q → c.Sent q.2 := by
    rintro answer q ⟨share, -, hturn⟩ ⟨hj, hp⟩
    obtain ⟨data, -, hgives⟩ := hturn.transport.parsed
    exact ⟨(hj hc).1, (hj hc).2.closings_eq, hp, hgives.legacy⟩
  exact ((accounted_sendFrame hc f sync?).and (hjournal.and hprotocol)).mono
    (fun _ q h => hsent q h.1 h.2) (fun _ q h => hsent q h.1 h.2)

theorem interrupts_awaitReceipt {d : Client κ R} (hd : c.Quiet d)
    (hsync : sync?.getD c.config.sync = true) (id : String) (limit : R) :
    Outcome (fun _ _ => True) (fun e d => e.isOperational = true ∨ c.Interrupts sync? e d)
      ((awaitReceipt id limit d.waitSteps : ClientAction κ R Unit) d) := by
  have hwatch := hc.of_eq hd.transport.observers
  have haccounted := (wait_accounted hc id).outcome hd.queued limit d.waitSteps
  -- A channel that does not keep its promises may keep the client waiting for ever.
  by_cases hmetered : Channel.IsMetered c.transport.link.channel
  · obtain ⟨usable, h, husable⟩ := hmetered
    have hleft := (h.of_served husable hd.transport.link.channel).1
    refine ((ends_awaitReceipt h hwatch hleft id limit).and haccounted).mono
      (fun _ _ _ => trivial) ?_
    exact fun e _ he => he.1.fault.imp_right fun hlong => .of_isOverlong hsync hlong he.2
  · refine (((receipt_stalls id limit).outcome hwatch).and haccounted).mono
      (fun _ _ _ => trivial) ?_
    rintro e d ⟨he | rfl, hd⟩
    · exact he.fault.imp_right fun hlong => .of_isOverlong hsync hlong hd
    · exact Or.inr (.stalled hsync hmetered)

/-- A frame that can be rendered fails to be sent for an error of the protocol or the connection, or
for what interrupts a wait. -/
theorem interrupts_sendFrame {f : Frame} (hf : ∃ g, f.rendered = .ok g) (sync? : Option Bool) :
    Outcome (fun _ _ => True) (fun e q => e.isOperational = true ∨ c.Interrupts sync? e q.2)
      ((sendFrame sync? : InHand (Error R) (Client κ R) Unit) (f, c)) := by
  cases hsync : sync?.getD c.config.sync with
  | false =>
      obtain ⟨g, hg⟩ := hf
      apply outcome_sendFrame_of_plain (fun _ _ => True)
        (fun e d => e.isOperational = true ∨ c.Interrupts sync? e d) hsync (Or.inl rfl)
      exact (quiet_writeFrame hc f).mono (fun _ _ _ => trivial)
        (fun e _ h => Or.inl (Error.isOperational_of_isConnection (h.1.isConnection hg)))
  | true =>
      obtain ⟨g, hg⟩ := Frame.exists_rendered_set hf Name.receipt (.text c.ids.next.1)
      apply outcome_sendFrame_of_write (fun _ _ => True)
        (fun e d => e.isOperational = true ∨ c.Interrupts sync? e d) c.Quiet hsync (Or.inl rfl)
      · have hids : c.Quiet { c with ids := c.ids.next.2 } := ⟨.refl _, rfl, rfl⟩
        exact (quiet_writeFrame (c := { c with ids := c.ids.next.2 }) hc _).mono
          (fun _ _ h => hids.trans h)
          (fun e _ h => Or.inl (Error.isOperational_of_isConnection (h.1.isConnection hg)))
      · exact fun d _ hnone => Or.inr (.timeout hsync hnone)
      · exact fun d time hd _ => interrupts_awaitReceipt hc hd hsync _ _

omit hc [Scale R] [Channel κ R] in
theorem exists_rendered_disconnect (p : Protocol) : ∃ g, p.disconnect.rendered = .ok g := by
  have hplain : ∃ g, (Command.frame Verb.disconnect p.version).rendered = .ok g := by
    cases p.version <;> exact ⟨_, rfl⟩
  exact Frame.exists_rendered_set hplain Name.clientId p.clientId

omit hc in
theorem outcome_disconnect_of_interrupted {p : Protocol} (hp : c.protocol? = some p)
    {sync? : Option Bool} {failed : Error R → Client κ R → Prop}
    (hsend : Outcome (fun _ _ => False) (fun e d => e.isOperational = false ∧ failed e d)
      ((withFrame p.disconnect (sendFrame sync?) : ClientAction κ R Unit) c)) :
    Outcome (fun _ _ => False) failed ((disconnect sync? : ClientAction κ R Unit) c) := by
  unfold disconnect
  rw [bind_of_ok (protocol_of_connected hp), get_bind]
  revert hsend
  dsimp only
  cases (withFrame p.disconnect (sendFrame sync?) : ClientAction κ R Unit) c with
  | ok a d => exact False.elim
  | error e d =>
      rintro ⟨he, hd⟩
      dsimp only
      rw [set_bind, if_neg (by simp [he])]
      exact hd

/-- A connected client that nobody watches is cleaned up when it has disconnected, unless its wait
for the receipt is interrupted. Then the channel is not closed, and the client is still
connected. -/
theorem parted_disconnect (hprotocol : c.protocol?.isSome) (sync? : Option Bool) :
    Outcome (fun _ d => c.Cleaned d) (c.Parted sync?)
      ((disconnect sync? : ClientAction κ R Unit) c) := by
  obtain ⟨p, hp⟩ := Option.isSome_iff_exists.1 hprotocol
  have hsend : Outcome (fun _ d => c.Sent d)
      (fun e d => (e.isOperational = true ∨ c.Interrupts sync? e d) ∧ c.Sent d)
      ((withFrame p.disconnect (sendFrame sync?) : ClientAction κ R Unit) c) := by
    have hrendered := exists_rendered_disconnect p
    have hsent := sent_sendFrame hc p.disconnect sync?
    apply Outcome.withFrame
    exact ((interrupts_sendFrame hc hrendered sync?).and hsent).mono
      (fun _ _ h => h.2) (fun _ _ h => h)
  unfold disconnect
  rw [bind_of_ok (protocol_of_connected hp), get_bind]
  revert hsend
  dsimp only
  cases (withFrame p.disconnect (sendFrame sync?) : ClientAction κ R Unit) c with
  | ok a d =>
      intro hd
      dsimp only
      rw [set_bind]
      exact (cleaned_close hd).mono (fun _ _ h => h) (fun _ _ h => .of_cleaned h.1 h.2)
  | error e d =>
      rintro ⟨he, hd⟩
      dsimp only
      rw [set_bind]
      split
      · have hnotified : Outcome (fun _ d' => c.Sent d') (fun _ _ => False)
            ((logNotice (.notDisconnected e) : ClientAction κ R Unit) d) :=
          ⟨hd.unwatched, hd.closings, hd.protocol, hd.legacy⟩
        apply hnotified.bind (fun _ _ h => h.elim)
        intro _ d' hd'
        exact (cleaned_close hd').mono (fun _ _ h => h) (fun _ _ h => .of_cleaned h.1 h.2)
      · rename_i hnot
        exact .of_interrupted (he.resolve_left hnot) hd

omit hc

/-- A client whose broker answers with an ERROR frame, and whose channel does not close. -/
def rebuffed : Client (Script Rat) Rat :=
  let c := hearing [Bytes.ofString "ERROR\n\nno\x00MESSAGE\n"]
  { c with transport.link.channel.failures := [(.close, "gone")] }

theorem parted_disconnect_rebuffed :
    (rebuffed.transport.Unwatched ∧ rebuffed.protocol?.isSome = true) ∧
      ∃ e d, (disconnect (some true) : ClientAction (Script Rat) Rat Unit) rebuffed = .error e d ∧
        rebuffed.Parted (some true) e d ∧ rebuffed.Cleaned d := by
  have hc : rebuffed.transport.Unwatched := rfl
  have hprotocol : rebuffed.protocol?.isSome = true := rfl
  have hfails : fails (fun e _ => e.isOperational)
      ((disconnect (some true) : ClientAction (Script Rat) Rat Unit) rebuffed) = true := by
    decide +kernel
  obtain ⟨e, d, hd, he⟩ := exists_of_fails hfails
  have hparted : rebuffed.Parted (some true) e d :=
    (parted_disconnect hc hprotocol (some true)).of_eq_error hd
  have hcleaned : rebuffed.Cleaned d :=
    hparted.cleaned_iff.2 fun h => Bool.false_ne_true (h.not_isOperational.symm.trans he)
  exact ⟨⟨hc, hprotocol⟩, e, d, hd, hparted, hcleaned⟩

/-- A map frame with an integer for a body. -/
def tally (n : Int) : Frame where
  command := "MESSAGE"
  headers := { entries := [("transformation", .text "jms-map-json")] }
  body := Utf8.encode (Numeral.write n)

theorem legible_tally (n : Int) : (tally n).Legible where
  command_ne := show "MESSAGE" ≠ "" by decide
  command_line := by
    show ∀ c ∈ "MESSAGE".toList, _
    rw [← List.forall_iff_forall_mem]
    decide
  command_head _ := show "MESSAGE".toList.head? ≠ some '\x00' by decide
  headers := by
    show ∀ e ∈ [("transformation", HeaderValue.text "jms-map-json")], _
    rw [List.forall_mem_singleton]
    exact Frame.legibleHeader_false (by decide) nofun

theorem announcesLength_tally (n : Int) : (tally n).announcesLength = false := by
  have hzero : (tally n).body.contains 0 = false := by
    simpa [tally] using Json.zero_not_mem_encode_of_printable (Json.printable_write n)
  rw [Frame.announcesLength, hzero, show (tally n).lengthHint = false from rfl, Bool.or_self,
    Bool.and_false]

theorem measured_tally (n : Int) : (tally n).Measured where
  length_stated h := nomatch h
  length_lt h := absurd ((announcesLength_tally n).symm.trans h) Bool.false_ne_true
  no_nul _ := Json.zero_not_mem_encode_of_printable (Json.printable_write n)

theorem frame_tally {n : Int} (h : 10 ^ Numeral.digitLimit ≤ n.natAbs) :
    (tally n).wireHead.frame (tally n).legacy (tally n).body =
      .error (.map (.json (.tooManyDigits (Numeral.digits n.natAbs).length))) :=
  Head.frame_wireHead_of_unreadable (legible_tally n) rfl (Json.readMap_overlong h)

theorem result?_next_tally {n : Int} (h : 10 ^ Numeral.digitLimit ≤ n.natAbs) :
    ({ buffer := (tally n).wire } : Parser).next.1.result? =
      some (.error (.map (.json (.tooManyDigits (Numeral.digits n.natAbs).length)))) := by
  have hnext :=
    (Parser.next_measured (legible_tally n) (measured_tally n) (List.forall_mem_nil _) []).1
  rw [List.nil_append, List.append_nil, frame_tally h] at hnext
  exact hnext

theorem length_wire_tally (n : Int) : (tally n).wire.length = (Numeral.write n).length + 38 := by
  have hbody : (tally n).body.length = (Numeral.write n).length :=
    Json.length_encode_of_printable (Json.printable_write n)
  have hhead : (Utf8.encode (tally n).headText).length = 35 := by
    rw [Frame.headText, Frame.wireHeaders, announcesLength_tally]
    show (Utf8.encode ("MESSAGE".toList ++ "\ntransformation:jms-map-json".toList)).length = _
    decide +kernel
  simp only [Frame.wire, List.length_append, List.length_cons, List.length_nil, hbody, hhead]
  omega

theorem disconnect_tally {n : Int} (h : 10 ^ Numeral.digitLimit ≤ n.natAbs)
    (hsize : (tally n).wire.length ≤ Transport.readSize) :
    let c := hearing [(tally n).wire]
    ∃ e d, (disconnect (some true) : ClientAction (Script Rat) Rat Unit) c = .error e d ∧
      e.isOverlong = true ∧ c.Sent d := by
  intro c
  have hs : Script.Prompt c.transport.link.channel := ⟨rfl, rfl, rfl⟩
  have hc : Holds c c.transport.link.channel {} [] := ⟨⟨rfl, rfl, rfl⟩, rfl⟩
  obtain ⟨p, hp⟩ : ∃ p, c.protocol? = some p := ⟨_, rfl⟩
  have hwait : ∀ d : Client (Script Rat) Rat, d.Holds c.transport.link.channel {} [] →
      Outcome (fun _ _ => False) (fun e _ => e.isOverlong = true)
        ((awaitReceipt c.ids.next.1 (Channel.now c.transport.link.channel + 2)
          (2 * Channel.patience c.transport.link.channel + ({} : Parser).buffer.length + 16) :
            ClientAction (Script Rat) Rat Unit) d) := by
    intro d hd
    have hincoming : c.transport.link.channel.incoming = [.data (tally n).wire] := rfl
    have hfinds := Transport.finds_of_arrival hd.transport hs.connected
      (hs.read_eq hincoming hsize) (result?_next_tally h)
    refine (awaitReceipt_of_malformed hd hfinds _ _ _).mono (fun _ _ h => h) ?_
    rintro e d ⟨rfl, -⟩
    rfl
  have hreceipt : Outcome (fun _ _ => False) (fun e _ => e.isOverlong = true)
      ((withFrame p.disconnect (sendFrame (some true)) : ClientAction (Script Rat) Rat Unit) c) :=
    outcome_sendFrame_of_wait hc (Option.isSome_of_eq_some hp) hs.connected hs.write_eq
      (exists_rendered_disconnect p) rfl rfl hwait
  have hwatch : c.transport.Unwatched := rfl
  have hsent := Outcome.withFrame (sent_sendFrame hwatch p.disconnect (some true))
  have hsend := (hreceipt.and hsent).mono (fun _ _ h => h.1) fun e _ h =>
    (⟨Error.not_isOperational_of_isOverlong h.1, h⟩ : e.isOperational = false ∧ _)
  exact (outcome_disconnect_of_interrupted hp hsend).exists_error (fun _ _ h => h)

def overwhelmed : Client (Script Rat) Rat := hearing [(tally (10 ^ Numeral.digitLimit : Nat)).wire]

theorem not_cleaned_overwhelmed :
    ∃ e d, (disconnect (some true) : ClientAction (Script Rat) Rat Unit) overwhelmed = .error e d ∧
      e.isOperational = false ∧ d.transport.link.closings = 0 ∧ d.protocol?.isSome = true ∧
      ¬ overwhelmed.Cleaned d := by
  have hmany : 10 ^ Numeral.digitLimit ≤ ((10 ^ Numeral.digitLimit : Nat) : Int).natAbs := le_refl _
  have hdigits : (Numeral.digits (10 ^ Numeral.digitLimit)).length ≤ Numeral.digitLimit + 1 :=
    (Nat.length_toDigits_le_iff (by omega) (by decide)).2
      (Nat.pow_lt_pow_right (by decide) (Nat.lt_succ_self _))
  have hsize : (tally (10 ^ Numeral.digitLimit : Nat)).wire.length ≤ Transport.readSize := by
    rw [length_wire_tally, Numeral.write, if_neg (Int.not_lt.2 (Int.natCast_nonneg _)),
      Int.natAbs_natCast]
    exact (Nat.add_le_add_right hdigits 38).trans (by decide)
  obtain ⟨e, d, hd, he, hsent⟩ := disconnect_tally hmany hsize
  have hclosings : overwhelmed.transport.link.closings = 0 := rfl
  have hprotocol : overwhelmed.protocol?.isSome = true := rfl
  have hleft : overwhelmed.Sent d := hsent
  rw [← hleft.closings] at hclosings
  rw [← hleft.protocol] at hprotocol
  refine ⟨e, d, hd, Error.not_isOperational_of_isOverlong he, hclosings, hprotocol, fun h => ?_⟩
  rw [h.protocol] at hprotocol
  exact Bool.false_ne_true hprotocol

end Client

end Stomp
