import Stomp.Proofs.Client.Call
import Stomp.Proofs.Client.Waiting

/-!
# The frames that a client hands over

Every frame that the parser of a client gives reaches the application once and in order, unless a
call ends with it: an ERROR frame is raised as an error, and the wait of a send ends with the first
RECEIPT frame. What a call takes from the parser is its share (`Share`); a share accounts for how
the call went (`Record.Accounts`), whether the call returned or failed.
-/

namespace Stomp

open Stomp.Action

variable {κ R : Type}

namespace Client

/-! ## Shares -/

/-- What a call takes from the parser. -/
structure Share where
  /-- The frames for the application. -/
  kept : List Frame := []
  /-- The result with which the call ends. -/
  last? : Option (Except Malformed Frame) := none

def Share.results (s : Share) : List (Except Malformed Frame) := s.kept.map .ok ++ s.last?.toList

/-- A result of the parser that is not kept determines how the call ends, and only a wait for a
receipt that comes to its end does not keep a frame. -/
inductive Ending (awaited? : Option String) :
    Option (Except Malformed Frame) → Except (Error R) Answer → Prop
  | returned (answer : Answer) : awaited? = none → Ending awaited? none (.ok answer)
  | failed {e : Error R} : e.isIncoming = false → Ending awaited? none (.error e)
  | reported {result : Except Malformed Frame} {e : Error R} :
      e.Reports result → Ending awaited? (some result) (.error e)
  | receipt {id : String} {f : Frame} :
      awaited? = some id → f.command = Verb.receipt → f.get? Name.receiptId = some (.text id) →
      Ending awaited? (some (.ok f)) (.ok .sent)
  | unexpected {id : String} {f : Frame} :
      awaited? = some id → f.command = Verb.receipt → f.get? Name.receiptId ≠ some (.text id) →
      Ending awaited? (some (.ok f))
        (.error (.command (.unexpectedFrame s!"Expected receipt id {id}." f)))

/-- How a call went is due to its share. -/
structure Record.Accounts (r : Record R) (s : Share) : Prop where
  ending : Ending r.awaited? s.last? r.result
  not_error : ∀ f ∈ s.kept, f.isError = false
  not_receipt : r.awaited? ≠ none → ∀ f ∈ s.kept, f.command ≠ Verb.receipt

variable [Channel κ R]

/-- From one client to a later one the share was taken from the parser, and the frames were handed
over. -/
structure Turn (c : Client κ R) (s : Share) (returned : List Frame) (d : Client κ R) : Prop where
  transport : c.transport.Advance s.results d.transport
  queue : returned ++ d.queue = c.queue ++ s.kept

/-- From one client to a later one frames were queued, none of them a RECEIPT frame. -/
def Queued (c d : Client κ R) : Prop :=
  ∃ kept, c.Turn { kept } [] d ∧ ∀ f ∈ kept, f.isError = false ∧ f.command ≠ Verb.receipt

/-- From one client to a later one the call went as recorded. -/
def Accounted (c : Client κ R) (r : Record R) (d : Client κ R) : Prop :=
  ∃ s, r.Accounts s ∧ c.Turn s r.returned?.toList d

section Turn

variable {c d e : Client κ R} {r : Record R} {s : Share} {kept returned : List Frame}

theorem Quiet.turn (h : c.Quiet d) : c.Turn {} [] d where
  transport := h.transport.advance
  queue := by simp [h.queue]

theorem Turn.after (hde : d.Turn s returned e) (hcd : c.Turn { kept } [] d) :
    c.Turn { s with kept := kept ++ s.kept } returned e where
  transport := by
    have h := hcd.transport.trans hde.transport
    simpa [Share.results, List.append_assoc] using h
  queue := by
    have hqueue : d.queue = c.queue ++ kept := hcd.queue
    rw [hde.queue, hqueue, List.append_assoc]

theorem Turn.unwatched (h : c.Turn s returned d) (hc : c.transport.Unwatched) :
    d.transport.Unwatched :=
  hc.of_eq h.transport.observers

theorem turn_of_last {f : Frame} {t : Transport κ R} (h : c.transport.Delivers (some f) t) :
    c.Turn { last? := some (.ok f) } [] { c with transport := t } :=
  ⟨h.advance, (List.append_nil _).symm⟩

theorem Quiet.queued (h : c.Quiet d) : c.Queued d := ⟨[], h.turn, fun _ h => nomatch h⟩

theorem queued_of_nothing {t : Transport κ R} (h : c.transport.Delivers none t) :
    c.Queued { c with transport := t } :=
  ⟨[], ⟨h.advance, (List.append_nil _).symm⟩, fun _ h => nomatch h⟩

theorem queued_of_other {f : Frame} {t : Transport κ R} (h : c.transport.Delivers (some f) t)
    (hother : f.command ≠ Verb.receipt) :
    c.Queued { c with transport := t, queue := c.queue ++ [f] } := by
  refine ⟨[f], ⟨h.advance, rfl⟩, ?_⟩
  intro g hg
  obtain rfl := List.mem_singleton.1 hg
  exact ⟨h.not_error g rfl, hother⟩

theorem Queued.trans (hcd : c.Queued d) (hde : d.Queued e) : c.Queued e := by
  obtain ⟨kept, hturn, hkept⟩ := hcd
  obtain ⟨more, hturn', hmore⟩ := hde
  refine ⟨kept ++ more, hturn'.after hturn, ?_⟩
  intro f hf
  exact (List.mem_append.1 hf).elim (hkept f) (hmore f)

theorem Queued.unwatched (h : c.Queued d) (hc : c.transport.Unwatched) :
    d.transport.Unwatched := by
  obtain ⟨kept, hturn, -⟩ := h
  exact hturn.unwatched hc

theorem Queued.accounted (hcd : c.Queued d) (hde : d.Accounted r e) : c.Accounted r e := by
  obtain ⟨kept, hqueued, hkept⟩ := hcd
  obtain ⟨s, haccounts, hturn⟩ := hde
  refine ⟨{ s with kept := kept ++ s.kept }, ⟨haccounts.ending, ?_, ?_⟩, hturn.after hqueued⟩
  · intro f hf
    exact (List.mem_append.1 hf).elim (fun h => (hkept f h).1) (haccounts.not_error f)
  · intro hawaited f hf
    exact (List.mem_append.1 hf).elim (fun h => (hkept f h).2) (haccounts.not_receipt hawaited f)

theorem Ending.accounted {last? : Option (Except Malformed Frame)}
    (h : Ending r.awaited? last? r.result) (hturn : c.Turn { last? } r.returned?.toList d) :
    c.Accounted r d :=
  ⟨{ last? }, ⟨h, by simp, by simp⟩, hturn⟩

theorem Quiet.accounted_of_failed (h : c.Quiet d) {awaited? : Option String} {e : Error R}
    (he : e.isSending = true) : c.Accounted ⟨awaited?, .error e⟩ d :=
  Ending.accounted (.failed (Error.not_isIncoming_of_isSending he)) h.turn

end Turn

theorem accounted_sent {c : Client κ R} {awaited? : Option String} {x : ClientAction κ R Unit}
    (hx : Outcome (fun _ d => c.Accounted ⟨awaited?, .ok .sent⟩ d)
      (fun e d => c.Accounted ⟨awaited?, .error e⟩ d) (x c)) :
    Outcome (fun answer d => c.Accounted ⟨awaited?, .ok answer⟩ d)
      (fun e d => c.Accounted ⟨awaited?, .error e⟩ d)
      ((do
        x
        return .sent : ClientAction κ R Answer) c) :=
  hx.bind (fun _ _ h => h) (fun _ _ h => h)

theorem accounts_of_delivers {t u : Transport κ R} {f? : Option Frame} (h : t.Delivers f? u)
    (answer : Answer) : (⟨none, .ok answer⟩ : Record R).Accounts { kept := f?.toList } where
  ending := .returned answer rfl
  not_error := by simpa using h.not_error
  not_receipt := fun h => absurd rfl h

theorem accounted_of_fails {c : Client κ R} {t : Transport κ R} {e : Error R}
    (h : c.transport.Fails e t) (awaited? : Option String) :
    c.Accounted ⟨awaited?, .error e⟩ { c with transport := t } := by
  have hqueue : [] ++ c.queue = c.queue ++ [] := (List.append_nil _).symm
  cases h with
  | reported hreports hadvance =>
      exact Ending.accounted (.reported hreports) ⟨hadvance, hqueue⟩
  | channel he hadvance =>
      have he : e.isIncoming = false :=
        Error.not_isIncoming_of_isSending (Error.isSending_of_isChannel he)
      exact Ending.accounted (.failed he) ⟨hadvance, hqueue⟩

/-! ## Waiting for a receipt -/

/-- The wait for a receipt ends with the first RECEIPT frame at the latest; the frames before it
are queued. -/
theorem wait_accounted {c : Client κ R} (hc : c.transport.Unwatched) (id : String) :
    Wait id c.Queued c.Queued (fun _ d => c.Accounted ⟨some id, .ok .sent⟩ d)
      (fun e d => c.Accounted ⟨some id, .error e⟩ d) where
  unwatched hd := hd.unwatched hc
  receipt hd hdelivers hreceipt hid :=
    hd.accounted (Ending.accounted (.receipt rfl hreceipt hid) (turn_of_last hdelivers))
  unexpected hd hdelivers hreceipt hid :=
    hd.accounted (Ending.accounted (.unexpected rfl hreceipt hid) (turn_of_last hdelivers))
  other hd hdelivers hother := hd.trans (queued_of_other hdelivers hother)
  nothing hd hdelivers := hd.trans (queued_of_nothing hdelivers)
  fails hd hfails := hd.accounted (accounted_of_fails hfails (some id))
  stalled hd := hd.accounted ((Quiet.refl _).accounted_of_failed rfl)
  again hd he := hd.trans he.queued
  ends hd he := by
    rintro (rfl | hx)
    · exact hd.accounted (Ending.accounted (.failed rfl) he.turn)
    · exact hd.accounted (he.accounted_of_failed hx)

variable [Scale R]

/-! ## Sends -/

theorem accounted_sendFrame {c : Client κ R} (hc : c.transport.Unwatched) (f : Frame)
    (sync? : Option Bool) :
    Outcome (fun _ q => c.Accounted ⟨c.receipt? sync?, .ok .sent⟩ q.2)
      (fun e q => c.Accounted ⟨c.receipt? sync?, .error e⟩ q.2)
      ((sendFrame sync? : InHand (Error R) (Client κ R) Unit) (f, c)) := by
  unfold receipt?
  cases hsync : sync?.getD c.config.sync with
  | true =>
      refine outcome_sendFrame_of_sync hc f hsync (fun e d he hd => hd.accounted_of_failed he) ?_
      intro d limit steps hd
      exact (wait_accounted hc c.ids.next.1).outcome hd.queued limit steps
  | false =>
      refine (quiet_sendFrame hc f hsync).mono ?_ ?_
      · exact fun _ _ h => Ending.accounted (.returned .sent rfl) h.turn
      · exact fun _ _ h => h.2.accounted_of_failed h.1

theorem accounted_sendBody {c : Client κ R} (hc : c.transport.Unwatched) (destination : Given)
    (body : Bytes) (headers : List (String × Given)) (sync? : Option Bool) :
    Outcome (fun _ d => c.Accounted ⟨c.receipt? sync?, .ok .sent⟩ d)
      (fun e d => c.Accounted ⟨c.receipt? sync?, .error e⟩ d)
      ((sendBody destination body headers sync? : ClientAction κ R Unit) c) := by
  unfold sendBody
  refine outcome_bind_protocol ((Quiet.refl c).accounted_of_failed rfl) fun p => ?_
  exact Outcome.withFrame (accounted_sendFrame hc _ sync?)

theorem accounted_sendPrepared {c : Client κ R} (hc : c.transport.Unwatched) (f : Frame)
    (destination : Given) (headers : List (String × Given)) (sync? : Option Bool) :
    Outcome (fun _ q => c.Accounted ⟨c.receipt? sync?, .ok .sent⟩ q.2)
      (fun e q => c.Accounted ⟨c.receipt? sync?, .error e⟩ q.2)
      ((sendPrepared destination headers sync? : InHand (Error R) (Client κ R) Unit) (f, c)) := by
  unfold sendPrepared
  refine outcome_bind_beside_protocol ((Quiet.refl c).accounted_of_failed rfl) fun p => ?_
  exact accounted_sendFrame hc ((f.add headers).set Name.destination destination) sync?

/-! ## Calls -/

theorem accounted_receive {c : Client κ R} (hc : c.transport.Unwatched)
    (awaited? : Option String) :
    Outcome (fun f? d => ∃ t, c.transport.Delivers f? t ∧ d = { c with transport := t })
      (fun e d => c.Accounted ⟨awaited?, .error e⟩ d)
      ((onTransport Transport.readFrame : ClientAction κ R (Option Frame)) c) := by
  refine (outcome_receive hc).mono (fun _ _ h => h) ?_
  rintro e d ⟨t, hfails, rfl⟩
  exact accounted_of_fails hfails awaited?

theorem accounted_readFrame {c : Client κ R} (hc : c.transport.Unwatched) :
    Outcome (fun f? d => c.Accounted ⟨none, .ok (.frame f?)⟩ d)
      (fun e d => c.Accounted ⟨none, .error e⟩ d)
      ((readFrame : ClientAction κ R (Option Frame)) c) := by
  unfold readFrame
  rw [get_bind]
  cases hqueue : c.queue with
  | cons f rest =>
      refine Ending.accounted (.returned _ rfl) ⟨.refl _, ?_⟩
      simp [Record.returned?, hqueue]
  | nil =>
      refine (accounted_receive hc none).mono ?_ (fun _ _ h => h)
      rintro f? d ⟨t, hdelivers, rfl⟩
      refine ⟨{ kept := f?.toList }, accounts_of_delivers hdelivers _, ?_, ?_⟩
      · simpa [Share.results] using hdelivers.advance
      · simp [Record.returned?, hqueue]

theorem accounted_canRead {c : Client κ R} (hc : c.transport.Unwatched)
    (timeout : Option (Quantity R)) :
    Outcome (fun ready d => c.Accounted ⟨none, .ok (.readable ready)⟩ d)
      (fun e d => c.Accounted ⟨none, .error e⟩ d)
      ((canRead timeout : ClientAction κ R Bool) c) := by
  unfold canRead
  rw [get_bind]
  split
  · exact Ending.accounted (.returned _ rfl) (Quiet.refl c).turn
  apply (accounted_receive hc none).bind (fun _ _ h => h)
  rintro f? d ⟨t, hdelivers, rfl⟩
  match f? with
  | some f => exact ⟨{ kept := [f] }, accounts_of_delivers hdelivers _, hdelivers.advance, rfl⟩
  | none =>
      have hqueued := queued_of_nothing hdelivers
      refine Outcome.on ((Transport.outcome_canRead timeout t).mono ?_ ?_)
      · rintro ready u ⟨-, hu⟩
        have hquiet : Quiet { c with transport := t } { c with transport := u } :=
          ⟨hu, rfl, rfl⟩
        exact hqueued.accounted (Ending.accounted (.returned _ rfl) hquiet.turn)
      · rintro e u ⟨he, hu⟩
        have hquiet : Quiet { c with transport := t } { c with transport := u } :=
          ⟨hu, rfl, rfl⟩
        exact hqueued.accounted (hquiet.accounted_of_failed (Error.isSending_of_isConnection he))

/-- How a call went is due to what it took from the parser. -/
theorem accounted_next {c : Client κ R} (hc : c.transport.Unwatched) (call : Call R) :
    c.Accounted (call.record c) (call.next c) := by
  apply outcome_result (P := fun result d => c.Accounted ⟨call.awaited? c, result⟩ d)
  cases call with
  | sendFrame f sync? => exact accounted_sent (Outcome.withFrame (accounted_sendFrame hc f sync?))
  | sendBody destination body headers sync? =>
      exact accounted_sent (accounted_sendBody hc destination body headers sync?)
  | sendPrepared f destination headers sync? =>
      exact accounted_sent
        (Outcome.withFrame (accounted_sendPrepared hc f destination headers sync?))
  | readFrame => exact (accounted_readFrame hc).bind (fun _ _ h => h) (fun _ _ h => h)
  | canRead timeout => exact (accounted_canRead hc timeout).bind (fun _ _ h => h) (fun _ _ h => h)

/-- Every frame that the parser gives reaches the application once and in order, through what
calls return and then through the queue; but an ERROR frame is raised instead, and the wait of a
send ends with the first RECEIPT frame. -/
theorem delivered_run {c : Client κ R} (hc : c.transport.Unwatched) (calls : List (Call R)) :
    ∃ shares, List.Forall₂ Record.Accounts (c.history calls) shares ∧
      returned (c.history calls) ++ (c.run calls).queue = c.queue ++ shares.flatMap Share.kept ∧
      c.transport.Advance (shares.flatMap Share.results) (c.run calls).transport := by
  induction calls generalizing c with
  | nil => exact ⟨[], .nil, by simp [history, returned, run], .refl _⟩
  | cons call calls ih =>
      obtain ⟨share, haccounts, hturn⟩ := accounted_next hc call
      obtain ⟨shares, hshares, hqueue, hadvance⟩ := ih (hturn.unwatched hc)
      refine ⟨share :: shares, .cons haccounts hshares, ?_, hturn.transport.trans hadvance⟩
      have hreturned : returned (c.history (call :: calls)) =
          (call.record c).returned?.toList ++ returned ((call.next c).history calls) := by
        simp only [history, returned, List.filterMap_cons]
        cases (call.record c).returned? <;> rfl
      calc returned (c.history (call :: calls)) ++ (c.run (call :: calls)).queue
          = (call.record c).returned?.toList ++
              (returned ((call.next c).history calls) ++ ((call.next c).run calls).queue) := by
            rw [hreturned, List.append_assoc]
            rfl
        _ = (call.record c).returned?.toList ++ (call.next c).queue ++
              shares.flatMap Share.kept := by
            rw [hqueue, List.append_assoc]
        _ = c.queue ++ (share :: shares).flatMap Share.kept := by
            rw [hturn.queue, List.append_assoc, List.flatMap_cons]

def chatter : List Bytes :=
  let message := Bytes.ofString "MESSAGE\nmessage-id:1\n\na\x00"
  [message.take 9, message.drop 9 ++ Bytes.ofString "ERROR\n\nno\x00MESSAGE\n\nb\x00"]

/-- The first message is found, the ERROR frame is raised, and both messages are handed over. -/
theorem delivered_run_chatter :
    let c := hearing chatter
    let calls : List (Call Rat) := [.canRead none, .sendFrame { command := "SEND" } none,
      .readFrame, .readFrame]
    (returned (c.history calls)).map Frame.body = [[97], [98]] ∧
    ∃ shares, List.Forall₂ Record.Accounts (c.history calls) shares ∧
      returned (c.history calls) ++ (c.run calls).queue = c.queue ++ shares.flatMap Share.kept ∧
      c.transport.Advance (shares.flatMap Share.results) (c.run calls).transport := by
  intro c calls
  have hc : c.transport.Unwatched := rfl
  refine ⟨?_, delivered_run hc calls⟩
  decide +kernel

end Client

end Stomp
