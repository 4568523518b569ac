import Stomp.Channel.Script
import Stomp.Proofs.Parser.Telling
import Stomp.Proofs.Transport.Liveness

/-!
# What an observer is told

A transport that is watched by a recorder alone. An attempt at the next frame tells the recorder
what the attempt of the parser tells (`tells_nextFrame`), so that line ends and frames, which come
over the wire in one stream, are told apart and in order, however the stream is cut into chunks
(`told_of_stream`).
-/

namespace Stomp

open Stomp.Action

variable {κ R : Type}

theorem Observers.notify_recorder [Scale R] [Channel κ R] {os : Observers R} {name label : String}
    (hwatching : os.watching = [name]) (hknown : os.get? name = some (.recorder label)) (e : Event)
    (l : Link κ R) :
    (notify e : EStateM (Error R) (Observers R × Link κ R) Unit) (os, l) =
      .ok () (os, l.enter (.observed label e)) := by
  rw [notify_single hwatching]
  unfold tell
  rw [get_bind]
  dsimp only
  rw [hknown]
  rfl

namespace Transport

open Stomp.Parser (Idle coded stream streamEvents writable_coded)

variable {t u v : Transport κ R} {label : String} {p q : Parser} {events others : List Event}

/-- A recorder with this label is the only observer. -/
structure RecordedAs (t : Transport κ R) (label : String) : Prop where
  recorder : ∃ name, t.observers.watching = [name] ∧
    t.observers.get? name = some (.recorder label)

theorem RecordedAs.of_observers (ht : t.RecordedAs label) (hu : u.observers = t.observers) :
    u.RecordedAs label := by
  obtain ⟨name, hwatching, hknown⟩ := ht.recorder
  exact ⟨name, by rw [hu, hwatching], by rw [hu, hknown]⟩

/-- The parser became `p`, and the recorder was told of the events. -/
structure Tells (t : Transport κ R) (label : String) (p : Parser) (events : List Event)
    (u : Transport κ R) : Prop where
  parser : u.parser = p
  observers : u.observers = t.observers
  journal : u.link.journal = t.link.journal ++ events.map (.observed label)

theorem Tells.refl (t : Transport κ R) (label : String) : t.Tells label t.parser [] t :=
  ⟨rfl, rfl, (List.append_nil _).symm⟩

theorem Tells.trans (htu : t.Tells label p events u) (huv : u.Tells label q others v) :
    t.Tells label q (events ++ others) v where
  parser := huv.parser
  observers := huv.observers.trans htu.observers
  journal := by rw [huv.journal, htu.journal, List.map_append, List.append_assoc]

/-! ## One attempt -/

variable [Scale R] [Channel κ R]

theorem Tells.notify (ht : t.RecordedAs label) (hu : t.Tells label p events u) (e : Event) :
    Outcome (fun _ v => t.Tells label p (events ++ [e]) v) (fun _ _ => False)
      ((notify e : EStateM (Error R) (Transport κ R) Unit) u) := by
  obtain ⟨name, hwatching, hknown⟩ := (ht.of_observers hu.observers).recorder
  unfold Transport.notify
  apply Outcome.on
  rw [Observers.notify_recorder hwatching hknown]
  have htold : u.Tells label p [e] { u with link := u.link.enter (.observed label e) } :=
    ⟨hu.parser, rfl, rfl⟩
  exact hu.trans htold

theorem tells_nextFrame (ht : t.RecordedAs label) :
    Outcome
      (fun f? u => t.parser.next.1.result? = f?.map .ok ∧
        t.Tells label t.parser.next.2 t.parser.next.1.told u)
      (fun _ u => t.parser.next.1.result?.isSome = true ∧
        t.Tells label t.parser.next.2 t.parser.next.1.told u)
      ((nextFrame : EStateM (Error R) (Transport κ R) (Option Frame)) t) := by
  have hfollows : Follows fun p events (u : Transport κ R) => t.Tells label p events u :=
    { parser := fun hu => hu.parser
      setParser := fun q hu => ⟨rfl, hu.observers, hu.journal⟩
      ignored := fun value? hu => ⟨hu.parser, hu.observers, hu.journal⟩
      lineEnds := fun hu => hu.notify ht .emptyLine
      frame := fun f hu => hu.notify ht (.received f) }
  apply (hfollows.nextFrame (.refl t label)).mono (fun _ _ h => h)
  rintro e u ⟨fault, -, hresult, hu⟩
  exact ⟨hresult ▸ rfl, hu⟩

/-! ## Draining -/

/-- Attempts until one gives nothing, at most `steps` of them. A frame that is refused does not end
them. -/
def drainWithin : Nat → Transport κ R → Transport κ R
  | 0, t => t
  | steps + 1, t =>
    match (nextFrame : EStateM (Error R) (Transport κ R) (Option Frame)) t with
    | .ok none u => u
    | .ok (some _) u | .error _ u => drainWithin steps u

def fed (t : Transport κ R) (data : Bytes) : Transport κ R :=
  let u := { t with parser := t.parser.feed data }
  u.drainWithin (u.parser.buffer.length + 1)

/-- The transport when data has arrived in chunks and everything was read after each of them. -/
def fedAll (t : Transport κ R) (chunks : List Bytes) : Transport κ R := chunks.foldl fed t

theorem tells_drainWithin (ht : t.RecordedAs label) (steps : Nat) :
    t.Tells label (t.parser.drainWithin steps).2
      ((t.parser.drainWithin steps).1.flatMap Parser.Attempt.told) (t.drainWithin steps) := by
  induction steps generalizing t with
  | zero => exact .refl t label
  | succ steps ih =>
      have hmore {u : Transport κ R} (hsome : t.parser.next.1.result?.isSome = true)
          (hu : t.Tells label t.parser.next.2 t.parser.next.1.told u) :
          t.Tells label (t.parser.drainWithin (steps + 1)).2
            ((t.parser.drainWithin (steps + 1)).1.flatMap Parser.Attempt.told)
            (u.drainWithin steps) := by
        obtain ⟨result, hresult⟩ := Option.isSome_iff_exists.1 hsome
        have hrest := ih (ht.of_observers hu.observers)
        rw [hu.parser] at hrest
        simp only [Parser.drainWithin, hresult, List.flatMap_cons]
        exact hu.trans hrest
      have houtcome := tells_nextFrame ht
      rw [drainWithin]
      cases hnext : (nextFrame : EStateM (Error R) (Transport κ R) (Option Frame)) t with
      | error e u =>
          rw [hnext] at houtcome
          exact hmore houtcome.1 houtcome.2
      | ok f? u =>
          rw [hnext] at houtcome
          obtain ⟨hresult, hu⟩ := houtcome
          cases f? with
          | some f => exact hmore (hresult ▸ rfl) hu
          | none =>
              have hnone : t.parser.next.1.result? = none := hresult
              simp only [Parser.drainWithin, hnone, List.flatMap_singleton]
              exact hu

theorem tells_fed (ht : t.RecordedAs label) (data : Bytes) :
    t.Tells label (t.parser.receive data).2 (t.parser.feed data).told (t.fed data) := by
  have hdrained := tells_drainWithin (t := { t with parser := t.parser.feed data })
    (ht.of_observers rfl) ((t.parser.feed data).buffer.length + 1)
  exact ⟨hdrained.parser, hdrained.observers, hdrained.journal⟩

theorem tells_fedAll (ht : t.RecordedAs label) (chunks : List Bytes) :
    t.Tells label (t.parser.receiveAll chunks).2 (t.parser.toldAll chunks) (t.fedAll chunks) := by
  induction chunks generalizing t with
  | nil => exact .refl t label
  | cons chunk chunks ih =>
      have hfed := tells_fed ht chunk
      have hrest := ih (ht.of_observers hfed.observers)
      rw [hfed.parser] at hrest
      exact hfed.trans hrest

/-- Of a stream in one piece the recorder is told once of each run of line ends and NULs that is not
empty, and once of each frame, in the order in which they stand in the stream. If the stream comes
in chunks, it is told the same but for runs that were cut. -/
theorem told_of_stream (ht : t.RecordedAs label) (hnew : t.parser = {}) {run : Bytes}
    {items : List (Frame × Bytes)} (hframes : ∀ i ∈ items, i.1.Writable) (hrun : Idle run)
    (hruns : ∀ i ∈ items, Idle i.2) :
    ∃ received : List Frame, List.Forall₂ Frame.ReadsAs (items.map Prod.fst) received ∧
      let events := streamEvents run (received.zip (items.map Prod.snd))
      (t.fedAll [stream run items]).link.journal =
          t.link.journal ++ events.map (.observed label) ∧
        ∀ chunks : List Bytes, chunks.flatten = stream run items →
          ∃ told, (t.fedAll chunks).link.journal = t.link.journal ++ told.map (.observed label) ∧
            Event.merged told = events := by
  obtain ⟨received, hreads, htold⟩ := Parser.told_stream hframes hrun hruns
  refine ⟨received, hreads, ?_, fun chunks hchunks => ?_⟩
  · have hjournal := (tells_fedAll ht [stream run items]).journal
    rw [hnew, Parser.toldAll, Parser.toldAll, List.append_nil] at hjournal
    rw [hjournal, ← htold]
    rfl
  · refine ⟨_, (tells_fedAll ht chunks).journal, ?_⟩
    rw [hnew, Parser.merged_toldAll (Parser.settled_new false), hchunks,
      ← Parser.merged_streamEvents, ← htold]
    rfl

def recorded : Transport (Script Rat) Rat where
  link := { channel := { clock := 0, step := 0, readTimeout := (.whole 0, .whole 0) } }
  observers := { known := [("client", .recorder "client")], watching := ["client"] }

/-- Two frames with nothing between them, line ends before and after them. -/
theorem told_of_stream_coded :
    let run : Bytes := [10, 13]
    let items := [(coded, []), (coded, [0, 10])]
    ∃ received : List Frame, List.Forall₂ Frame.ReadsAs (items.map Prod.fst) received ∧
      let events := streamEvents run (received.zip (items.map Prod.snd))
      (recorded.fedAll [stream run items]).link.journal = events.map (.observed "client") ∧
        ∀ chunks : List Bytes, chunks.flatten = stream run items →
          ∃ told, (recorded.fedAll chunks).link.journal = told.map (.observed "client") ∧
            Event.merged told = events := by
  intro run items
  have hrecorded : recorded.RecordedAs "client" := ⟨"client", rfl, rfl⟩
  have hframes : ∀ i ∈ items, i.1.Writable := by simp [items, writable_coded]
  have hrun : Idle run := by simp [run, Idle]
  have hruns : ∀ i ∈ items, Idle i.2 := by simp [items, Idle]
  exact told_of_stream hrecorded rfl hframes hrun hruns

end Transport

end Stomp
