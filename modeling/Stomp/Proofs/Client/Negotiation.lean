import Stomp.Proofs.Client.Backlog
import Stomp.Proofs.Client.Delivery
import Stomp.Proofs.Client.Greeting
import Stomp.Proofs.Client.Routine
import Stomp.Proofs.Parser.Received

/-!
# The version of a connection

A new client reads the answer of the broker in the legacy form, and what follows it in the form of
the version that the answer tells. The switch falls between the two frames, wherever the reads of
the channel cut them (`negotiated_connect`).
-/

namespace Stomp

open Stomp.Action

variable {R : Type}

/-! ## Listening -/

namespace Transport

/-- The parser goes on as if it had just been fed with what was read meanwhile. -/
structure Hears (t : Transport (Script R) R) (data : Bytes) (u : Transport (Script R) R) :
    Prop where
  observers : u.observers = t.observers
  plays : t.link.channel.Plays data u.link.channel
  parser : t.parser.Awaits data u.parser
  readable : data ≠ [] → t.link.channel.Readable

variable {t u v : Transport (Script R) R} {data more : Bytes} {chunks : List Bytes}

theorem Hears.trans (htu : t.Hears data u) (huv : u.Hears more v) : t.Hears (data ++ more) v where
  observers := huv.observers.trans htu.observers
  plays := htu.plays.trans huv.plays
  parser := htu.parser.trans huv.parser
  readable h := by
    by_cases hdata : data = []
    · rw [hdata, List.nil_append] at h
      exact htu.plays.readable_iff.1 (huv.readable h)
    · exact htu.readable hdata

variable [Scale R]

theorem Filled.hears (h : t.Filled chunks u) : t.Hears chunks.flatten u where
  observers := h.observers
  plays := Script.plays_of_served h.channel.served
  parser := h.parser
  readable hdata := by
    apply Script.readable_of_pours h.channel
    rintro rfl
    exact hdata rfl

theorem Brings.hears (h : t.Brings [] u) : t.Hears [] u where
  observers := h.observers
  plays := Script.plays_of_served h.link.channel
  parser := h.parser ▸ .refl _
  readable h := absurd rfl h

end Transport

namespace Client

variable [Scale R]

/-- The wait for the answer ends with the first frame of all that is read. -/
structure Answered (t : Transport (Script R) R) (f : Frame) (u : Transport (Script R) R) :
    Prop where
  observers : u.observers = t.observers
  readable : t.link.channel.Readable
  parsed : ∃ data, t.link.channel.Plays data u.link.channel ∧
    (t.parser.feed data).next.1.result? = some (.ok f) ∧
    u.parser = (t.parser.feed data).next.2

theorem greeting_hears {t : Transport (Script R) R} (ht : t.Unwatched)
    (hnew : t.parser.next.1.result? = none) (limit : R) (late : Error R) :
    Greeting limit late (fun _ u => ∃ data, t.Hears data u) (fun _ u => ∃ data, t.Hears data u)
      (Answered t) (fun _ _ => True) where
  unwatched := by
    rintro _ u ⟨data, hu⟩
    exact ht.of_eq hu.observers
  stalled _ := trivial
  connected := by
    rintro n steps u f v ⟨data, hu⟩ hsearch -
    cases hsearch with
    | @found chunks _ w _ hfilled hresult _ htook =>
        have hw := hu.trans hfilled.hears
        have hfed := hw.parser.result?_next.symm.trans hresult
        refine ⟨htook.observers.trans hw.observers, hw.readable ?_, _, ?_, hfed, ?_⟩
        · intro hnil
          rw [hnil, Parser.feed_nil, hnew] at hfed
          cases hfed
        · rw [htook.channel]
          exact hw.plays
        · rw [htook.parser]
          exact hw.parser.snd_next
  unexpected _ _ := trivial
  nothing := by
    rintro n steps u v ⟨data, hu⟩ hsearch
    cases hsearch with
    | @nothing chunks w _ hfilled _ _ hv => exact ⟨_, (hu.trans hfilled.hears).trans hv.hears⟩
  fails _ _ := trivial
  tooLate _ _ := trivial
  waited := by
    rintro n ready u v ⟨data, hu⟩ - - hv
    exact ⟨_, hu.trans hv.hears⟩
  cut _ _ _ := trivial

/-! ## Reading to the end -/

structure Listening (c : Client (Script R) R) : Prop where
  unwatched : c.transport.Unwatched
  queue : c.queue = []
  streams : c.transport.link.channel.Streams
  readable : c.transport.link.channel.Readable

/-- What the parser makes of the bytes that it holds and that are still to come. -/
def pending (c : Client (Script R) R) : List (Except Malformed Frame) :=
  (c.transport.parser.receive c.transport.link.channel.remaining).1

/-- A read took the first result of those that are pending, or found that there is none. -/
def Reads (c : Client (Script R) R) (result : Except (Error R) (Option Frame))
    (d : Client (Script R) R) : Prop :=
  d.Listening ∧ ((∃ first, result = reading first ∧ c.pending = first :: d.pending) ∨
    result = .ok none ∧ c.pending = [])

theorem reads_of_taken {c : Client (Script R) R} (hc : c.Listening) {chunks : List Bytes}
    {first : Except Malformed Frame} {t u : Transport (Script R) R}
    (ht : c.transport.Filled chunks t) (hfirst : t.parser.next.1.result? = some first)
    (hu : t.Took first u) : c.Reads (reading first) { c with transport := u } := by
  have hplays : c.transport.link.channel.Plays chunks.flatten u.link.channel :=
    hu.channel ▸ ht.hears.plays
  refine ⟨⟨hc.unwatched.of_eq (hu.observers.trans ht.observers), hc.queue,
    hplays.streams hc.streams, hplays.readable_iff.2 hc.readable⟩, Or.inl ⟨first, rfl, ?_⟩⟩
  rw [pending, hplays.remaining, ht.parser.receive_of_some hfirst, pending, hu.parser]

theorem reads_of_search {c : Client (Script R) R} (hc : c.Listening)
    {result : Except (Error R) (Option Frame)} {t : Transport (Script R) R}
    (h : c.transport.Search (Channel.patience c.transport.link.channel + 2) result t) :
    c.Reads result { c with transport := t } := by
  cases h with
  | found hfilled hfirst hf hu =>
      rw [← reading_of_frame hf]
      exact reads_of_taken hc hfilled hfirst hu
  | reported hfilled hfirst he hu =>
      rw [← reading_of_reports he]
      exact reads_of_taken hc hfilled hfirst hu
  | @nothing chunks u _ hfilled hsettled hbrought hu =>
      have hplays := hfilled.hears.plays
      have hplays' := hplays.trans hu.hears.plays
      refine ⟨⟨hc.unwatched.of_eq (hu.observers.trans hfilled.observers), hc.queue,
        hplays'.streams hc.streams, hplays'.readable_iff.2 hc.readable⟩, Or.inr ⟨rfl, ?_⟩⟩
      have hend : u.link.channel.incoming = [] := by
        have htook := Script.took_of_read hbrought.read
        rcases htook.ends rfl (hplays.streams hc.streams) with hend | hzero
        · exact hend
        · exact absurd hzero (by decide)
      have hremaining : u.link.channel.remaining = [] := by
        rw [Script.remaining, hend, List.flatMap_nil]
      rw [pending, hplays.remaining, hremaining, List.append_nil, hfilled.parser.drained,
        Parser.drained_of_settled hsettled]
  | unread hfilled _ hunread _ =>
      have hplays := hfilled.hears.plays
      have hreadable := hplays.readable_iff.2 hc.readable
      exact absurd hunread ((hplays.streams hc.streams).not_unread hreadable)
  | stalled hfilled hsteps =>
      have hpatient : Channel.Patient fun _ : Script R => True := Script.patient fun _ h => h
      have := hpatient.length_add_le trivial hfilled.channel
      omega

theorem outcome_readFrame {c : Client (Script R) R} (hc : c.Listening) :
    Outcome (fun f? d => c.Reads (.ok f?) d) (fun e d => c.Reads (.error e) d)
      ((readFrame : ClientAction (Script R) R (Option Frame)) c) := by
  unfold readFrame
  rw [get_bind, hc.queue]
  exact Outcome.on ((Transport.search_readFrame hc.unwatched).mono
    (fun _ _ h => reads_of_search hc h) (fun _ _ h => reads_of_search hc h))

theorem reads_next {c : Client (Script R) R} (hc : c.Listening) :
    ∃ result, (Call.readFrame.record c).result = Except.map .frame result ∧
      c.Reads result (Call.readFrame.next c) := by
  apply outcome_result (P := fun answer d => ∃ result, answer = Except.map Answer.frame result ∧
    c.Reads result d)
  apply (outcome_readFrame hc).bind
  · exact fun e d h => ⟨.error e, rfl, h⟩
  · exact fun f? d h => ⟨.ok f?, rfl, h⟩

/-- Reading until nothing is found hands over all that is pending. -/
theorem history_readFrame {c : Client (Script R) R} (hc : c.Listening) :
    (c.history (List.replicate (c.pending.length + 1) .readFrame)).map Record.result =
      c.pending.map (fun r => Except.map .frame (reading r)) ++ [.ok (.frame none)] := by
  induction hpending : c.pending generalizing c with
  | nil =>
      obtain ⟨result, hresult, -, ⟨first, -, hfirst⟩ | ⟨rfl, -⟩⟩ := reads_next hc
      · cases hpending.symm.trans hfirst
      · rw [List.length_nil, List.replicate_one, history, List.map_cons, hresult]
        rfl
  | cons first rest ih =>
      obtain ⟨result, hresult, hd, ⟨first', rfl, hfirst⟩ | ⟨-, hnone⟩⟩ := reads_next hc
      · obtain ⟨rfl, hrest⟩ := List.cons.inj (hpending.symm.trans hfirst)
        have hlater := ih hd hrest.symm
        rw [List.length_cons, List.replicate_succ, history, List.map_cons, hresult, hlater]
        rfl
      · cases hpending.symm.trans hnone

/-! ## The version -/

theorem legacy_run {κ : Type} [Channel κ R] {c : Client κ R} (hc : c.transport.Unwatched)
    (calls : List (Call R)) :
    (c.run calls).transport.parser.legacy = c.transport.parser.legacy := by
  induction calls generalizing c with
  | nil => rfl
  | cons call calls ih =>
      obtain ⟨share, -, hturn⟩ := accounted_next hc call
      obtain ⟨data, -, hgives⟩ := hturn.transport.parsed
      exact (ih (hturn.unwatched hc)).trans hgives.legacy

theorem after_connect {κ : Type} [Channel κ R] {c : Client κ R} (hc : c.protocol?.isSome) :
    Action.after (connect : ClientAction κ R Unit) c = c := by
  unfold Action.after connect
  rw [get_bind]
  dsimp only
  rw [if_pos hc]
  rfl

structure Fresh {κ : Type} (c : Client κ R) : Prop where
  protocol : c.protocol? = none
  queue : c.queue = []
  parser : c.transport.parser = {}
  unwatched : c.transport.Unwatched

/-- The client `d` came of `c` by connecting. It has taken up the protocol that `f` tells, which
was read of the bytes in front, and goes on with the rest. -/
structure Negotiated (c d : Client (Script R) R) (p : Protocol) (f : Frame) (front rest : Bytes) :
    Prop where
  protocol : d.protocol? = some p
  offered : ∃ o ∈ c.config.versions, Version.ofOffer? o = some p.version
  bytes : c.transport.link.channel.remaining = front ++ rest
  /-- A parser in the legacy form makes the answer of the bytes in front, and nothing is left. -/
  answer : ({ legacy := true, buffer := front } : Parser).next.1.result? = some (.ok f) ∧
    ({ legacy := true, buffer := front } : Parser).next.2 = { legacy := true }
  connected : f.command = Verb.connected
  legacy : f.legacy = true
  version : Command.negotiated? f = some p.version
  /-- Whatever is done with the client, it stays with the version. -/
  kept (calls : List (Call R)) : (d.run calls).protocol? = some p ∧
    (d.run calls).transport.parser.legacy = p.version.isLegacy ∧
    Action.after (connect : ClientAction (Script R) R Unit) (d.run calls) = d.run calls
  /-- What is read till nothing more comes, is what a new parser makes of the rest in one piece. -/
  reads : let results := (({ legacy := p.version.isLegacy } : Parser).receive rest).1
    (d.history (List.replicate (results.length + 1) .readFrame)).map Record.result =
      results.map (fun r => Except.map .frame (reading r)) ++ [.ok (.frame none)]

/-- A new client that connects over a script of data takes up a version that it offered. It has read
the answer in the legacy form, and reads all that comes after it in the form of the version. -/
theorem negotiated_connect {c d : Client (Script R) R} (hc : c.Fresh)
    (hs : c.transport.link.channel.Streams)
    (h : (connect : ClientAction (Script R) R Unit) c = .ok () d) :
    ∃ p f front rest, c.Negotiated d p f front rest := by
  have hgreeting : c.greeting.parser = { legacy := true } := by rw [greeting, hc.parser]
  have hwatch : Transport.Unwatched c.greeting := hc.unwatched
  have hnone : c.greeting.parser.next.1.result? = none := by
    rw [hgreeting]
    rfl
  have hconnect := outcome_connect hc.protocol (fun f _ => Transport.brings_writeFrame hwatch f)
    fun t _ ht _ => (greeting_hears hwatch hnone _ _).outcome ⟨[], ht.hears⟩
  rw [h] at hconnect
  obtain ⟨f, t, p, u, hanswer, hcommand, htells, htuned, rfl⟩ := hconnect
  obtain ⟨data, hplays, hresult, hleft⟩ := hanswer.parsed
  rw [hgreeting] at hresult hleft
  obtain ⟨front, buffered, rfl, hafter, hfront, hnew⟩ := Parser.exists_front hresult
  have hleft : t.parser = { legacy := true, buffer := buffered } := hleft.trans hafter
  have hparser : u.parser = { legacy := p.version.isLegacy, buffer := buffered } := by
    rw [htuned.parser, hleft]
    cases p.version.isLegacy <;> rfl
  have hobservers : u.observers = c.transport.observers :=
    htuned.observers.trans hanswer.observers
  have hchannel : c.transport.link.channel.Plays (front ++ buffered) u.link.channel :=
    htuned.channel ▸ hplays
  have hlistening : (c.settled f p u).Listening :=
    ⟨hc.unwatched.of_eq hobservers, hc.queue, hchannel.streams hs,
      hchannel.readable_iff.2 hanswer.readable⟩
  refine ⟨p, f, front, buffered ++ u.link.channel.remaining, rfl, htells.offered, ?_,
    ⟨hfront, hnew⟩, hcommand, Parser.legacy_of_next hfront, htells.negotiated, fun calls => ?_, ?_⟩
  · rw [hchannel.remaining, List.append_assoc]
  · have hprotocol : ((c.settled f p u).run calls).protocol? = some p :=
      keeps_run SameProtocol (c.settled f p u) calls
    refine ⟨hprotocol, ?_, after_connect (by rw [hprotocol]; rfl)⟩
    rw [legacy_run hlistening.unwatched]
    exact congrArg Parser.legacy hparser
  · have hpending : (c.settled f p u).pending =
        (({ legacy := p.version.isLegacy } : Parser).receive
          (buffered ++ u.link.channel.remaining)).1 := by
      rw [pending, Parser.receive, Parser.receive, ← Parser.feed_feed]
      exact congrArg (fun q => (Parser.drained (Parser.feed q u.link.channel.remaining)).1) hparser
    have hhistory := history_readFrame hlistening
    rw [hpending] at hhistory
    exact hhistory

/-- An answer in two pieces; the later one goes on with NULs, an escaped value and an error. -/
def newcomer : Client (Script Rat) Rat :=
  { hearing [Bytes.ofString "CONNECTED\nversi", Bytes.ofString
      "on:1.1\n\n\x00\x00\nMESSAGE\nk:a\\nb\n\nx\x00ERROR\n\n\x00"] with protocol? := none }

theorem negotiated_connect_newcomer :
    ∃ d p f front rest, (connect : ClientAction (Script Rat) Rat Unit) newcomer = .ok () d ∧
      newcomer.Negotiated d p f front rest := by
  have hc : newcomer.Fresh := ⟨rfl, rfl, rfl, rfl⟩
  have hs : newcomer.transport.link.channel.Streams := by
    intro a ha
    obtain ⟨bytes, hbytes, rfl⟩ := List.mem_map.1 ha
    refine ⟨bytes, rfl, ?_⟩
    rintro rfl
    revert hbytes
    decide
  have hreturns : returns (fun _ _ => true)
      ((connect : ClientAction (Script Rat) Rat Unit) newcomer) = true := by
    decide +kernel
  obtain ⟨a, d, hd, -⟩ := exists_of_returns hreturns
  obtain ⟨p, f, front, rest, h⟩ := negotiated_connect hc hs hd
  exact ⟨d, p, f, front, rest, hd, h⟩

end Client

end Stomp
