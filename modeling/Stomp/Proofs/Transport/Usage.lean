import Stomp.Proofs.Transport.Reading

/-!
# What a transport does with its channel

A transport that nobody watches does nothing with its channel but read, write and wait when it is
asked to. So a relation that the link keeps while it does these is kept by the transport whenever
it writes a frame (`keeps_writeFrame`) or reads one. One of them tells that the channel is not
closed, and that one waits for what is still to come (`Link.Proceeds`). What is kept by all that
reading is made of (`Receiving`) is kept by reading (`keeps_readFrame`), also where it is watched.
-/

namespace Stomp

open Stomp.Action

variable {κ R α : Type}

namespace Link

/-- A relation between earlier and later links that writing keeps. -/
class Written [Channel κ R] (q : Link κ R → Link κ R → Prop) : Prop extends Progress q where
  notify (l : Link κ R) (n : Notice R) : q l (l.notify n)
  write (data : Bytes) : Keeps q (write data : EStateM ConnectionFault (Link κ R) Unit)

/-- A relation that reading and writing keep. -/
class Used [Channel κ R] (q : Link κ R → Link κ R → Prop) : Prop extends Written q where
  read (limit : Nat) : Keeps q (read limit : EStateM ConnectionFault (Link κ R) Bytes)

theorem keeps_requireConnected [Channel κ R] (q : Link κ R → Link κ R → Prop) [Progress q] :
    Keeps q (requireConnected : EStateM ConnectionFault (Link κ R) Unit) :=
  fun l => (leaves_requireConnected l).mono fun _ h => h ▸ Progress.refl l

end Link

/-! ## The journal -/

/-- What is done with a channel without closing it; one waits for a time that is limited and still
to come. -/
def Traffic.Open [Scale R] : Traffic R → Prop
  | .canRead timeout => ∃ x, timeout = some (.real x) ∧ Scale.le x Scale.zero = false
  | .close | .failed .close => False
  | _ => True

namespace Link

variable [Scale R]

/-- The journal goes on, and the channel is not closed. -/
def Proceeds (l m : Link κ R) : Prop :=
  ∃ more, m.journal = l.journal ++ more ∧ ∀ t ∈ more, t.Open

instance : Progress (Proceeds : Link κ R → Link κ R → Prop) where
  refl _ := ⟨[], (List.append_nil _).symm, fun _ ht => nomatch ht⟩
  trans := by
    rintro l m n ⟨more, hm, hmore⟩ ⟨rest, hn, hrest⟩
    refine ⟨more ++ rest, ?_, ?_⟩
    · rw [hn, hm, List.append_assoc]
    · exact fun t ht => (List.mem_append.1 ht).elim (hmore t) (hrest t)

theorem proceeds_perform {op : Operation} {entry : α → Traffic R}
    {fault : String → ConnectionFault} {x : EStateM String κ α} (hentry : ∀ a, (entry a).Open)
    (hop : (Traffic.failed op : Traffic R).Open) : Keeps Proceeds (perform op entry fault x) := by
  intro l
  unfold perform
  cases x l.channel with
  | ok a c => exact ⟨[entry a], rfl, by simpa using hentry a⟩
  | error text c => exact ⟨[.failed op], rfl, by simpa using hop⟩

variable [Channel κ R]

instance : Used (Proceeds : Link κ R → Link κ R → Prop) where
  notify _ _ := ⟨[], (List.append_nil _).symm, fun _ ht => nomatch ht⟩
  write _ := proceeds_perform (fun _ => trivial) trivial
  read _ := (keeps_requireConnected Proceeds).bind fun _ =>
    proceeds_perform (fun _ => trivial) trivial

theorem proceeds_canRead {time : R} (htime : Scale.le time Scale.zero = false) :
    Keeps Proceeds
      (canRead (some (.real time)) : EStateM ConnectionFault (Link κ R) Bool) :=
  (keeps_requireConnected Proceeds).bind fun _ =>
    proceeds_perform (fun _ => ⟨time, rfl, htime⟩) trivial

end Link

/-! ## Transports -/

namespace Transport

def Private (q : Link κ R → Link κ R → Prop) (t u : Transport κ R) : Prop :=
  t.Unwatched → u.Unwatched ∧ q t.link u.link

variable {q : Link κ R → Link κ R → Prop}

instance [Progress q] : Progress (Private q) where
  refl t ht := ⟨ht, Progress.refl t.link⟩
  trans htu huv ht :=
    have hu := htu ht
    have hv := huv hu.1
    ⟨hv.1, Progress.trans hu.2 hv.2⟩

theorem Private.of_parsed [Progress q] {t u : Transport κ R}
    (hobservers : u.observers = t.observers) (hlink : u.link = t.link) : Private q t u := by
  intro ht
  rw [hlink]
  exact ⟨ht.of_eq hobservers, Progress.refl t.link⟩

theorem keeps_onLink {x : EStateM ConnectionFault (Link κ R) α} (hx : Keeps q x) :
    Keeps (Private q) (onLink x : EStateM (Error R) (Transport κ R) α) :=
  fun t => Outcome.mapError (Outcome.on ((hx t.link).mono fun _ hl ht => ⟨ht, hl⟩))

theorem keeps_renderFrame [Progress q] :
    Keeps (Beside (Private q)) (renderFrame : InHand (Error R) (Transport κ R) Frame) := by
  rintro ⟨f, t⟩
  unfold renderFrame
  dsimp only
  cases f.rendered <;> exact Progress.refl (r := Private q) t

section Writing

variable [Channel κ R] [Link.Written q]

theorem keeps_logNotice (n : Notice R) :
    Keeps (Private q) (logNotice n : EStateM (Error R) (Transport κ R) Unit) :=
  Keeps.modify fun t ht => ⟨ht, Link.Written.notify t.link n⟩

variable [Scale R]

omit [Link.Written q] in
theorem keeps_notify [Progress q] (e : Event) :
    Keeps (Private q) (notify e : EStateM (Error R) (Transport κ R) Unit) := by
  intro t
  by_cases ht : t.Unwatched
  · exact (outcome_notify_of_unwatched ht e).mono
      (fun _ u h => .of_parsed (by rw [h]) (by rw [h])) (fun _ _ h => h.elim)
  · exact leaves_iff.2 fun h => absurd h ht

theorem keeps_writeFrame :
    Keeps (Beside (Private q)) (writeFrame : InHand (Error R) (Transport κ R) Unit) := by
  unfold writeFrame
  apply (keeps_onLink (Link.keeps_requireConnected q)).beside.bind
  intro _
  apply Keeps.get.bind
  intro p
  apply (keeps_logNotice (.sending p.1)).beside.bind
  intro _
  apply keeps_renderFrame.bind
  intro g
  apply (keeps_onLink (Link.Written.write g.wire)).beside.bind
  intro _
  exact (keeps_notify (.sent g)).beside

end Writing

/-! ## Reading -/

/-- A relation that is kept by what reading is made of: bytes are read and parsed, notice is given
of anything but a frame that is sent, and the observers are told. -/
class Receiving [Scale R] [Channel κ R] (r : Transport κ R → Transport κ R → Prop) : Prop
    extends Progress r where
  onParser (t : Transport κ R) (p : Parser) : r t { t with parser := p }
  onNotice (t : Transport κ R) {n : Notice R} (h : n.sending? = none) :
    r t { t with link := t.link.notify n }
  notify (e : Event) : Keeps r (notify e : EStateM (Error R) (Transport κ R) Unit)
  read (limit : Nat) :
    Keeps r (onLink (Link.read limit) : EStateM (Error R) (Transport κ R) Bytes)

variable [Scale R] [Channel κ R]

instance [Link.Used q] : Receiving (Private q) where
  onParser _ _ := .of_parsed rfl rfl
  onNotice t n _ ht := ⟨ht, Link.Written.notify t.link n⟩
  notify := keeps_notify
  read limit := keeps_onLink (Link.Used.read limit)

section Receiving

variable {r : Transport κ R → Transport κ R → Prop} [Receiving r]

theorem keeps_setParser (p : Parser) :
    Keeps r (setParser p : EStateM (Error R) (Transport κ R) Unit) :=
  Keeps.modify fun t => Receiving.onParser t p

theorem keeps_notice {n : Notice R} (h : n.sending? = none) :
    Keeps r (logNotice n : EStateM (Error R) (Transport κ R) Unit) :=
  Keeps.modify fun t => Receiving.onNotice t h

theorem keeps_accept (f : Frame) :
    Keeps r (accept f : EStateM (Error R) (Transport κ R) Frame) := by
  unfold accept
  apply (keeps_notice rfl).bind
  intro _
  split
  · exact (Keeps.throw _).bind fun _ => Keeps.pure _
  · exact Keeps.pure _

theorem keeps_prepare : Keeps r (prepare : EStateM (Error R) (Transport κ R) Unit) := by
  unfold prepare
  apply Keeps.get.bind
  intro t
  dsimp only
  split
  · apply (keeps_setParser _).bind
    intro _
    split
    case' isTrue => refine (Receiving.notify .emptyLine).bind fun _ => ?_
    all_goals
      apply (keeps_setParser _).bind
      intro _
      split
      · exact keeps_notice rfl
      · exact Keeps.pure _
  · exact Keeps.pure _

theorem keeps_nextFrame :
    Keeps r (nextFrame : EStateM (Error R) (Transport κ R) (Option Frame)) := by
  unfold nextFrame
  apply Keeps.get.bind
  intro t
  dsimp only
  split
  · exact Keeps.pure _
  · apply keeps_prepare.bind
    intro _
    apply Keeps.get.bind
    intro t
    apply (keeps_setParser _).bind
    intro _
    split
    · exact Keeps.pure _
    · exact Keeps.throw _
    · exact (Receiving.notify _).bind fun _ => Keeps.pure _

theorem keeps_readFrameWithin (steps : Nat) (fed : Bool) :
    Keeps r
      (readFrameWithin steps fed : EStateM (Error R) (Transport κ R) (Option Frame)) := by
  induction steps generalizing fed with
  | zero => exact Keeps.throw _
  | succ steps ih =>
      have hfill : Keeps r (do
          let data ← onLink (Link.read readSize)
          if data.isEmpty then
            notify .emptyRead
            return none
          modify fun t => { t with parser := t.parser.feed data }
          readFrameWithin steps true :
            EStateM (Error R) (Transport κ R) (Option Frame)) := by
        apply (Receiving.read readSize).bind
        intro data
        have hfeed : Keeps r (do
            modify fun t => { t with parser := t.parser.feed data }
            readFrameWithin steps true :
              EStateM (Error R) (Transport κ R) (Option Frame)) :=
          Keeps.bind (Keeps.modify fun t => Receiving.onParser t _) fun _ => ih true
        split
        · exact (Receiving.notify .emptyRead).bind fun _ => Keeps.pure _
        · exact hfeed
      unfold readFrameWithin
      apply keeps_nextFrame.bind
      intro f?
      cases f? with
      | some f => exact (keeps_accept f).bind fun _ => Keeps.pure _
      | none =>
          dsimp only
          split
          · exact (Receiving.notify .emptyBuffer).bind fun _ => hfill
          · exact hfill

theorem keeps_readFrame :
    Keeps r (readFrame : EStateM (Error R) (Transport κ R) (Option Frame)) :=
  Keeps.get.bind fun _ => keeps_readFrameWithin _ _

end Receiving

end Transport

end Stomp
