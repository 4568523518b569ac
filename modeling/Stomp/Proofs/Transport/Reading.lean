import Stomp.Proofs.Channel.Served
import Stomp.Proofs.Link.Outgoing
import Stomp.Proofs.Transport.Attempt

/-!
# Reading frames over a link

A transport that nobody watches reads as its parser does: an attempt at the next frame is one of
the parser (`outcome_nextFrame`), and a result that the parser has ready is delivered without a look
at the channel (`outcome_readFrame_of_some`). Otherwise the channel is read until there is one or no
more data comes (`outcome_readFrameWithin`). Whatever the transport does, the parser has given the
results that stand in the data of the channel, in order, and each frame among them was announced
(`Advance`).
-/

namespace Stomp

open Stomp.Action

variable {κ R α : Type}

def Notice.received? : Notice R → Option Frame
  | .received f => some f
  | _ => none

namespace Error

def isConnection : Error R → Bool
  | .connection _ => true
  | _ => false

def isChannel : Error R → Bool
  | .connection _ | .stalled => true
  | _ => false

theorem isChannel_of_isConnection {e : Error R} (h : e.isConnection = true) :
    e.isChannel = true := by
  cases e with
  | connection fault => rfl
  | _ => cases h

/-- The error is how a result of the parser is reported. -/
inductive Reports : Error R → Except Malformed Frame → Prop
  | malformed (fault : Malformed) : Reports (.malformed fault) (.error fault)
  | broker {f : Frame} : f.isError = true → Reports (.broker f) (.ok f)

end Error

/-! ## Links -/

namespace Link

def received (l : Link κ R) : List Frame := l.notices.filterMap Notice.received?

theorem received_notify (l : Link κ R) (n : Notice R) :
    (l.notify n).received = l.received ++ n.received?.toList := by
  simp only [received, notify, List.filterMap_append]
  cases h : n.received? <;> simp [h]

variable [Channel κ R]

/-- The channel of the link brought the bytes, and no frame was made of them yet. -/
structure Serves (l : Link κ R) (data : Bytes) (m : Link κ R) : Prop where
  channel : Channel.Served l.channel data m.channel
  received : m.received = l.received

theorem Serves.refl (l : Link κ R) : l.Serves [] l := ⟨.refl _, rfl⟩

theorem Serves.trans {l m n : Link κ R} {data more : Bytes} (hlm : l.Serves data m)
    (hmn : m.Serves more n) : l.Serves (data ++ more) n :=
  ⟨hlm.channel.trans hmn.channel, hmn.received.trans hlm.received⟩

theorem outcome_requireConnected (l : Link κ R) :
    Outcome (fun _ m => Channel.isConnected l.channel = true ∧ l = m)
      (fun _ m => Channel.isConnected l.channel = false ∧ l = m)
      ((requireConnected : EStateM ConnectionFault (Link κ R) Unit) l) := by
  unfold requireConnected
  split
  · rename_i h
    exact ⟨h, rfl⟩
  · rename_i h
    exact ⟨by simpa using h, rfl⟩

theorem leaves_requireConnected (l : Link κ R) :
    Leaves (l = ·) ((requireConnected : EStateM ConnectionFault (Link κ R) Unit) l) :=
  (outcome_requireConnected l).mono (fun _ _ h => h.2) (fun _ _ h => h.2)

theorem outcome_read (limit : Nat) (l : Link κ R) :
    Outcome
      (fun bytes m => Channel.Brought limit l.channel bytes m.channel ∧ m.received = l.received)
      (fun _ m => Channel.Unread limit l.channel m.channel ∧ m.received = l.received)
      ((read limit : EStateM ConnectionFault (Link κ R) Bytes) l) := by
  unfold read
  apply (outcome_requireConnected l).bind
  · rintro - m ⟨hconnected, rfl⟩
    exact ⟨Or.inl ⟨hconnected, rfl⟩, rfl⟩
  rintro - m ⟨hconnected, rfl⟩
  unfold perform
  cases h : Channel.read limit l.channel with
  | ok bytes c => exact ⟨⟨hconnected, h⟩, rfl⟩
  | error text c => exact ⟨Or.inr ⟨text, h⟩, rfl⟩

theorem outcome_canRead (timeout : Option (Quantity R)) (l : Link κ R) :
    Outcome
      (fun ready m => Channel.canRead timeout l.channel = .ok ready m.channel ∧ l.Serves [] m)
      (fun _ m => l.Serves [] m)
      ((canRead timeout : EStateM ConnectionFault (Link κ R) Bool) l) := by
  unfold canRead
  apply (leaves_requireConnected l).bind (fun _ m hm => hm ▸ Serves.refl l)
  rintro - m rfl
  have hserved := Channel.Served.canRead timeout (.refl (after (Channel.canRead timeout) l.channel))
  revert hserved
  unfold perform after
  cases h : Channel.canRead timeout l.channel with
  | ok ready c => exact fun hserved => ⟨rfl, hserved, rfl⟩
  | error text c => exact fun hserved => ⟨hserved, rfl⟩

theorem serves_write (data : Bytes) (l : Link κ R) :
    Leaves (l.Serves []) ((write data : EStateM ConnectionFault (Link κ R) Unit) l) := by
  have hserved := Channel.Served.write data (.refl (after (Channel.write data) l.channel))
  revert hserved
  unfold write perform after
  cases Channel.write data l.channel with
  | ok a c => exact fun hserved => ⟨hserved, rfl⟩
  | error text c => exact fun hserved => ⟨hserved, rfl⟩

end Link

namespace Transport

/-! ## Progress -/

/-- No observer is told of what happens. -/
def Unwatched (t : Transport κ R) : Prop := t.observers.watching = []

/-- The parser gave the results, for data that the channel brought. -/
structure Advance [Channel κ R] (t : Transport κ R) (results : List (Except Malformed Frame))
    (u : Transport κ R) : Prop where
  observers : u.observers = t.observers
  received : u.link.received = t.link.received ++ results.filterMap Except.toOption
  parsed : ∃ data, Channel.Served t.link.channel data u.link.channel ∧
    t.parser.Gives data results u.parser

/-- The channel brought the bytes, and the parser has not seen them. -/
structure Brings [Channel κ R] (t : Transport κ R) (data : Bytes) (u : Transport κ R) : Prop where
  link : t.link.Serves data u.link
  parser : u.parser = t.parser
  observers : u.observers = t.observers

/-- The parser became `p`, and the frames were announced; the channel was left alone. -/
structure Parsed (t : Transport κ R) (p : Parser) (frames : List Frame) (u : Transport κ R) :
    Prop where
  parser : u.parser = p
  observers : u.observers = t.observers
  channel : u.link.channel = t.link.channel
  received : u.link.received = t.link.received ++ frames

/-- The parser has given the result that it had ready. -/
abbrev Took (t : Transport κ R) (result : Except Malformed Frame) (u : Transport κ R) : Prop :=
  t.Parsed t.parser.next.2 result.toOption.toList u

theorem Unwatched.of_eq {t u : Transport κ R} (ht : t.Unwatched)
    (h : u.observers = t.observers) : u.Unwatched := by
  rw [Unwatched, h]
  exact ht

/-- There was a frame to read and it is no ERROR frame, or the parser has no more to give. -/
structure Delivers [Channel κ R] (t : Transport κ R) (f? : Option Frame) (u : Transport κ R) :
    Prop where
  advance : t.Advance (f?.toList.map .ok) u
  not_error : ∀ f ∈ f?, f.isError = false
  settled : f? = none → u.parser.Settled

/-- No frame was read, because of what the parser gave or because of the channel. -/
inductive Fails [Channel κ R] (t : Transport κ R) : Error R → Transport κ R → Prop
  | reported {e : Error R} {result : Except Malformed Frame} {u : Transport κ R} :
      e.Reports result → t.Advance [result] u → Fails t e u
  | channel {e : Error R} {u : Transport κ R} :
      e.isChannel = true → t.Advance [] u → Fails t e u

/-- The parser was fed with what the channel was read for, and gave nothing. -/
structure Filled [Channel κ R] (t : Transport κ R) (chunks : List Bytes) (u : Transport κ R) :
    Prop where
  observers : u.observers = t.observers
  received : u.link.received = t.link.received
  channel : Channel.Pours readSize t.link.channel chunks u.link.channel
  parser : t.parser.Awaits chunks.flatten u.parser

/-- How the search for a frame can end that reads the channel so many times at most. -/
inductive Search [Channel κ R] (t : Transport κ R) (steps : Nat) :
    Except (Error R) (Option Frame) → Transport κ R → Prop
  | found {chunks : List Bytes} {f : Frame} {u v : Transport κ R} :
      t.Filled chunks u → u.parser.next.1.result? = some (.ok f) → f.isError = false →
      u.Took (.ok f) v → Search t steps (.ok (some f)) v
  | nothing {chunks : List Bytes} {u v : Transport κ R} :
      t.Filled chunks u → u.parser.Settled →
      Channel.Brought readSize u.link.channel [] v.link.channel → u.Brings [] v →
      Search t steps (.ok none) v
  | reported {chunks : List Bytes} {result : Except Malformed Frame} {e : Error R}
      {u v : Transport κ R} :
      t.Filled chunks u → u.parser.next.1.result? = some result → e.Reports result →
      u.Took result v → Search t steps (.error e) v
  | unread {chunks : List Bytes} {e : Error R} {u v : Transport κ R} :
      t.Filled chunks u → e.isConnection = true →
      Channel.Unread readSize u.link.channel v.link.channel → u.Brings [] v →
      Search t steps (.error e) v
  | stalled {chunks : List Bytes} {u : Transport κ R} :
      t.Filled chunks u → chunks.length = steps → Search t steps (.error .stalled) u

section Advance

variable [Channel κ R] {t u v : Transport κ R} {results others : List (Except Malformed Frame)}

theorem Advance.refl (t : Transport κ R) : t.Advance [] t where
  observers := rfl
  received := by simp
  parsed := ⟨[], .refl _, .refl _⟩

theorem Advance.trans (htu : t.Advance results u) (huv : u.Advance others v) :
    t.Advance (results ++ others) v where
  observers := huv.observers.trans htu.observers
  received := by rw [huv.received, htu.received, List.filterMap_append, List.append_assoc]
  parsed := by
    obtain ⟨data, hserved, hgives⟩ := htu.parsed
    obtain ⟨more, hserved', hgives'⟩ := huv.parsed
    exact ⟨data ++ more, hserved.trans hserved', hgives.trans hgives'⟩

theorem Brings.refl (t : Transport κ R) : t.Brings [] t := ⟨.refl _, rfl, rfl⟩

theorem Brings.trans {data more : Bytes} (htu : t.Brings data u) (huv : u.Brings more v) :
    t.Brings (data ++ more) v where
  link := htu.link.trans huv.link
  parser := huv.parser.trans htu.parser
  observers := huv.observers.trans htu.observers

theorem Brings.advance (h : t.Brings [] u) : t.Advance [] u where
  observers := h.observers
  received := by simp [h.link.received]
  parsed := ⟨[], h.link.channel, h.parser ▸ .refl _⟩

theorem Parsed.brings (h : t.Parsed t.parser [] u) : t.Brings [] u where
  link := ⟨h.channel ▸ .refl _, by simpa using h.received⟩
  parser := h.parser
  observers := h.observers

theorem Parsed.advance_of_some {result : Except Malformed Frame} (h : t.Took result u)
    (hsome : t.parser.next.1.result? = some result) : t.Advance [result] u where
  observers := h.observers
  received := by
    rw [h.received]
    cases result <;> rfl
  parsed := ⟨[], h.channel ▸ .refl _, h.parser ▸ .next_of_some hsome⟩

section Filled

variable {chunks more : List Bytes} {steps : Nat}

theorem Filled.refl (t : Transport κ R) : t.Filled [] t := ⟨rfl, rfl, .nil _, .refl _⟩

theorem Filled.trans (htu : t.Filled chunks u) (huv : u.Filled more v) :
    t.Filled (chunks ++ more) v where
  observers := huv.observers.trans htu.observers
  received := huv.received.trans htu.received
  channel := htu.channel.trans huv.channel
  parser := by
    rw [List.flatten_append]
    exact htu.parser.trans huv.parser

theorem Filled.advance (h : t.Filled chunks u) : t.Advance [] u where
  observers := h.observers
  received := by simp [h.received]
  parsed := ⟨_, h.channel.served, h.parser.gives⟩

theorem Parsed.filled (h : t.Parsed t.parser.next.2 [] u)
    (hnone : t.parser.next.1.result? = none) : t.Filled [] u where
  observers := h.observers
  received := by simpa using h.received
  channel := h.channel ▸ .nil _
  parser := h.parser ▸ .next_of_none hnone

theorem Search.after {result : Except (Error R) (Option Frame)} (huv : u.Search steps result v)
    (htu : t.Filled chunks u) : t.Search (chunks.length + steps) result v := by
  cases huv with
  | found hfilled hresult hf hv => exact .found (htu.trans hfilled) hresult hf hv
  | nothing hfilled hsettled hread hv => exact .nothing (htu.trans hfilled) hsettled hread hv
  | reported hfilled hresult he hv => exact .reported (htu.trans hfilled) hresult he hv
  | unread hfilled he hread hv => exact .unread (htu.trans hfilled) he hread hv
  | stalled hfilled hsteps =>
      exact .stalled (htu.trans hfilled) (by rw [List.length_append, hsteps])

theorem Search.delivers {f? : Option Frame} (h : t.Search steps (.ok f?) u) : t.Delivers f? u := by
  cases h with
  | found hfilled hresult hf hu =>
      exact ⟨hfilled.advance.trans (hu.advance_of_some hresult), by simpa using hf, nofun⟩
  | nothing hfilled hsettled _ hu =>
      exact ⟨hfilled.advance.trans hu.advance, by simp, fun _ => hu.parser ▸ hsettled⟩

theorem Search.fails {e : Error R} (h : t.Search steps (.error e) u) : t.Fails e u := by
  cases h with
  | reported hfilled hresult he hu =>
      exact .reported he (hfilled.advance.trans (hu.advance_of_some hresult))
  | unread hfilled he _ hu =>
      exact .channel (Error.isChannel_of_isConnection he) (hfilled.advance.trans hu.advance)
  | stalled hfilled _ => exact .channel rfl hfilled.advance

end Filled

end Advance

theorem Parsed.trans {t u v : Transport κ R} {p q : Parser} {fs gs : List Frame}
    (htu : t.Parsed p fs u) (huv : u.Parsed q gs v) : t.Parsed q (fs ++ gs) v where
  parser := huv.parser
  observers := huv.observers.trans htu.observers
  channel := huv.channel.trans htu.channel
  received := by rw [huv.received, htu.received, List.append_assoc]

theorem Parsed.announce {t u v : Transport κ R} {p : Parser} {fs gs : List Frame}
    (htu : t.Parsed p fs u) (huv : u.Parsed u.parser gs v) : t.Parsed p (fs ++ gs) v :=
  htu.parser ▸ htu.trans huv

theorem parsed_logNotice (n : Notice R) (t : Transport κ R) :
    Outcome (fun _ u => t.Parsed t.parser n.received?.toList u) (fun _ _ => False)
      ((logNotice n : EStateM (Error R) (Transport κ R) Unit) t) :=
  ⟨rfl, rfl, rfl, Link.received_notify t.link n⟩

/-! ## One attempt -/

theorem outcome_accept {t : Transport κ R} (f : Frame) :
    Outcome (fun g u => f = g ∧ f.isError = false ∧ t.Parsed t.parser [f] u)
      (fun e u => e.Reports (.ok f) ∧ t.Parsed t.parser [f] u)
      ((accept f : EStateM (Error R) (Transport κ R) Frame) t) := by
  unfold accept
  apply (parsed_logNotice (.received f) t).bind (fun _ _ h => h.elim)
  intro _ u hu
  split
  · rename_i herror
    exact ⟨.broker herror, hu⟩
  · rename_i herror
    exact ⟨rfl, by simpa using herror, hu⟩

theorem outcome_onLink_part {P : α → Link κ R → Prop} {Q : Link κ R → Prop}
    {x : EStateM ConnectionFault (Link κ R) α} {t : Transport κ R}
    (hx : Outcome P (fun _ l => Q l) (x t.link)) :
    Outcome (fun a u => P a u.link ∧ u.parser = t.parser ∧ u.observers = t.observers)
      (fun e u => e.isConnection = true ∧ Q u.link ∧ u.parser = t.parser ∧
        u.observers = t.observers)
      ((onLink x : EStateM (Error R) (Transport κ R) α) t) :=
  Outcome.mapError (Outcome.on (hx.mono (fun _ _ h => ⟨h, rfl, rfl⟩)
    (fun _ _ h => ⟨rfl, h, rfl, rfl⟩)))

variable [Channel κ R]

theorem brings_onLink {x : EStateM ConnectionFault (Link κ R) α} {t : Transport κ R}
    (hx : Leaves (t.link.Serves []) (x t.link)) :
    Outcome (fun _ u => t.Brings [] u) (fun e u => e.isConnection = true ∧ t.Brings [] u)
      ((onLink x : EStateM (Error R) (Transport κ R) α) t) :=
  (outcome_onLink_part hx).mono (fun _ _ h => ⟨h.1, h.2.1, h.2.2⟩)
    (fun _ _ h => ⟨h.1, h.2.1, h.2.2.1, h.2.2.2⟩)

theorem outcome_canRead (timeout : Option (Quantity R)) (t : Transport κ R) :
    Outcome
      (fun ready u => Channel.canRead timeout t.link.channel = .ok ready u.link.channel ∧
        t.Brings [] u)
      (fun e u => e.isConnection = true ∧ t.Brings [] u)
      ((canRead timeout : EStateM (Error R) (Transport κ R) Bool) t) :=
  (outcome_onLink_part (Link.outcome_canRead timeout t.link)).mono
    (fun _ _ h => ⟨h.1.1, h.1.2, h.2.1, h.2.2⟩) (fun _ _ h => ⟨h.1, h.2.1, h.2.2.1, h.2.2.2⟩)

variable [Scale R]

theorem outcome_notify_of_unwatched {t : Transport κ R} (ht : t.Unwatched) (e : Event) :
    Outcome (fun _ u => t = u) (fun _ _ => False)
      ((notify e : EStateM (Error R) (Transport κ R) Unit) t) := by
  have hall : (Observers.notify e : EStateM (Error R) (Observers R × Link κ R) Unit)
      (t.observers, t.link) = .ok () (t.observers, t.link) := by
    unfold Observers.notify
    rw [get_bind]
    have hnone : (t.observers, t.link).1.watching = [] := ht
    rw [hnone]
    rfl
  unfold notify Action.on
  simp only [hall]
  exact rfl

theorem outcome_nextFrame {t : Transport κ R} (ht : t.Unwatched) :
    Outcome
      (fun f? u => t.parser.next.1.result? = f?.map .ok ∧ t.Parsed t.parser.next.2 [] u)
      (fun e u => ∃ fault, e = .malformed fault ∧
        t.parser.next.1.result? = some (.error fault) ∧ t.Parsed t.parser.next.2 [] u)
      ((nextFrame : EStateM (Error R) (Transport κ R) (Option Frame)) t) := by
  have htold {p : Parser} {u : Transport κ R} (hu : t.Parsed p [] u) (e : Event) :
      Outcome (fun _ v => t.Parsed p [] v) (fun _ _ => False)
        ((notify e : EStateM (Error R) (Transport κ R) Unit) u) :=
    (outcome_notify_of_unwatched (ht.of_eq hu.observers) e).mono (fun _ _ h => h ▸ hu)
      (fun _ _ h => h)
  have hfollows : Follows fun p _ (u : Transport κ R) => t.Parsed p [] u :=
    { parser := fun hu => hu.parser
      setParser := fun q hu => ⟨rfl, hu.observers, hu.channel, hu.received⟩
      ignored := fun value? hu => ⟨hu.parser, hu.observers, hu.channel, by
        rw [Link.received_notify, hu.received]
        simp [Notice.received?]⟩
      lineEnds := fun hu => htold hu .emptyLine
      frame := fun f hu => htold hu (.received f) }
  exact hfollows.nextFrame ⟨rfl, rfl, rfl, (List.append_nil _).symm⟩

/-! ## Reading -/

theorem outcome_readFrameWithin_of_some {t : Transport κ R} (ht : t.Unwatched)
    {result : Except Malformed Frame} (hresult : t.parser.next.1.result? = some result)
    (steps : Nat) (fed : Bool) :
    Outcome (fun f? u => ∃ f, f? = some f ∧ result = .ok f ∧ f.isError = false ∧ t.Took result u)
      (fun e u => e.Reports result ∧ t.Took result u)
      ((readFrameWithin (steps + 1) fed : EStateM (Error R) (Transport κ R) (Option Frame)) t) := by
  unfold readFrameWithin
  apply (outcome_nextFrame ht).bind
  · rintro e u ⟨fault, rfl, hnext, hu⟩
    obtain rfl : Except.error fault = result := Option.some.inj (hnext.symm.trans hresult)
    exact ⟨.malformed fault, hu⟩
  · rintro f? u ⟨hnext, hu⟩
    match f? with
    | none => cases hnext.symm.trans hresult
    | some f =>
        obtain rfl : Except.ok f = result := Option.some.inj (hnext.symm.trans hresult)
        have htook : ∀ v, u.Parsed u.parser [f] v → t.Took (.ok f) v :=
          fun v hv => hu.announce hv
        apply (outcome_accept f).bind
        · rintro e v ⟨hreports, hv⟩
          exact ⟨hreports, htook v hv⟩
        · rintro g v ⟨rfl, herror, hv⟩
          exact ⟨f, rfl, rfl, herror, htook v hv⟩

theorem outcome_refill {t : Transport κ R} (ht : t.Unwatched) (hsettled : t.parser.Settled)
    {again : EStateM (Error R) (Transport κ R) (Option Frame)} {steps : Nat}
    (hagain : ∀ u : Transport κ R, u.Unwatched →
      Outcome (fun f? v => u.Search steps (.ok f?) v) (fun e v => u.Search steps (.error e) v)
        (again u)) :
    Outcome (fun f? v => t.Search (steps + 1) (.ok f?) v)
      (fun e v => t.Search (steps + 1) (.error e) v)
      ((do
        let data ← onLink (Link.read readSize)
        if data.isEmpty then
          notify .emptyRead
          return none
        modify fun t => { t with parser := t.parser.feed data }
        again : EStateM (Error R) (Transport κ R) (Option Frame)) t) := by
  apply (outcome_onLink_part (Link.outcome_read readSize t.link)).bind
  · rintro e u ⟨he, ⟨hunread, hreceived⟩, hparser, hobservers⟩
    exact .unread (.refl t) he hunread ⟨⟨hunread.served, hreceived⟩, hparser, hobservers⟩
  rintro data u ⟨⟨hread, hreceived⟩, hparser, hobservers⟩
  split
  · rename_i hempty
    rw [List.isEmpty_iff.1 hempty] at hread
    apply (outcome_notify_of_unwatched (ht.of_eq hobservers) .emptyRead).bind (fun _ _ h => h.elim)
    rintro - v rfl
    exact .nothing (.refl t) hsettled hread ⟨⟨hread.served, hreceived⟩, hparser, hobservers⟩
  · rename_i hdata
    have hfed : t.Filled [data] { u with parser := u.parser.feed data } :=
      { observers := hobservers
        received := hreceived
        channel := .cons hread (by simpa using hdata) (.nil _)
        parser := by
          rw [List.flatten_singleton, hparser]
          exact (Parser.Awaits.refl t.parser).feed data }
    have hnext := hagain { u with parser := u.parser.feed data } (ht.of_eq hobservers)
    rw [Nat.add_comm]
    exact hnext.mono (fun _ _ h => h.after hfed) (fun _ _ h => h.after hfed)

/-- How the search for the next frame can end. -/
theorem outcome_readFrameWithin {t : Transport κ R} (ht : t.Unwatched) (steps : Nat) (fed : Bool) :
    Outcome (fun f? u => t.Search steps (.ok f?) u) (fun e u => t.Search steps (.error e) u)
      ((readFrameWithin steps fed : EStateM (Error R) (Transport κ R) (Option Frame)) t) := by
  induction steps generalizing t fed with
  | zero => exact .stalled (.refl t) rfl
  | succ steps ih =>
      cases hresult : t.parser.next.1.result? with
      | some result =>
          refine (outcome_readFrameWithin_of_some ht hresult steps fed).mono ?_ ?_
          · rintro f? u ⟨f, rfl, rfl, herror, hu⟩
            exact .found (.refl t) hresult herror hu
          · rintro e u ⟨hreports, hu⟩
            exact .reported (.refl t) hresult hreports hu
      | none =>
          unfold readFrameWithin
          apply (outcome_nextFrame ht).bind
          · rintro e u ⟨fault, -, hnext, -⟩
            cases hresult.symm.trans hnext
          rintro f? u ⟨hnext, hu⟩
          match f? with
          | some f => cases hresult.symm.trans hnext
          | none =>
            have hfilled := hu.filled hresult
            have hsettled : u.parser.Settled := hu.parser ▸ Parser.settled_of_none hresult
            have hwatch := ht.of_eq hu.observers
            have hrefill : Outcome (fun f? v => t.Search (steps + 1) (.ok f?) v)
                (fun e v => t.Search (steps + 1) (.error e) v) _ :=
              (outcome_refill hwatch hsettled fun v hv => ih hv true).mono
                (fun _ _ h => by simpa using h.after hfilled)
                (fun _ _ h => by simpa using h.after hfilled)
            dsimp only
            split
            · apply (outcome_notify_of_unwatched hwatch .emptyBuffer).bind (fun _ _ h => h.elim)
              rintro - v rfl
              exact hrefill
            · exact hrefill

theorem search_readFrame {t : Transport κ R} (ht : t.Unwatched) :
    let steps := Channel.patience t.link.channel + 2
    Outcome (fun f? u => t.Search steps (.ok f?) u) (fun e u => t.Search steps (.error e) u)
      ((readFrame : EStateM (Error R) (Transport κ R) (Option Frame)) t) :=
  outcome_readFrameWithin ht _ false

theorem outcome_readFrame {t : Transport κ R} (ht : t.Unwatched) :
    Outcome t.Delivers t.Fails
      ((readFrame : EStateM (Error R) (Transport κ R) (Option Frame)) t) :=
  (search_readFrame ht).mono (fun _ _ h => h.delivers) (fun _ _ h => h.fails)

theorem outcome_readFrame_of_some {t : Transport κ R} (ht : t.Unwatched)
    {result : Except Malformed Frame} (hresult : t.parser.next.1.result? = some result) :
    Outcome (fun f? u => ∃ f, f? = some f ∧ result = .ok f ∧ f.isError = false ∧ t.Took result u)
      (fun e u => e.Reports result ∧ t.Took result u)
      ((readFrame : EStateM (Error R) (Transport κ R) (Option Frame)) t) :=
  outcome_readFrameWithin_of_some ht hresult _ false

end Transport

end Stomp
