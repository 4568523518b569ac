import Stomp.Proofs.Protocol.Frames
import Stomp.Proofs.Session.Call
import Stomp.Proofs.Session.State

/-!
# Steps of a session

All that a call can make of a session (`Step`), with the frame that the session had its client send
on the way, if any. A call that fails leaves the state as it was and sends nothing (`Kept`).
-/

namespace Stomp.Session

open Stomp.Action

variable {R σ : Type}

/-! ## The session around its client -/

/-- Only the client has changed, to one as described. -/
structure ClientOnly (P : σ → Prop) (s t : Session σ) : Prop where
  state : t.state = s.state
  subscribed : t.subscribed = s.subscribed
  client : P t.client

theorem ClientOnly.transaction? {P : σ → Prop} {s t : Session σ} (h : ClientOnly P s t) :
    t.transaction? = s.transaction? :=
  congrArg State.transaction? h.state

theorem outcome_check (operation : String) (allowed : Mode → Bool) (s : Session σ) :
    Outcome (fun _ t => allowed s.state.mode = true ∧ s = t) (fun _ t => s = t)
      ((check operation allowed : SessionAction R σ Unit) s) := by
  unfold check
  rw [get_bind]
  split
  · exact ⟨‹_›, rfl⟩
  · split <;> exact rfl

theorem outcome_raise {α : Type} (x : Except Command.Fault α) (s : Session σ) :
    Outcome (fun a t => x = .ok a ∧ s = t) (fun _ t => s = t)
      ((raise x : SessionAction R σ α) s) := by
  refine Outcome.mapError ((outcome_ofExcept x s).mono (fun _ _ h => h) ?_)
  rintro e t ⟨-, ht⟩
  exact ht

theorem outcome_onClient {α : Type} {P : σ → Prop} {x : EStateM (Error R) σ α} {s : Session σ}
    (h : Leaves P (x s.client)) :
    Leaves (ClientOnly P s) ((onClient x : SessionAction R σ α) s) :=
  Outcome.on (h.mono fun _ hc => ⟨rfl, rfl, hc⟩)

theorem outcome_onClientInHand {P : σ → Prop} {x : InHand (Error R) σ Unit}
    {q : Frame × Session σ} (h : Leaves (fun r => P r.2) (x (q.1, q.2.client))) :
    Leaves (fun r => ClientOnly P q.2 r.2)
      ((onClientInHand x : InHand (Error R) (Session σ) Unit) q) :=
  Outcome.on (h.mono fun _ hc => ⟨rfl, rfl, hc⟩)

variable [Session.Client σ R]

/-! ## What becomes of the client -/

namespace Client

/-- What a client may become while no frame is sent, or none successfully. -/
inductive Unsent : σ → σ → Prop
  | refl (c : σ) : Unsent c c
  | trans {c d e : σ} : Unsent c d → Unsent d e → Unsent c e
  | protocol (c : σ) : Unsent c (after Client.protocol c)
  | readFrame (c : σ) : Unsent c (after Client.readFrame c)
  | failed {sync? : Option Bool} {f g : Frame} {e : Error R} {c d : σ} :
      Client.sendFrame sync? (f, c) = .error e (g, d) → Unsent c d
  | setIds {c : σ} {ids : IdSupply} :
      (Client.ids c).issued ≤ ids.issued → Unsent c (Client.setIds c ids)
  | logNotice (n : Notice R) (c : σ) : Unsent c (Client.logNotice n c)

/-- What it may become by sending a frame. -/
def Sent (f : Frame) (c d : σ) : Prop :=
  ∃ sync? g, Client.sendFrame sync? (f, c) = .ok () (g, d)

/-- What it may become while one frame is sent. -/
def Exchange (f : Frame) (c d : σ) : Prop :=
  ∃ c' d', Unsent c c' ∧ Sent f c' d' ∧ Unsent d' d

end Client

open Client (Unsent Sent Exchange)

/-- The state is the same, no frame was sent, and at most an id was used up. -/
structure Kept (s t : Session σ) : Prop where
  state : t.state = s.state
  subscribed : s.subscribed ≤ t.subscribed
  client : Unsent s.client t.client

/-- What a call can make of a session, with the frame that was sent. -/
inductive Step (s t : Session σ) : Option Frame → Prop
  | kept : Kept s t → Step s t none
  | drained (mode : s.state.mode.isDraining = true)
      (state : t.state = .producing s.transaction?) (subscribed : t.subscribed = s.subscribed)
      (client : Unsent s.client t.client) : Step s t none
  | answered {f : Frame} (command : f.command = Verb.ack ∨ f.command = Verb.nack)
      (transaction : f.get? Name.transaction = s.transactionHeader.stored?)
      (state : t.state = s.state) (subscribed : t.subscribed = s.subscribed)
      (client : Exchange f s.client t.client) : Step s t (some f)
  | subscribed {p : Protocol} {f : Frame} (subscription : Subscription)
      (mode : s.state.mode.isProducer = true ∨ s.state.mode.isConsumer = true)
      (id : subscription.id = String.ofList (Numeral.digits s.subscribed))
      (frame : p.subscribe subscription.destination (.text subscription.id) subscription.ack
        subscription.selector false = .ok f)
      (state : t.state =
        .consuming (s.state.subscriptions ++ [subscription]) s.transaction?)
      (subscribed : t.subscribed = s.subscribed + 1)
      (client : Exchange (f.add subscription.headers) s.client t.client) :
      Step s t (some (f.add subscription.headers))
  | unsubscribed {p : Protocol} {f : Frame} {subscription : Subscription} (bufferEmpty : Bool)
      (mode : s.state.mode.isConsumer = true)
      (mem : subscription ∈ s.state.subscriptions)
      (frame : p.unsubscribe subscription.destination (.text subscription.id) false = .ok f)
      (state : t.state = afterUnsubscribe
        (s.state.subscriptions.filter fun u => u.id ≠ subscription.id) s.transaction? bufferEmpty)
      (subscribed : t.subscribed = s.subscribed)
      (client : Exchange f s.client t.client) : Step s t (some f)
  | begun {p : Protocol} (mode : s.state.mode = .producer ∨ s.state.mode = .consumer)
      (state : t.state =
        if s.state.mode = .producer then .producerTransaction (Client.ids s.client).next.1
        else .consumerTransaction (Client.ids s.client).next.1 s.state.subscriptions)
      (subscribed : t.subscribed = s.subscribed)
      (client : Exchange (p.begin (.text (Client.ids s.client).next.1))
        (Client.setIds s.client (Client.ids s.client).next.2) t.client) :
      Step s t (some (p.begin (.text (Client.ids s.client).next.1)))
  | ended {p : Protocol} {f : Frame}
      (mode : s.state.mode = .producerTransaction ∨ s.state.mode = .consumerTransaction)
      (frame : f = p.commit s.transactionHeader ∨ f = p.abort s.transactionHeader)
      (state : t.state =
        if s.state.mode = .consumerTransaction then .consumer s.state.subscriptions
        else .producer)
      (subscribed : t.subscribed = s.subscribed)
      (client : Exchange f s.client t.client) : Step s t (some f)

/-! ## The parts of a command -/

abbrev Turned (s t : Session σ) : Prop := ClientOnly (Unsent s.client) s t

abbrev Passed (f : Frame) (s t : Session σ) : Prop := ClientOnly (Sent f s.client) s t

theorem Turned.kept {s t : Session σ} (h : Turned s t) : Kept s t :=
  ⟨h.state, Nat.le_of_eq h.subscribed.symm, h.client⟩

theorem Kept.refl (s : Session σ) : Kept s s := ⟨rfl, Nat.le_refl _, .refl _⟩

theorem Kept.trans {s t u : Session σ} (hst : Kept s t) (htu : Kept t u) : Kept s u :=
  ⟨htu.state.trans hst.state, Nat.le_trans hst.subscribed htu.subscribed,
    hst.client.trans htu.client⟩

theorem outcome_protocol (s : Session σ) :
    Leaves (Turned s) ((onClient Client.protocol : SessionAction R σ Protocol) s) :=
  outcome_onClient (leaves_iff.2 (.protocol _))

theorem outcome_readFrame (s : Session σ) :
    Leaves (Turned s) ((onClient Client.readFrame : SessionAction R σ (Option Frame)) s) :=
  outcome_onClient (leaves_iff.2 (.readFrame _))

theorem outcome_sendNew (f : Frame) (sync? : Option Bool) (s : Session σ) :
    Outcome (fun _ t => Passed f s t) (fun _ t => Turned s t)
      ((sendNew f sync? : SessionAction R σ Unit) s) := by
  unfold sendNew onClient
  refine Outcome.on (Outcome.withFrame ?_)
  cases h : Client.sendFrame sync? (f, s.client) with
  | ok a p => exact ⟨rfl, rfl, sync?, p.1, h⟩
  | error e p => exact ⟨rfl, rfl, .failed h⟩

theorem outcome_moveTo (state : State) (s : Session σ) :
    Outcome
      (fun _ t => t.state = state ∧ t.subscribed = s.subscribed ∧ Unsent s.client t.client)
      (fun _ _ => False) ((moveTo state : SessionAction R σ Unit) s) :=
  ⟨rfl, rfl, .logNotice _ _⟩

/-! ## The commands -/

theorem outcome_subscribe (destination selector ack : Given) (headers : List (String × Given))
    (s : Session σ) :
    Outcome (fun _ t => ∃ f, Step s t (some f)) (fun _ t => Kept s t)
      ((subscribe destination selector ack headers : SessionAction R σ String) s) := by
  unfold subscribe
  apply (outcome_check _ _ s).bind (fun _ t ht => ht ▸ Kept.refl s)
  rintro - _ ⟨hmode, rfl⟩
  rw [modifyGet_bind]
  have hcount : Kept s { s with subscribed := s.subscribed + 1 } :=
    ⟨rfl, Nat.le_succ _, .refl _⟩
  apply (outcome_protocol _).bind (fun _ t ht => hcount.trans ht.kept)
  intro p t ht
  apply (outcome_raise _ t).bind (fun _ u hu => hu ▸ hcount.trans ht.kept)
  rintro f _ ⟨hf, rfl⟩
  apply (outcome_sendNew _ _ t).bind (fun _ u hu => hcount.trans (ht.kept.trans hu.kept))
  intro _ u hu
  rw [get_bind]
  apply (outcome_moveTo _ u).bind (fun _ _ h => h.elim)
  rintro - v ⟨hstate, hsubscribed, hclient⟩
  have hsame : u.state = s.state := hu.state.trans ht.state
  have hmodes : s.state.mode.isProducer = true ∨ s.state.mode.isConsumer = true := by
    simpa using hmode
  refine ⟨_, .subscribed ⟨destination, selector, ack, _, headers⟩ hmodes rfl hf ?_ ?_
    ⟨t.client, u.client, ht.client, hu.client, hclient⟩⟩
  · rw [hstate, transaction?, hsame]
    rfl
  · rw [hsubscribed, hu.subscribed, ht.subscribed]

theorem mem_of_select? {subscriptions : List Subscription} {id : Given} {s : Subscription}
    (h : select? subscriptions id = some s) : s ∈ subscriptions := by
  unfold select? at h
  split at h
  · exact List.mem_of_getLast? h
  · exact List.mem_of_find?_eq_some h
  · cases h

theorem outcome_unsubscribe (id : Given) (s : Session σ) :
    Outcome (fun _ t => ∃ f, Step s t (some f)) (fun _ t => Kept s t)
      ((unsubscribe id : SessionAction R σ Unit) s) := by
  unfold unsubscribe
  apply (outcome_check _ _ s).bind (fun _ t ht => ht ▸ Kept.refl s)
  rintro - _ ⟨hmode, rfl⟩
  rw [get_bind]
  cases hselect : select? s.state.subscriptions id with
  | none => exact Kept.refl s
  | some subscription =>
      apply (outcome_protocol s).bind (fun _ t ht => ht.kept)
      intro p t ht
      apply (outcome_raise _ t).bind (fun _ u hu => hu ▸ ht.kept)
      rintro f _ ⟨hf, rfl⟩
      apply (outcome_sendNew _ _ t).bind (fun _ u hu => ht.kept.trans hu.kept)
      intro _ u hu
      rw [get_bind]
      refine (outcome_moveTo _ u).mono ?_ (fun _ _ h => h.elim)
      rintro - v ⟨hstate, hsubscribed, hclient⟩
      refine ⟨f, .unsubscribed _ hmode (mem_of_select? hselect) hf hstate ?_
        ⟨t.client, u.client, ht.client, hu.client, hclient⟩⟩
      rw [hsubscribed, hu.subscribed, ht.subscribed]

theorem freshId_bind {α : Type} (f : String → SessionAction R σ α) (s : Session σ) :
    (freshId >>= f) s = f (Client.ids s.client).next.1
      { s with client := Client.setIds s.client (Client.ids s.client).next.2 } := rfl

theorem outcome_begin (s : Session σ) :
    Outcome (fun _ t => ∃ f, Step s t (some f)) (fun _ t => Kept s t)
      ((begin : SessionAction R σ String) s) := by
  unfold begin
  apply (outcome_check _ _ s).bind (fun _ t ht => ht ▸ Kept.refl s)
  rintro - _ ⟨hmode, rfl⟩
  rw [freshId_bind]
  have hfresh : Unsent s.client (Client.setIds s.client (Client.ids s.client).next.2) :=
    .setIds (Nat.le_succ _)
  have hid : Kept s { s with client := Client.setIds s.client (Client.ids s.client).next.2 } :=
    ⟨rfl, Nat.le_refl _, hfresh⟩
  apply (outcome_protocol _).bind (fun _ t ht => hid.trans ht.kept)
  intro p t ht
  apply (outcome_sendNew _ _ t).bind (fun _ u hu => hid.trans (ht.kept.trans hu.kept))
  intro _ u hu
  rw [get_bind]
  apply (outcome_moveTo _ u).bind (fun _ _ h => h.elim)
  rintro - v ⟨hstate, hsubscribed, hclient⟩
  have hsame : u.state = s.state := hu.state.trans ht.state
  have hmodes : s.state.mode = .producer ∨ s.state.mode = .consumer := by
    simpa using hmode
  refine ⟨_, .begun hmodes ?_ ?_ ⟨t.client, u.client, ht.client, hu.client, hclient⟩⟩
  · rw [hstate, hsame]
  · rw [hsubscribed, hu.subscribed, ht.subscribed]

theorem outcome_endTransaction (operation : String) {frame : Protocol → Given → Frame}
    (hframe : frame = Protocol.commit ∨ frame = Protocol.abort) (s : Session σ) :
    Outcome (fun _ t => ∃ f, Step s t (some f)) (fun _ t => Kept s t)
      ((endTransaction operation frame : SessionAction R σ Unit) s) := by
  unfold endTransaction
  apply (outcome_check _ _ s).bind (fun _ t ht => ht ▸ Kept.refl s)
  rintro - _ ⟨hmode, rfl⟩
  apply (outcome_protocol s).bind (fun _ t ht => ht.kept)
  intro p t ht
  rw [get_bind]
  apply (outcome_sendNew _ _ t).bind (fun _ u hu => ht.kept.trans hu.kept)
  intro _ u hu
  rw [get_bind]
  refine (outcome_moveTo _ u).mono ?_ (fun _ _ h => h.elim)
  rintro - v ⟨hstate, hsubscribed, hclient⟩
  have hsame : u.state = s.state := hu.state.trans ht.state
  have hheader : t.transactionHeader = s.transactionHeader := by
    rw [transactionHeader, ht.transaction?, transactionHeader]
  have hmodes : s.state.mode = .producerTransaction ∨ s.state.mode = .consumerTransaction := by
    simpa using hmode
  have hframe : frame p t.transactionHeader = p.commit s.transactionHeader ∨
      frame p t.transactionHeader = p.abort s.transactionHeader := by
    rw [hheader]
    rcases hframe with rfl | rfl
    · exact Or.inl rfl
    · exact Or.inr rfl
  refine ⟨_, .ended hmodes hframe ?_ ?_ ⟨t.client, u.client, ht.client, hu.client, hclient⟩⟩
  · rw [hstate, hsame]
  · rw [hsubscribed, hu.subscribed, ht.subscribed]

theorem outcome_read (s : Session σ) :
    Outcome (fun _ t => Step s t none) (fun _ t => Kept s t)
      ((read : SessionAction R σ (Option Frame)) s) := by
  unfold read
  apply (outcome_check _ _ s).bind (fun _ t ht => ht ▸ Kept.refl s)
  rintro - _ ⟨hmode, rfl⟩
  apply (outcome_readFrame s).bind (fun _ t ht => ht.kept)
  intro f? t ht
  rw [get_bind]
  split
  · rename_i hnone
    apply (outcome_moveTo _ t).bind (fun _ _ h => h.elim)
    rintro - u ⟨hstate, hsubscribed, hclient⟩
    rw [Bool.and_eq_true, ht.state] at hnone
    rw [ht.transaction?] at hstate
    exact .drained hnone.2 hstate (hsubscribed.trans ht.subscribed) (ht.client.trans hclient)
  · exact .kept ht.kept

open Command (Answers)

theorem outcome_buildAnswer {command : String} {t : Given} {x : InHand Command.Fault IdSupply Frame}
    {p : Frame × Session σ}
    (hx : Outcome (Answers command t (Client.ids p.2.client))
      (fun _ q => (Client.ids p.2.client).issued ≤ q.2.issued)
      (x (p.1, Client.ids p.2.client))) :
    Outcome
      (fun f q => f.command = command ∧ f.get? Name.transaction = t.stored? ∧ Turned p.2 q.2)
      (fun _ q => Turned p.2 q.2)
      ((buildAnswer x : InHand (Error R) (Session σ) Frame) p) := by
  unfold buildAnswer
  refine Outcome.on (Outcome.mapError (hx.mono ?_ ?_))
  · rintro f q ⟨hcommand, htransaction, hids⟩
    exact ⟨hcommand, htransaction, rfl, rfl, .setIds hids⟩
  · intro e q hids
    exact ⟨rfl, rfl, .setIds hids⟩

theorem outcome_answer (operation : String) {command : String}
    {build : Protocol → Given → InHand Command.Fault IdSupply Frame}
    (hcommand : command = Verb.ack ∨ command = Verb.nack)
    (hbuild : ∀ p t q, Outcome (Answers command t q.2) (fun _ r => q.2.issued ≤ r.2.issued)
      (build p t q))
    (q : Frame × Session σ) :
    Outcome (fun _ r => ∃ f, Step q.2 r.2 (some f)) (fun _ r => Kept q.2 r.2)
      ((answer operation build : InHand (Error R) (Session σ) Unit) q) := by
  unfold answer
  refine (Outcome.beside (outcome_check _ _ q.2)).bind
    (fun _ r hr => hr.1 ▸ Kept.refl q.2) ?_
  rintro - r ⟨⟨-, hr⟩, -⟩
  apply (Outcome.beside (outcome_protocol r.2)).bind (fun _ t ht => hr ▸ ht.1.kept)
  rintro p t ⟨ht, -⟩
  rw [← hr] at ht
  rw [get_bind]
  refine (outcome_buildAnswer (hbuild p t.2.transactionHeader _)).bind
    (fun _ u hu => ht.kept.trans hu.kept) ?_
  rintro f u ⟨hf, htransaction, hu⟩
  refine (Outcome.beside (outcome_sendNew f _ u.2)).mono ?_
    (fun _ v hv => ht.kept.trans (hu.kept.trans hv.1.kept))
  rintro - v ⟨hv, -⟩
  have hheader : t.2.transactionHeader = q.2.transactionHeader := by
    rw [transactionHeader, ht.transaction?, transactionHeader]
  refine ⟨f, .answered ?_ ?_ ?_ ?_ ⟨u.2.client, v.2.client, ht.client.trans hu.client,
    hv.client, .refl _⟩⟩
  · rw [hf]
    exact hcommand
  · rw [htransaction, hheader]
  · rw [hv.state, hu.state, ht.state]
  · rw [hv.subscribed, hu.subscribed, ht.subscribed]

/-! ## The calls -/

theorem outcome_perform {c : Call} (hc : c.isSend = false) (s : Session σ) :
    Outcome (fun _ t => ∃ sent?, Step s t sent?) (fun _ t => Kept s t)
      ((c.perform : SessionAction R σ Unit) s) := by
  have hsome : ∀ t : Session σ, (∃ f, Step s t (some f)) → ∃ sent?, Step s t sent? :=
    fun t ⟨f, h⟩ => ⟨some f, h⟩
  cases c with
  | sendBody destination body headers => cases hc
  | sendPrepared frame destination headers => cases hc
  | subscribe destination selector ackMode headers =>
      apply Outcome.discard
      exact (outcome_subscribe _ _ _ _ s).mono (fun _ => hsome) (fun _ _ h => h)
  | unsubscribe id => exact (outcome_unsubscribe id s).mono (fun _ => hsome) (fun _ _ h => h)
  | begin =>
      apply Outcome.discard
      exact (outcome_begin s).mono (fun _ => hsome) (fun _ _ h => h)
  | commit =>
      have hend := outcome_endTransaction "commit" (Or.inl rfl) s
      exact hend.mono (fun _ => hsome) (fun _ _ h => h)
  | abort =>
      have hend := outcome_endTransaction "abort" (Or.inr rfl) s
      exact hend.mono (fun _ => hsome) (fun _ _ h => h)
  | ack message =>
      have hack := outcome_answer "ack" (Or.inl rfl) Protocol.outcome_ack (message, s)
      exact Outcome.withFrame (hack.mono (fun _ q => hsome q.2) (fun _ _ h => h))
  | nack message requeue =>
      have hnack := outcome_answer "nack" (Or.inr rfl)
        (fun p t q => Protocol.outcome_nack p t requeue q) (message, s)
      exact Outcome.withFrame (hnack.mono (fun _ q => hsome q.2) (fun _ _ h => h))
  | read =>
      apply Outcome.discard
      exact (outcome_read s).mono (fun _ _ h => ⟨none, h⟩) (fun _ _ h => h)

theorem step_next {c : Call} (hc : c.isSend = false) (s : Session σ) :
    ∃ sent?, Step s (c.next s) sent? := by
  have hstep : Leaves (fun t => ∃ sent?, Step s t sent?)
      ((c.perform : SessionAction R σ Unit) s) :=
    (outcome_perform hc s).mono (fun _ _ h => h) (fun _ _ ht => ⟨none, .kept ht⟩)
  exact leaves_iff.1 hstep

/-- Whether a message is sent with a receipt is up to the client, but not within a transaction. -/
def messageSync (s : Session σ) : Option Bool :=
  if s.transaction?.isSome then some false else none

theorem next_of_isSend {c : Call} (hc : c.isSend = true) (s : Session σ) {P : σ → Prop}
    (hbody : ∀ destination body headers,
      Leaves P (Client.sendBody destination body headers s.messageSync s.client))
    (hprepared : ∀ f destination headers,
      Leaves (fun q => P q.2)
        (Client.sendPrepared destination headers s.messageSync (f, s.client))) :
    ClientOnly P s (c.next s) := by
  apply leaves_iff.1
  unfold messageSync at hbody hprepared
  cases c
  case sendBody destination body headers =>
    change Outcome _ _ (sendBody destination body headers s)
    unfold sendBody
    rw [get_bind]
    cases ht : s.transaction? with
    | none =>
        rw [ht] at hbody
        exact outcome_onClient (hbody _ _ _)
    | some t =>
        rw [ht] at hbody
        exact outcome_onClient (hbody _ _ _)
  case sendPrepared f destination headers =>
    apply Outcome.withFrame
    unfold sendPrepared
    rw [get_bind]
    dsimp only
    cases ht : s.transaction? with
    | none =>
        rw [ht] at hprepared
        exact outcome_onClientInHand (hprepared f _ _)
    | some t =>
        rw [ht] at hprepared
        exact outcome_onClientInHand (hprepared f _ _)
  all_goals cases hc

theorem state_next_of_isSend {c : Call} (hc : c.isSend = true) (s : Session σ) :
    (c.next s).state = s.state := by
  have hnext : ClientOnly (fun _ => True) s (c.next s) :=
    next_of_isSend hc s (fun _ _ _ => leaves_iff.2 trivial) (fun _ _ _ => leaves_iff.2 trivial)
  exact hnext.state

/-! ## The transaction -/

def Named (s : Session σ) : Prop := ∀ t, s.transaction? = some t → t ≠ ""

theorem Named.of_eq {s t : Session σ} (h : Named s) (ht : t.transaction? = s.transaction?) :
    Named t := by
  intro x hx
  exact h x (ht ▸ hx)

theorem Step.named {s t : Session σ} {sent? : Option Frame} (h : Step s t sent?) (hs : Named s) :
    Named t := by
  cases h with
  | kept h => exact hs.of_eq (congrArg State.transaction? h.state)
  | drained _ state => exact hs.of_eq (by rw [transaction?, state, State.transaction?_producing])
  | answered _ _ state => exact hs.of_eq (congrArg State.transaction? state)
  | subscribed _ _ _ _ state =>
      exact hs.of_eq (by rw [transaction?, state, State.transaction?_consuming])
  | unsubscribed _ _ _ _ state =>
      exact hs.of_eq (by rw [transaction?, state, transaction?_afterUnsubscribe])
  | begun mode state =>
      intro x hx
      rw [transaction?, state] at hx
      split at hx
      · cases hx
        exact IdSupply.next_ne_empty _
      · cases hx
        exact IdSupply.next_ne_empty _
  | ended mode frame state =>
      intro x hx
      rw [transaction?, state] at hx
      split at hx <;> cases hx

theorem named_of_reachable {s : Session σ} (h : Reachable s) : Named s := by
  induction h with
  | new client =>
      intro t ht
      cases ht
  | @call c s _ ih =>
      cases hc : c.isSend with
      | false =>
          obtain ⟨sent?, hstep⟩ := step_next hc s
          exact hstep.named ih
      | true => exact ih.of_eq (congrArg State.transaction? (state_next_of_isSend hc s))
  | client c _ ih => exact ih

end Stomp.Session
