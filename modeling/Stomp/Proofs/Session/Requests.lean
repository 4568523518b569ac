import Stomp.Proofs.Session.Step

/-!
# What a session asks of its client

The requests that a call makes of the client, with their answers. A call that fails after its checks
has failed to build a frame, and then no frame was handed to the client; or it fails as the client
did with the last request, and no frame was handed over before (`Broken`).
-/

namespace Stomp.Session

open Stomp.Action

variable {R σ α : Type}

inductive Request where
  | protocol
  | sendFrame (frame : Frame) (sync? : Option Bool)
  | sendBody (destination : Given) (body : Bytes) (headers : List (String × Given))
    (sync? : Option Bool)
  | sendPrepared (frame : Frame) (destination : Given) (headers : List (String × Given))
    (sync? : Option Bool)
  | readFrame

namespace Request

/-- Whether a frame or what it is made of is handed to the client. -/
def isHanding : Request → Bool
  | .sendFrame _ _ | .sendBody _ _ _ _ | .sendPrepared _ _ _ _ => true
  | .protocol | .readFrame => false

variable [Session.Client σ R]

def perform : Request → EStateM (Error R) σ Unit
  | .protocol => discard Client.protocol
  | .sendFrame frame sync? => withFrame frame (Client.sendFrame sync?)
  | .sendBody destination body headers sync? => Client.sendBody destination body headers sync?
  | .sendPrepared frame destination headers sync? =>
    withFrame frame (Client.sendPrepared destination headers sync?)
  | .readFrame => discard Client.readFrame

end Request

def Mode.refusal (m : Mode) (operation : String) : Error R :=
  if m.isDraining then .draining m operation else .illegal m operation

structure Asked (R : Type) where
  request : Request
  result : Except (Error R) Unit

/-- The requests succeeded, and none of them handed a frame to the client. -/
def Preparatory (asked : List (Asked R)) : Prop :=
  ∀ a ∈ asked, a.request.isHanding = false ∧ a.result = .ok ()

/-- A call can fail in building a frame, before any was handed to the client, or as the client fails
with the last request. -/
inductive Explains : List (Asked R) → Error R → Prop
  | building {asked : List (Asked R)} (fault : Command.Fault) :
      Preparatory asked → Explains asked (.command fault)
  | client {asked : List (Asked R)} {e : Error R} (request : Request) :
      Preparatory asked → Explains (asked ++ [⟨request, .error e⟩]) e

theorem Preparatory.append {asked more : List (Asked R)} (h : Preparatory asked)
    (hmore : Preparatory more) : Preparatory (asked ++ more) := by
  intro a ha
  exact (List.mem_append.1 ha).elim (h a) (hmore a)

theorem Explains.after {asked more : List (Asked R)} {e : Error R} (hmore : Explains more e)
    (h : Preparatory asked) : Explains (asked ++ more) e := by
  cases hmore with
  | building fault hprepared => exact .building fault (h.append hprepared)
  | client request hprepared =>
      rw [← List.append_assoc]
      exact .client request (h.append hprepared)

theorem check_eq (operation : String) (allowed : Mode → Bool) (s : Session σ) :
    (check operation allowed : SessionAction R σ Unit) s =
      if allowed s.state.mode then .ok () s
      else .error (s.state.mode.refusal operation) s := by
  unfold check Mode.refusal
  rw [get_bind]
  dsimp only
  split
  · rfl
  · split <;> rfl

theorem check_of_allowed {operation : String} {allowed : Mode → Bool} {s : Session σ}
    (h : allowed s.state.mode = true) (f : Unit → SessionAction R σ α) :
    (check operation allowed >>= f) s = f () s := by
  apply bind_of_ok
  rw [check_eq, if_pos h]

/-! ## The client meanwhile -/

variable [Session.Client σ R]

/-- From one client to a later one these requests were made. -/
inductive Client.Asks : σ → List (Asked R) → σ → Prop
  | refl (c : σ) : Asks c [] c
  | ask {c d : σ} {asked : List (Asked R)} (r : Request) :
      Asks c asked d → Asks c (asked ++ [⟨r, result r.perform d⟩]) (after r.perform d)
  | setIds {c d : σ} {asked : List (Asked R)} (ids : IdSupply) :
      Asks c asked d → Asks c asked (Client.setIds d ids)
  | logNotice {c d : σ} {asked : List (Asked R)} (n : Notice R) :
      Asks c asked d → Asks c asked (Client.logNotice n d)

open Client (Asks)

theorem Client.Asks.trans {c d e : σ} {asked more : List (Asked R)} (hcd : Asks c asked d)
    (hde : Asks d more e) : Asks c (asked ++ more) e := by
  induction hde with
  | refl => rwa [List.append_nil]
  | ask r _ ih =>
      rw [← List.append_assoc]
      exact .ask r ih
  | setIds ids _ ih => exact .setIds ids ih
  | logNotice n _ ih => exact .logNotice n ih

theorem asks_perform (r : Request) (c : σ) :
    Outcome (fun _ d => Asks c [⟨r, .ok ()⟩] d) (fun e d => Asks c [⟨r, .error e⟩] d)
      (r.perform c) := by
  have hask := Asks.ask r (.refl c)
  unfold result after at hask
  revert hask
  cases r.perform c <;> exact id

/-! ## The session meanwhile -/

/-- No frame was handed to the client yet, and nothing failed. -/
def Underway (R : Type) [Session.Client σ R] (s t : Session σ) : Prop :=
  ∃ asked : List (Asked R), Asks s.client asked t.client ∧ Preparatory asked

/-- The requests explain the error. -/
def Broken (s : Session σ) (e : Error R) (t : Session σ) : Prop :=
  ∃ asked, Asks s.client asked t.client ∧ Explains asked e

variable {s t u : Session σ}

theorem Underway.of_asks (h : Asks (R := R) s.client [] t.client) : Underway R s t :=
  ⟨[], h, fun _ h => nomatch h⟩

theorem Underway.trans (hst : Underway R s t) (htu : Underway R t u) : Underway R s u := by
  obtain ⟨asked, hasks, hprepared⟩ := hst
  obtain ⟨more, hmore, hprepared'⟩ := htu
  exact ⟨asked ++ more, hasks.trans hmore, hprepared.append hprepared'⟩

theorem Broken.after {e : Error R} (htu : Broken t e u) (hst : Underway R s t) :
    Broken s e u := by
  obtain ⟨asked, hasks, hprepared⟩ := hst
  obtain ⟨more, hmore, hexplains⟩ := htu
  exact ⟨asked ++ more, hasks.trans hmore, hexplains.after hprepared⟩

theorem Underway.broken {fault : Command.Fault} (h : Underway R s t) :
    Broken s (.command fault : Error R) t := by
  obtain ⟨asked, hasks, hprepared⟩ := h
  exact ⟨asked, hasks, .building fault hprepared⟩

theorem Underway.bind {β : Type} {x : SessionAction R σ α} {f : α → SessionAction R σ β}
    (h : Underway R s t) (hx : Outcome (fun _ u => Underway R t u) (Broken t) (x t))
    (hf : ∀ a u, Underway R s u → Outcome (fun _ _ => True) (Broken s) (f a u)) :
    Outcome (fun _ _ => True) (Broken s) ((x >>= f) t) :=
  hx.bind (fun _ _ he => he.after h) (fun a u hu => hf a u (h.trans hu))

theorem underway_onClient {r : Request} (hr : r.isHanding = false) {x : EStateM (Error R) σ α}
    (hx : Outcome (fun _ d => Asks s.client [⟨r, .ok ()⟩] d)
      (fun e d => Asks s.client [⟨r, .error e⟩] d) (x s.client)) :
    Outcome (fun _ t => Underway R s t) (Broken s) ((onClient x : SessionAction R σ α) s) := by
  refine Outcome.on (hx.mono ?_ ?_)
  · intro a d hd
    refine ⟨[⟨r, .ok ()⟩], hd, ?_⟩
    intro a ha
    rw [List.mem_singleton.1 ha]
    exact ⟨hr, rfl⟩
  · intro e d hd
    have hnone : Preparatory ([] : List (Asked R)) := fun _ h => nomatch h
    exact ⟨_, hd, .client r hnone⟩

theorem underway_protocol (s : Session σ) :
    Outcome (fun _ t => Underway R s t) (Broken s)
      ((onClient Client.protocol : SessionAction R σ Protocol) s) :=
  underway_onClient rfl (asks_perform .protocol s.client).of_discard

theorem underway_readFrame (s : Session σ) :
    Outcome (fun _ t => Underway R s t) (Broken s)
      ((onClient Client.readFrame : SessionAction R σ (Option Frame)) s) :=
  underway_onClient rfl (asks_perform .readFrame s.client).of_discard

theorem underway_raise (x : Except Command.Fault α) (s : Session σ) :
    Outcome (fun _ t => Underway R s t) (Broken s) ((raise x : SessionAction R σ α) s) := by
  cases x with
  | ok a => exact .of_asks (.refl _)
  | error fault => exact (Underway.of_asks (.refl _)).broken

/-- A request that fails explains the error, whatever it is. -/
theorem broken_of_asks {r : Request} {e : Error R} (h : Asks s.client [⟨r, .error e⟩] t.client) :
    Broken s e t := by
  have hnone : Preparatory ([] : List (Asked R)) := fun _ h => nomatch h
  exact ⟨_, h, .client r hnone⟩

theorem broken_sendNew (f : Frame) (sync? : Option Bool) (s : Session σ) :
    Outcome (fun _ _ => True) (Broken s) ((sendNew f sync? : SessionAction R σ Unit) s) := by
  unfold sendNew onClient
  apply Outcome.on
  exact (asks_perform (.sendFrame f sync?) s.client).mono (fun _ _ _ => True.intro)
    (fun _ _ h => broken_of_asks h)

/-! ## Calls -/

theorem broken_subscribe (destination selector ackMode : Given) (headers : List (String × Given))
    (hs : (s.state.mode.isProducer || s.state.mode.isConsumer) = true) :
    Outcome (fun _ _ => True) (Broken s)
      ((subscribe destination selector ackMode headers : SessionAction R σ String) s) := by
  unfold subscribe
  rw [check_of_allowed hs, modifyGet_bind]
  have hcount : Underway R s { s with subscribed := s.subscribed + 1 } := .of_asks (.refl _)
  apply hcount.bind (underway_protocol _)
  intro p t ht
  apply ht.bind (underway_raise _ t)
  intro f u hu
  apply (broken_sendNew _ none u).bind (fun _ _ h => h.after hu)
  exact fun _ _ _ => True.intro

theorem broken_unsubscribe (id : Given) (hs : s.state.mode.isConsumer = true)
    (hid : select? s.state.subscriptions id ≠ none) :
    Outcome (fun _ _ => True) (Broken s) ((unsubscribe id : SessionAction R σ Unit) s) := by
  unfold unsubscribe
  rw [check_of_allowed hs, get_bind]
  cases hselect : select? s.state.subscriptions id with
  | none => exact absurd hselect hid
  | some subscription =>
      have hstart : Underway R s s := .of_asks (.refl _)
      apply hstart.bind (underway_protocol s)
      intro p t ht
      apply ht.bind (underway_raise _ t)
      intro f u hu
      apply (broken_sendNew _ none u).bind (fun _ _ h => h.after hu)
      exact fun _ _ _ => True.intro

theorem broken_begin (hs : (s.state.mode == .producer || s.state.mode == .consumer) = true) :
    Outcome (fun _ _ => True) (Broken s) ((begin : SessionAction R σ String) s) := by
  unfold begin
  rw [check_of_allowed hs, freshId_bind]
  have hfresh : Underway R s
      { s with client := Client.setIds s.client (Client.ids s.client).next.2 } :=
    .of_asks (.setIds _ (.refl _))
  apply hfresh.bind (underway_protocol _)
  intro p t ht
  apply (broken_sendNew _ none t).bind (fun _ _ h => h.after ht)
  exact fun _ _ _ => True.intro

theorem broken_endTransaction {operation : String} (frame : Protocol → Given → Frame)
    (hs : (s.state.mode == .producerTransaction || s.state.mode == .consumerTransaction) = true) :
    Outcome (fun _ _ => True) (Broken s)
      ((endTransaction operation frame : SessionAction R σ Unit) s) := by
  unfold endTransaction
  rw [check_of_allowed hs]
  have hstart : Underway R s s := .of_asks (.refl _)
  apply hstart.bind (underway_protocol s)
  intro p t ht
  rw [get_bind]
  apply (broken_sendNew _ none t).bind (fun _ _ h => h.after ht)
  exact fun _ _ _ => True.intro

theorem broken_read (hs : (s.state.mode.isConsumer || s.state.mode.isDraining) = true) :
    Outcome (fun _ _ => True) (Broken s) ((read : SessionAction R σ (Option Frame)) s) := by
  unfold read
  rw [check_of_allowed hs]
  apply (underway_readFrame s).bind (fun _ _ h => h)
  intro f? t ht
  rw [get_bind]
  dsimp only
  split <;> exact True.intro

theorem broken_sendBody (destination : Given) (body : Bytes) (headers : List (String × Given))
    (s : Session σ) :
    Outcome (fun _ _ => True) (Broken s)
      ((sendBody destination body headers : SessionAction R σ Unit) s) := by
  have hsend : ∀ headers sync?, Outcome (fun _ _ => True) (Broken s)
      ((onClient (Client.sendBody destination body headers sync?) : SessionAction R σ Unit) s) :=
    fun headers sync? => Outcome.on
      ((asks_perform (.sendBody destination body headers sync?) s.client).mono
        (fun _ _ _ => True.intro) (fun _ _ h => broken_of_asks h))
  unfold sendBody
  rw [get_bind]
  cases s.transaction? with
  | none => exact hsend headers none
  | some t => exact hsend (stamped t headers) (some false)

theorem broken_sendPrepared (f : Frame) (destination : Given) (headers : List (String × Given))
    (s : Session σ) :
    Outcome (fun _ _ => True) (Broken s)
      (withFrame f (sendPrepared destination headers) s : EStateM.Result (Error R) _ Unit) := by
  have hsend : ∀ headers sync?, Outcome (fun _ _ => True) (fun e q => Broken s e q.2)
      ((onClientInHand (Client.sendPrepared destination headers sync?) :
        InHand (Error R) (Session σ) Unit) (f, s)) := by
    intro headers sync?
    have hask := asks_perform (.sendPrepared f destination headers sync?) s.client
    unfold Request.perform withFrame at hask
    refine Outcome.on ?_
    revert hask
    dsimp only
    cases Client.sendPrepared destination headers sync? (f, s.client) with
    | ok _ q => exact fun _ => True.intro
    | error e q => exact fun h => broken_of_asks h
  apply Outcome.withFrame
  unfold sendPrepared
  rw [get_bind]
  dsimp only
  cases s.transaction? with
  | none => exact hsend headers none
  | some t => exact hsend (stamped t headers) (some false)

theorem underway_buildAnswer (x : InHand Command.Fault IdSupply Frame) (f : Frame)
    (s : Session σ) :
    Outcome (fun _ q => Underway R s q.2) (fun e q => Broken s e q.2)
      ((buildAnswer x : InHand (Error R) (Session σ) Frame) (f, s)) := by
  have hids : ∀ ids, Underway R s { s with client := Client.setIds s.client ids } :=
    fun ids => .of_asks (.setIds ids (.refl _))
  refine Outcome.on (Outcome.mapError ?_)
  cases x (f, Client.ids s.client) with
  | ok g q => exact hids q.2
  | error fault q => exact (hids q.2).broken

theorem broken_answer {operation : String}
    (build : Protocol → Given → InHand Command.Fault IdSupply Frame) (f : Frame)
    (hs : (s.state.mode.isConsumer || s.state.mode.isDraining) = true) :
    Outcome (fun _ _ => True) (Broken s)
      (withFrame f (answer operation build) s : EStateM.Result (Error R) _ Unit) := by
  apply Outcome.withFrame
  unfold answer
  have hcheck : Outcome (fun _ t => s = t) (fun _ _ => False)
      ((check operation fun m => m.isConsumer || m.isDraining : SessionAction R σ Unit) s) := by
    rw [check_eq, if_pos hs]
    exact rfl
  apply (Outcome.beside hcheck).bind
  · exact fun _ _ h => h.1.elim
  rintro - ⟨g, t⟩ ⟨hst, -⟩
  obtain rfl : s = t := hst
  apply (Outcome.beside (underway_protocol s)).bind
  · exact fun _ _ h => h.1
  rintro p ⟨g, t⟩ ⟨ht, -⟩
  have ht : Underway R s t := ht
  rw [get_bind]
  apply (underway_buildAnswer (build p t.transactionHeader) g t).bind
  · exact fun _ _ h => h.after ht
  rintro answer ⟨g, u⟩ hu
  have hu : Underway R s u := ht.trans hu
  exact (Outcome.beside (broken_sendNew answer (some false) u)).mono (fun _ _ _ => True.intro)
    (fun _ _ h => h.1.after hu)

end Stomp.Session
