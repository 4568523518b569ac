import Stomp.Proofs.Client.Ids
import Stomp.Proofs.Session.Requests

/-!
# Calls that fail

A call that fails leaves the state of the session as it was. A call that is not legal is refused
before anything was touched; any other failure is explained by the requests that the call has made
of the client (`perform_atomic`).
-/

namespace Stomp

def Error.isRefusal {R : Type} : Error R → Bool
  | .illegal _ _ | .draining _ _ | .noSubscription _ _ => true
  | _ => false

namespace Session

open Stomp.Action

variable {R σ : Type}

namespace Call

def operation : Call → String
  | .sendBody _ _ _ | .sendPrepared _ _ _ => "send"
  | .subscribe _ _ _ _ => "subscribe"
  | .unsubscribe _ => "unsubscribe"
  | .begin => "begin"
  | .commit => "commit"
  | .abort => "abort"
  | .ack _ => "ack"
  | .nack _ _ => "nack"
  | .read => "read"

/-- The modes in which a call is legal. -/
def allowed : Call → Mode → Bool
  | .sendBody _ _ _, _ | .sendPrepared _ _ _, _ => true
  | .subscribe _ _ _ _, m => m.isProducer || m.isConsumer
  | .unsubscribe _, m => m.isConsumer
  | .begin, m => m == .producer || m == .consumer
  | .commit, m | .abort, m => m == .producerTransaction || m == .consumerTransaction
  | .ack _, m | .nack _ _, m | .read, m => m.isConsumer || m.isDraining

/-- The subscription that is to be ended exists: it is named, or the latest one is meant. -/
def Names (subscriptions : List Subscription) (id : Given) : Prop :=
  id = .absent ∨ ∃ s ∈ subscriptions, id = .text s.id

instance (subscriptions : List Subscription) (id : Given) : Decidable (Names subscriptions id) :=
  inferInstanceAs (Decidable (_ ∨ _))

/-- The error with which a session in this state refuses the call. -/
def refusal? (c : Call) (state : State) : Option (Error R) :=
  if c.allowed state.mode then
    match c with
    | .unsubscribe id =>
      if Names state.subscriptions id then none else some (.noSubscription state.mode id)
    | _ => none
  else some (state.mode.refusal c.operation)

end Call

/-! ## Subscriptions that there are -/

theorem select?_eq_none_iff {subscriptions : List Subscription} (h : subscriptions ≠ [])
    (id : Given) : select? subscriptions id = none ↔ ¬ Call.Names subscriptions id := by
  unfold Call.Names
  cases id with
  | absent => simp [select?, h]
  | text id =>
      rw [select?, List.find?_eq_none]
      simp only [beq_iff_eq, reduceCtorEq, Given.text.injEq, false_or, not_exists, not_and]
      exact forall₂_congr fun u _ => not_congr eq_comm
  | number n => simp [select?]
  | flag b => simp [select?]

variable [Session.Client σ R]

/-- A consumer has a subscription. -/
def Subscribed (s : Session σ) : Prop :=
  s.state.mode.isConsumer = true → s.state.subscriptions ≠ []

theorem Step.subscribes {s t : Session σ} {sent? : Option Frame} (h : Step s t sent?)
    (hs : Subscribed s) : Subscribed t := by
  intro ht
  cases h with
  | kept h =>
      rw [h.state] at ht ⊢
      exact hs ht
  | drained _ state =>
      rw [state] at ht
      simp at ht
  | answered _ _ state =>
      rw [state] at ht ⊢
      exact hs ht
  | subscribed _ _ _ _ state =>
      rw [state]
      simp
  | unsubscribed _ _ _ _ state =>
      rw [state] at ht ⊢
      rw [subscriptions_afterUnsubscribe]
      exact isConsumer_afterUnsubscribe _ _ _ |>.1 ht
  | begun mode state =>
      rw [state] at ht ⊢
      rcases mode with hmode | hmode
      · rw [if_pos hmode] at ht
        cases ht
      · rw [if_neg (by simp [hmode])]
        exact hs (by rw [hmode]; rfl)
  | ended mode _ state =>
      rw [state] at ht ⊢
      rcases mode with hmode | hmode
      · rw [if_neg (by simp [hmode])] at ht
        cases ht
      · rw [if_pos hmode]
        exact hs (by rw [hmode]; rfl)

theorem subscribed_of_reachable {s : Session σ} (h : Reachable s) : Subscribed s := by
  induction h with
  | new client => exact fun h => nomatch h
  | @call c s _ ih =>
      cases hc : c.isSend with
      | false =>
          obtain ⟨sent?, hstep⟩ := step_next hc s
          exact hstep.subscribes ih
      | true =>
          rw [Subscribed, state_next_of_isSend hc s]
          exact ih
  | client c _ ih => exact ih

/-! ## Failures -/

namespace Call

/-- The session refuses with the error, and nothing was touched. -/
def Refuses (c : Call) (s : Session σ) (e : Error R) : Prop :=
  Outcome (fun _ _ => False) (fun x t => x = e ∧ s = t) ((c.perform : SessionAction R σ Unit) s)

theorem Refuses.perform_eq {c : Call} {s : Session σ} {e : Error R} (h : c.Refuses s e) :
    c.perform s = .error e s := by
  unfold Refuses at h
  revert h
  cases c.perform s with
  | ok _ t => exact False.elim
  | error x t =>
      rintro ⟨rfl, rfl⟩
      rfl

theorem refuses_of_not_allowed {s : Session σ} {c : Call} (h : c.allowed s.state.mode = false) :
    c.Refuses s (s.state.mode.refusal c.operation : Error R) := by
  have hcheck : Outcome (fun _ _ => False)
      (fun x t => x = (s.state.mode.refusal c.operation : Error R) ∧ s = t)
      ((check c.operation c.allowed : SessionAction R σ Unit) s) := by
    rw [check_eq, if_neg (by simp [h])]
    exact ⟨rfl, rfl⟩
  cases c with
  | sendBody destination body headers => cases h
  | sendPrepared f destination headers => cases h
  | subscribe destination selector ackMode headers =>
      exact Outcome.discard (hcheck.bind (fun _ _ h => h) (fun _ _ h => h.elim))
  | unsubscribe id => exact hcheck.bind (fun _ _ h => h) (fun _ _ h => h.elim)
  | begin => exact Outcome.discard (hcheck.bind (fun _ _ h => h) (fun _ _ h => h.elim))
  | commit => exact hcheck.bind (fun _ _ h => h) (fun _ _ h => h.elim)
  | abort => exact hcheck.bind (fun _ _ h => h) (fun _ _ h => h.elim)
  | ack message =>
      apply Outcome.withFrame
      exact (Outcome.beside hcheck).bind (fun _ _ h => h.1) (fun _ _ h => h.1.elim)
  | nack message requeue =>
      apply Outcome.withFrame
      exact (Outcome.beside hcheck).bind (fun _ _ h => h.1) (fun _ _ h => h.1.elim)
  | read => exact Outcome.discard (hcheck.bind (fun _ _ h => h) (fun _ _ h => h.elim))

theorem refuses_of_unnamed {s : Session σ} (hs : Subscribed s)
    (hmode : s.state.mode.isConsumer = true) {id : Given} (hid : ¬ Names s.state.subscriptions id) :
    (Call.unsubscribe id).Refuses s (.noSubscription s.state.mode id : Error R) := by
  have hnone := (select?_eq_none_iff (hs hmode) id).2 hid
  change Outcome _ _ (Session.unsubscribe id s)
  unfold Session.unsubscribe
  rw [check_of_allowed hmode, get_bind, hnone]
  exact ⟨rfl, rfl⟩

theorem refuses_of_refusal {s : Session σ} (hs : Subscribed s) {c : Call} {e : Error R}
    (h : c.refusal? s.state = some e) : c.Refuses s e := by
  unfold refusal? at h
  split at h
  · rename_i hallowed
    match c with
    | .unsubscribe id =>
        dsimp only at h
        split at h
        · cases h
        · rename_i hid
          cases h
          exact refuses_of_unnamed hs hallowed hid
    | .sendBody _ _ _ | .sendPrepared _ _ _ | .subscribe _ _ _ _ | .begin | .commit | .abort
    | .ack _ | .nack _ _ | .read => cases h
  · rename_i hallowed
    cases h
    exact refuses_of_not_allowed (by simpa using hallowed)

end Call

/-- If a call that is legal fails, then because of what became of its requests. -/
theorem broken_perform {s : Session σ} (hs : Subscribed s) {c : Call}
    (h : (c.refusal? s.state : Option (Error R)) = none) :
    Outcome (fun _ _ => True) (Broken s) ((c.perform : SessionAction R σ Unit) s) := by
  have hallowed : c.allowed s.state.mode = true := by
    by_contra hne
    unfold Call.refusal? at h
    rw [if_neg hne] at h
    cases h
  cases c with
  | sendBody destination body headers => exact broken_sendBody destination body headers s
  | sendPrepared f destination headers => exact broken_sendPrepared f destination headers s
  | subscribe destination selector ackMode headers =>
      exact Outcome.discard (broken_subscribe destination selector ackMode headers hallowed)
  | unsubscribe id =>
      have hid : Call.Names s.state.subscriptions id := by
        by_contra hne
        unfold Call.refusal? at h
        rw [if_pos hallowed] at h
        dsimp only at h
        rw [if_neg hne] at h
        cases h
      refine broken_unsubscribe id hallowed fun hnone => ?_
      exact (select?_eq_none_iff (hs hallowed) id).1 hnone hid
  | begin => exact Outcome.discard (broken_begin hallowed)
  | commit => exact broken_endTransaction Protocol.commit hallowed
  | abort => exact broken_endTransaction Protocol.abort hallowed
  | ack message => exact broken_answer Protocol.ack message hallowed
  | nack message requeue =>
      exact broken_answer (fun p t => p.nack t requeue) message hallowed
  | read => exact Outcome.discard (broken_read hallowed)

theorem state_of_error {s t : Session σ} {c : Call} {e : Error R} (h : c.perform s = .error e t) :
    t.state = s.state := by
  cases hc : c.isSend with
  | false =>
      have hkept := outcome_perform (R := R) hc s
      rw [h] at hkept
      exact hkept.state
  | true =>
      have hstate := state_next_of_isSend hc s
      rw [Call.next, after, h] at hstate
      exact hstate

open Stomp.Session.Client (Asks)

theorem Client.Asks.answered {c d : σ} {asked : List (Asked R)} (h : Asks c asked d) :
    ∀ a ∈ asked, ∃ d : σ, a.result = result a.request.perform d := by
  induction h with
  | refl => exact fun _ h => nomatch h
  | @ask d asked r _ ih =>
      intro a ha
      rcases List.mem_append.1 ha with ha | ha
      · exact ih a ha
      · obtain rfl := List.mem_singleton.1 ha
        exact ⟨d, rfl⟩
  | setIds _ _ ih => exact ih
  | logNotice _ _ ih => exact ih

theorem Broken.not_isRefusal {s t : Session σ} {e : Error R} (h : Broken s e t)
    (hclient : ∀ (r : Request) (d : σ) (e : Error R),
      result r.perform d = .error e → e.isRefusal = false) : e.isRefusal = false := by
  obtain ⟨asked, hasks, hexplains⟩ := h
  cases hexplains with
  | building fault _ => rfl
  | client request _ =>
      obtain ⟨d, hd⟩ := hasks.answered ⟨request, .error e⟩ (by simp)
      exact hclient request d e hd.symm

/-- A call that fails leaves the state as it was. One that is not legal fails with its refusal
before anything was touched; in another one a frame could not be built, with none handed to the
client, or the last request to the client failed. So the session refuses exactly the calls that are
not legal. -/
theorem perform_atomic {s : Session σ} (hs : Reachable s) (c : Call) :
    (∀ (e : Error R) t, c.perform s = .error e t → t.state = s.state) ∧
    (∀ e : Error R, c.refusal? s.state = some e → c.perform s = .error e s) ∧
    ((c.refusal? s.state : Option (Error R)) = none → ∀ (e : Error R) t, c.perform s = .error e t →
      ∃ asked, Asks s.client asked t.client ∧ Explains asked e) ∧
    ((∀ (r : Request) (d : σ) (e : Error R),
        result r.perform d = .error e → e.isRefusal = false) →
      ∀ e : Error R, e.isRefusal = true →
        ((∃ t, c.perform s = .error e t) ↔ c.refusal? s.state = some e)) := by
  have hsubscribed := subscribed_of_reachable hs
  have hrefused : ∀ e : Error R, c.refusal? s.state = some e → c.perform s = .error e s :=
    fun e h => (Call.refuses_of_refusal hsubscribed h).perform_eq
  have hbroken : (c.refusal? s.state : Option (Error R)) = none → ∀ (e : Error R) t,
      c.perform s = .error e t → Broken s e t := by
    intro hlegal e t h
    have hperform := broken_perform hsubscribed hlegal
    rw [h] at hperform
    exact hperform
  refine ⟨fun e t h => state_of_error h, hrefused, hbroken, ?_⟩
  intro hclient e he
  constructor
  · rintro ⟨t, ht⟩
    cases hrefusal : (c.refusal? s.state : Option (Error R)) with
    | none =>
        have hno := (hbroken hrefusal e t ht).not_isRefusal hclient
        rw [he] at hno
        cases hno
    | some x =>
        have hx := hrefused x hrefusal
        rw [ht] at hx
        cases hx
        rfl
  · exact fun h => ⟨s, hrefused e h⟩

/-- A consumer of one subscription that is to end another one. -/
theorem perform_atomic_unnamed :
    let s : Session (Stomp.Client (Script Rat) Rat) :=
      (Call.subscribe (.text "/q") .absent (.text "auto") []).next
        { client := Stomp.Client.unanswered }
    s.state.mode = .consumer ∧
      (Call.unsubscribe (.text "7")).perform s =
        .error (.noSubscription .consumer (.text "7")) s := by
  intro s
  have hs : Reachable s := .call _ (.new _)
  have hstate : s.state = .consumer [⟨.text "/q", .absent, .text "auto", "0", []⟩] := by
    decide +kernel
  have hrefusal : ((Call.unsubscribe (.text "7")).refusal? s.state : Option (Error Rat)) =
      some (.noSubscription .consumer (.text "7")) := by
    rw [hstate]
    rfl
  refine ⟨?_, (perform_atomic hs _).2.1 _ hrefusal⟩
  rw [hstate]
  rfl

end Session

end Stomp
