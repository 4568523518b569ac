import Stomp.Proofs.Client.Backlog
import Stomp.Proofs.Client.Call
import Stomp.Proofs.Session.Atomicity

/-!
# Draining

A session that drains hands over the backlog of its client, in order, before anything that is read
from the channel later, and it drains until a read finds nothing (`draining_complete`).
-/

namespace Stomp.Session

open Stomp.Action

theorem Mode.of_isDraining {m : Mode} (h : m.isDraining = true) :
    m = .draining ∨ m = .drainingTransaction := by
  simpa [isDraining] using h

theorem Mode.isConsumer_or_isDraining {m : Mode} (h : m.isProducer = false) :
    (m.isConsumer || m.isDraining) = true := by
  revert h
  cases m <;> decide

theorem bufferEmpty_of_isProducer {subscriptions : List Subscription} {t? : Option String}
    {bufferEmpty : Bool}
    (h : (afterUnsubscribe subscriptions t? bufferEmpty).mode.isProducer = true) :
    bufferEmpty = true := by
  unfold afterUnsubscribe at h
  split at h
  · cases t? <;> cases h
  · split at h
    · assumption
    · cases t? <;> cases h

/-! ## Readings -/

section Readings

variable {R σ : Type} [Session.Client σ R]

def readings (s : Session σ) : List Call → List (Except (Error R) (Option Frame))
  | [] => []
  | .read :: calls => result Session.read s :: readings (Call.read.next s) calls
  | c :: calls => readings (c.next s) calls

theorem readings_cons {c : Call} (hc : c ≠ .read) (s : Session σ) (calls : List Call) :
    readings s (c :: calls) = readings (c.next s) calls := by
  cases c with
  | read => exact absurd rfl hc
  | _ => rfl

theorem next_read (s : Session σ) : Call.read.next s = after Session.read s :=
  after_discard Session.read s

end Readings

variable {κ R : Type} [Channel κ R]

abbrev Calm (s t : Session (Stomp.Client κ R)) : Prop := ClientOnly s.client.Quiet s t

theorem Calm.trans {s t u : Session (Stomp.Client κ R)} (hst : Calm s t) (htu : Calm t u) :
    Calm s u :=
  ⟨htu.state.trans hst.state, htu.subscribed.trans hst.subscribed, hst.client.trans htu.client⟩

theorem Calm.refl (s : Session (Stomp.Client κ R)) : Calm s s := ⟨rfl, rfl, .refl _⟩

variable [Scale R]

def Unreceipted (s : Session (Stomp.Client κ R)) : Prop :=
  s.messageSync.getD s.client.config.sync = false

/-- No call waits for the receipt of a message. -/
def Asynchronous (s : Session (Stomp.Client κ R)) : List Call → Prop
  | [] => True
  | c :: calls => (c.isSend = true → Unreceipted s) ∧ Asynchronous (c.next s) calls

/-! ## The calls of a session that drains -/

theorem quiet_transition (old new : Mode) (c : Stomp.Client κ R) :
    c.Quiet (Client.logNotice (.transition old new) c) := by
  have hparsed := Transport.parsed_logNotice (R := R) (.transition old new) c.transport
  exact ⟨hparsed.brings, rfl, rfl⟩

theorem calm_sendNew {s : Session (Stomp.Client κ R)} (hs : s.client.transport.Unwatched)
    (f : Frame) : Leaves (Calm s) ((sendNew f (some false) : SessionAction R _ Unit) s) := by
  refine outcome_onClient (Outcome.withFrame ((Client.quiet_sendFrame hs f rfl).mono ?_ ?_))
  · exact fun _ _ h => h
  · exact fun _ _ h => h.2

theorem calm_protocol (s : Session (Stomp.Client κ R)) :
    Leaves (Calm s) ((onClient Client.protocol : SessionAction R _ Protocol) s) := by
  refine outcome_onClient ((Client.outcome_protocol s.client).mono ?_ ?_)
  · rintro p d ⟨-, rfl⟩
    exact .refl _
  · rintro e d ⟨-, rfl⟩
    exact .refl _

theorem calm_buildAnswer (x : InHand Command.Fault IdSupply Frame) (f : Frame)
    (s : Session (Stomp.Client κ R)) :
    Leaves (fun q => Calm s q.2)
      ((buildAnswer x : InHand (Error R) (Session _) Frame) (f, s)) := by
  have hids : ∀ ids, Calm s { s with client := Client.setIds s.client ids } :=
    fun ids => ⟨rfl, rfl, .refl _, rfl, rfl⟩
  refine Outcome.on (Outcome.mapError ?_)
  cases x (f, Client.ids s.client) with
  | ok answer q => exact hids q.2
  | error fault q => exact hids q.2

theorem calm_answer {s : Session (Stomp.Client κ R)} (hs : s.client.transport.Unwatched)
    (operation : String) (build : Protocol → Given → InHand Command.Fault IdSupply Frame)
    (f : Frame) : Leaves (Calm s) (withFrame f (answer operation build) s) := by
  apply Outcome.withFrame
  unfold answer
  apply (Outcome.beside (outcome_check operation _ s)).bind
  · rintro e ⟨g, t⟩ ⟨hst, -⟩
    obtain rfl : s = t := hst
    exact Calm.refl s
  rintro - ⟨g, t⟩ ⟨⟨-, hst⟩, -⟩
  obtain rfl : s = t := hst
  apply (Outcome.beside (calm_protocol s)).bind
  · exact fun _ _ h => h.1
  rintro p ⟨g, t⟩ ⟨ht, -⟩
  have ht : Calm s t := ht
  rw [get_bind]
  apply (calm_buildAnswer (build p t.transactionHeader) g t).bind
  · exact fun _ _ h => ht.trans h
  rintro answer ⟨g, u⟩ hu
  have hu : Calm s u := ht.trans hu
  have hsend := calm_sendNew (hs.of_eq hu.client.transport.observers) answer
  exact (Outcome.beside hsend).mono (fun _ _ h => hu.trans h.1) (fun _ _ h => hu.trans h.1)

theorem calm_of_isSend {s : Session (Stomp.Client κ R)} (hs : s.client.transport.Unwatched)
    {c : Call} (hc : c.isSend = true) (hsend : Unreceipted s) : Calm s (c.next s) := by
  apply next_of_isSend hc s
  · intro destination body headers
    have hquiet := Client.quiet_sendBody hs destination body headers hsend
    exact hquiet.mono (fun _ _ h => h) (fun _ _ h => h.2)
  · intro f destination headers
    have hquiet := Client.quiet_sendPrepared hs f destination headers hsend
    exact hquiet.mono (fun _ _ h => h) (fun _ _ h => h.2)

/-- Calls other than reads leave a session that drains as it is, if they do not wait. -/
theorem calm_next {s : Session (Stomp.Client κ R)} (hs : s.client.transport.Unwatched)
    (hmode : s.state.mode.isDraining = true) {c : Call} (hc : c ≠ .read)
    (hsend : c.isSend = true → Unreceipted s) : Calm s (c.next s) := by
  have hrefused : c.allowed s.state.mode = false → Calm s (c.next s) := by
    intro h
    rw [Call.next, after, (Call.refuses_of_not_allowed (R := R) h).perform_eq]
    exact Calm.refl s
  cases c with
  | sendBody _ _ _ | sendPrepared _ _ _ => exact calm_of_isSend hs rfl (hsend rfl)
  | ack message => exact leaves_iff.1 (calm_answer hs "ack" Protocol.ack message)
  | nack message requeue =>
      exact leaves_iff.1 (calm_answer hs "nack" (fun p t => p.nack t requeue) message)
  | read => exact absurd rfl hc
  | subscribe _ _ _ _ | unsubscribe _ | begin | commit | abort =>
      apply hrefused
      rcases Mode.of_isDraining hmode with hmode | hmode <;> rw [hmode] <;> rfl

/-! ## Reads -/

/-- A read took the first of the backlog; and one that finds nothing ends the draining. -/
structure Taken (s : Session (Stomp.Client κ R)) (result : Except (Error R) (Option Frame))
    (t : Session (Stomp.Client κ R)) : Prop where
  client : s.client.Gave result t.client
  state : t.state = s.state ∨ result = .ok none ∧ t.state = .producing s.transaction?
  drained : result = .ok none → s.state.mode.isDraining = true →
    t.state = .producing s.transaction?

theorem taken_read {s : Session (Stomp.Client κ R)} (hs : s.client.transport.Unwatched)
    (hmode : (s.state.mode.isConsumer || s.state.mode.isDraining) = true) :
    Taken s (result Session.read s) (Call.read.next s) := by
  rw [next_read]
  apply outcome_result (P := Taken s)
  unfold Session.read
  rw [check_of_allowed hmode]
  have hread : Outcome
      (fun f? t => s.client.Gave (.ok f?) t.client ∧ t.state = s.state)
      (fun e t => s.client.Gave (.error e) t.client ∧ t.state = s.state)
      ((onClient Client.readFrame : SessionAction R _ (Option Frame)) s) :=
    Outcome.on ((Client.gave_readFrame hs).mono (fun _ _ h => ⟨h, rfl⟩) (fun _ _ h => ⟨h, rfl⟩))
  apply hread.bind
  · rintro e t ⟨hgave, hstate⟩
    exact ⟨hgave, Or.inl hstate, fun h => nomatch h⟩
  rintro f? t ⟨hgave, hstate⟩
  rw [get_bind]
  dsimp only
  split
  · rename_i hdrained
    obtain ⟨hnone, -⟩ := Bool.and_eq_true_iff.1 hdrained
    obtain rfl := Option.isNone_iff_eq_none.1 hnone
    have hmoved : State.producing t.transaction? = .producing s.transaction? := by
      rw [transaction?, hstate]
      rfl
    exact ⟨hgave.quiet (quiet_transition _ _ _), Or.inr ⟨rfl, hmoved⟩, fun _ _ => hmoved⟩
  · rename_i hdrained
    refine ⟨hgave, Or.inl hstate, ?_⟩
    rintro hnone hdraining
    cases hnone
    rw [hstate] at hdrained
    exact absurd hdraining (by simpa using hdrained)

theorem outcome_unsubscribe_settled (id : Given) (s : Session (Stomp.Client κ R)) :
    Outcome (fun _ t => t.state.mode.isProducer = true →
        t.client.queue = [] ∧ t.client.transport.parser.Settled)
      (fun _ _ => True) ((unsubscribe id : SessionAction R _ Unit) s) := by
  unfold unsubscribe
  apply Outcome.bind (Keeps.trivial _ s) (fun _ _ h => h)
  rintro - t -
  rw [get_bind]
  cases select? t.state.subscriptions id with
  | none => exact True.intro
  | some subscription =>
      apply Outcome.bind (Keeps.trivial _ t) (fun _ _ h => h)
      rintro p u -
      apply Outcome.bind (Keeps.trivial _ u) (fun _ _ h => h)
      rintro f v -
      apply Outcome.bind (Keeps.trivial _ v) (fun _ _ h => h)
      rintro - w -
      intro hproducer
      exact Client.settled_of_isBufferEmpty (bufferEmpty_of_isProducer hproducer)

theorem settled_of_isProducer {s : Session (Stomp.Client κ R)} (hs : s.client.transport.Unwatched)
    {c : Call} (hc : c = .read ∨ ∃ id, c = .unsubscribe id)
    (hbefore : s.state.mode.isProducer = false)
    (hafter : (c.next s).state.mode.isProducer = true) :
    (c.next s).client.queue = [] ∧ (c.next s).client.transport.parser.Settled := by
  rcases hc with rfl | ⟨id, rfl⟩
  · have htaken := taken_read hs (Mode.isConsumer_or_isDraining hbefore)
    rcases htaken.state with hstate | ⟨hnone, -⟩
    · rw [hstate, hbefore] at hafter
      cases hafter
    · have hgave := htaken.client
      rw [hnone] at hgave
      exact hgave.settled
  · have hsettles : Leaves (fun t => t.state.mode.isProducer = true →
          t.client.queue = [] ∧ t.client.transport.parser.Settled)
        ((Call.unsubscribe id).perform s : EStateM.Result (Error R) _ Unit) := by
      refine (outcome_unsubscribe_settled id s).of_error fun e t hperform hafter => ?_
      rw [state_of_error (c := .unsubscribe id) hperform, hbefore] at hafter
      cases hafter
    exact leaves_iff.1 hsettles hafter

/-! ## Runs -/

theorem readings_backlog {s : Session (Stomp.Client κ R)} (hs : s.client.transport.Unwatched)
    (hmode : s.state.mode.isDraining = true) {calls : List Call} (hcalls : Asynchronous s calls) :
    readings s calls <+: s.client.backlog ∨ s.client.backlog <+: readings s calls := by
  induction calls generalizing s with
  | nil => exact Or.inl List.nil_prefix
  | cons c calls ih =>
      by_cases hc : c = .read
      · subst hc
        have htaken := taken_read hs (by simp [hmode])
        rcases htaken.client.backlog with hbacklog | ⟨hbacklog, -⟩
        · have hne : result Session.read s ≠ .ok none := by
            intro hnone
            rw [hnone] at hbacklog
            exact Client.none_not_mem_backlog s.client (hbacklog ▸ List.mem_cons_self)
          have hstate := htaken.state.resolve_right fun h => hne h.1
          have hrest := ih (hs.of_eq htaken.client.observers) (hstate ▸ hmode) hcalls.2
          rw [hbacklog, readings, List.prefix_cons_inj, List.prefix_cons_inj]
          exact hrest
        · rw [hbacklog]
          exact Or.inr List.nil_prefix
      · have hcalm := calm_next hs hmode hc hcalls.1
        rw [readings_cons hc, ← hcalm.client.backlog_eq]
        exact ih (hs.of_eq hcalm.client.transport.observers) (hcalm.state ▸ hmode) hcalls.2

theorem state_run_of_draining {s : Session (Stomp.Client κ R)}
    (hs : s.client.transport.Unwatched) (hmode : s.state.mode.isDraining = true)
    {calls : List Call} (hcalls : Asynchronous s calls) (hnone : .ok none ∉ readings s calls) :
    (s.run calls).state = s.state ∧ (s.run calls).client.transport.Unwatched := by
  induction calls generalizing s with
  | nil => exact ⟨rfl, hs⟩
  | cons c calls ih =>
      have hkept : (c.next s).state = s.state ∧
          (c.next s).client.transport.Unwatched ∧ .ok none ∉ readings (c.next s) calls := by
        by_cases hc : c = .read
        · subst hc
          have htaken := taken_read hs (by simp [hmode])
          rw [readings, List.mem_cons, not_or] at hnone
          exact ⟨htaken.state.resolve_right fun h => hnone.1 h.1.symm,
            hs.of_eq htaken.client.observers, hnone.2⟩
        · have hcalm := calm_next hs hmode hc hcalls.1
          rw [readings_cons hc] at hnone
          exact ⟨hcalm.state, hs.of_eq hcalm.client.transport.observers, hnone⟩
      obtain ⟨hstate, hunwatched, hrest⟩ := hkept
      have hrun := ih hunwatched (hstate ▸ hmode) hcalls.2 hrest
      exact ⟨hrun.1.trans hstate, hrun.2⟩

/-- A session becomes a producer, by ending its last subscription or by a read, only with nothing
left to read. While it drains, its reads give the backlog of the client in order, before anything
that is read from the channel later. It drains until a read finds nothing, which ends it. -/
theorem draining_complete {s : Session (Stomp.Client κ R)} (hs : s.client.transport.Unwatched) :
    (∀ c : Call, c = .read ∨ (∃ id, c = .unsubscribe id) → s.state.mode.isProducer = false →
      (c.next s).state.mode.isProducer = true →
      (c.next s).client.queue = [] ∧ (c.next s).client.transport.parser.Settled) ∧
    ∀ t?, s.state = .emptying t? → ∀ calls, Asynchronous s calls →
      (readings s calls <+: s.client.backlog ∨ s.client.backlog <+: readings s calls) ∧
      (.ok none ∉ readings s calls → (s.run calls).state = .emptying t? ∧
        (result Session.read (s.run calls) = .ok none →
          (Call.read.next (s.run calls)).state = .producing t?)) := by
  refine ⟨fun c hc => settled_of_isProducer hs hc, ?_⟩
  intro t? hstate calls hcalls
  have hmode : s.state.mode.isDraining = true := by
    rw [hstate]
    cases t? <;> rfl
  refine ⟨readings_backlog hs hmode hcalls, fun hnone => ?_⟩
  obtain ⟨hrun, hunwatched⟩ := state_run_of_draining hs hmode hcalls hnone
  refine ⟨hrun.trans hstate, fun hlast => ?_⟩
  rw [← hrun] at hmode
  have htaken := taken_read hunwatched (by simp [hmode])
  rw [htaken.drained hlast hmode, transaction?, hrun, hstate, State.transaction?_emptying]

/-- A message comes before the receipt of the frame that ends the subscription, and another one
after it. -/
def leftovers : List Bytes :=
  [Bytes.ofString "RECEIPT\nreceipt-id:uid-1\n\n\x00",
    Bytes.ofString "MESSAGE\n\na\x00RECEIPT\nreceipt-id:uid-2\n\n\x00MESSAGE\n\nb\x00"]

/-- Both messages are read before the session is a producer; until then no transaction begins. -/
theorem draining_complete_leftovers :
    let s : Session (Stomp.Client (Script Rat) Rat) := run { client := .hearing leftovers }
      [.subscribe (.text "/q") .absent (.text "auto") [], .unsubscribe .absent]
    let calls : List Call := [.read, .begin, .read]
    s.state = .draining ∧
    (readings s calls).map (fun r => r.toOption.map (Option.map Frame.body)) =
      [some (some [97]), some (some [98])] ∧
    (readings s calls <+: s.client.backlog ∨ s.client.backlog <+: readings s calls) ∧
    (s.run calls).state = .draining ∧
    let t := Call.read.next (s.run calls)
    t.state = .producer ∧ t.client.queue = [] ∧ t.client.transport.parser.Settled := by
  intro s calls
  have hs : s.client.transport.Unwatched := List.isEmpty_iff.1 (by decide +kernel)
  have hstate : s.state = .draining := by decide +kernel
  have hread : (readings s calls).map (fun r => r.toOption.map (Option.map Frame.body)) =
      [some (some [97]), some (some [98])] := by decide +kernel
  have hcalls : Asynchronous s calls :=
    ⟨by simp [Call.isSend], by simp [Call.isSend], by simp [Call.isSend], True.intro⟩
  have hnone : .ok none ∉ readings s calls := by
    intro h
    have hmem := List.mem_map_of_mem (f := fun r => r.toOption.map (Option.map Frame.body)) h
    rw [hread] at hmem
    simp [Except.toOption] at hmem
  have hlast : result Session.read (s.run calls) = .ok none := by
    have hnothing : (result Session.read (s.run calls)).toOption.map Option.isNone = some true := by
      decide +kernel
    revert hnothing
    rcases result Session.read (s.run calls) with e | _ | f <;> simp [Except.toOption]
  obtain ⟨hbacklog, hdrains⟩ := (draining_complete hs).2 none hstate calls hcalls
  obtain ⟨hrun, hended⟩ := hdrains hnone
  have hrest : (s.run calls).client.transport.Unwatched := List.isEmpty_iff.1 (by decide +kernel)
  have hsettled := (draining_complete hrest).1 .read (Or.inl rfl) (by rw [hrun]; rfl)
    (by rw [hended hlast]; rfl)
  exact ⟨hstate, hread, hbacklog, hrun, hended hlast, hsettled⟩

end Stomp.Session
