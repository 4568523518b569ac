import Stomp.Heartbeat
import Stomp.Proofs.Action.Outcome

/-!
# What an event does to an observer of heart-beats

Before it is enabled, an observer learns from the frames of a handshake, and becomes what `greeted`
says (`outcome_handshake`); other events are of no consequence (`observe_of_not_greeting`).
Afterwards a detector remembers when it heard of the broker, and gives the alarm when a read brings
nothing for too long (`outcome_observe_detector`). An emitter remembers when the client wrote, and
writes a beat when one is due (`observe_emitter`).
-/

namespace Stomp

open Stomp.Action

variable {κ R : Type}

namespace Error

/-- The errors of the heart-beats themselves: a silent broker, or a beat that was not written. -/
def isHeartbeat : Error R → Bool
  | .serverSilent _ | .beatFailed _ => true
  | _ => false

end Error

namespace Event

def greeting? : Event → Option Frame
  | .received f => if f.command = Verb.connected then some f else none
  | .sent f => if f.command = Verb.connect then some f else none
  | _ => none

def isArrival : Event → Bool
  | .received _ | .emptyLine | .emptyBuffer => true
  | _ => false

def isSent : Event → Bool
  | .sent _ => true
  | _ => false

def isEmptyRead : Event → Bool
  | .emptyRead => true
  | _ => false

theorem arrival_or_sent_or_emptyRead (e : Event) :
    e.isArrival = true ∨ (∃ f, e = .sent f) ∨ e = .emptyRead := by
  cases e with
  | emptyLine => exact .inl rfl
  | emptyBuffer => exact .inl rfl
  | received f => exact .inl rfl
  | sent f => exact .inr (.inl ⟨f, rfl⟩)
  | emptyRead => exact .inr (.inr rfl)

theorem isEmptyRead_iff {e : Event} : e.isEmptyRead = true ↔ e = .emptyRead := by
  cases e <;> simp [isEmptyRead]

theorem isSent_of_arrival {e : Event} (h : e.isArrival = true) : e.isSent = false := by
  cases e with
  | sent f => cases h
  | _ => rfl

theorem isEmptyRead_of_arrival {e : Event} (h : e.isArrival = true) : e.isEmptyRead = false := by
  cases e with
  | emptyRead => cases h
  | _ => rfl

end Event

namespace Link

/-- The channel was left alone; at most, notices were given. -/
structure Untouched (l m : Link κ R) : Prop where
  channel : m.channel = l.channel
  journal : m.journal = l.journal

namespace Untouched

variable {l m n : Link κ R}

theorem refl (l : Link κ R) : l.Untouched l := ⟨rfl, rfl⟩

theorem notify (h : l.Untouched m) (notice : Notice R) : l.Untouched (m.notify notice) :=
  ⟨h.channel, h.journal⟩

theorem now_eq [Channel κ R] (h : l.Untouched m) : m.now = l.now := by
  rw [Link.now, Link.now, h.channel]

end Untouched

end Link

namespace Heartbeat

/-! ## Handshakes -/

/-- The numbers of a heart-beat header; zeros if it is missing or invalid. -/
def offered (f : Frame) : Int × Int :=
  match offers? f with
  | .ok offer => offer
  | .error _ => (0, 0)

theorem outcome_readOffers (f : Frame) (h : Heartbeat R) (l : Link κ R) :
    Outcome (fun offer p => offer = offered f ∧ p.1 = h ∧ l.Untouched p.2) (fun _ _ => False)
      ((readOffers f : Beating κ R (Int × Int)) (h, l)) := by
  unfold readOffers offered
  cases offers? f with
  | ok offer => exact ⟨rfl, rfl, .refl l⟩
  | error value => exact ⟨rfl, rfl, (Link.Untouched.refl l).notify _⟩

variable [Scale R] [Channel κ R] {h : Heartbeat R} {l : Link κ R}

/-- A beat after so many milliseconds is not due before a read may end. -/
def timely (c : κ) (interval : R) : Bool :=
  match ((Channel.readTimeout c).1.times? 1000).bind Quantity.toScale?,
    (Channel.readTimeout c).2.toScale? with
  | some s, some m => !Scale.lt interval (s + m / Scale.decimal 1000 0)
  | _, _ => false

/-- The interval, in milliseconds, that the observer takes up for the agreed one, if it can. -/
def takenUp? (h : Heartbeat R) (c : κ) (agreed : Int) : Option R :=
  let interval? := (h.usage.times? agreed).bind Quantity.toScale?
  match h.role with
  | .plain => none
  | .detector => interval?
  | .emitter => interval?.filter (timely c)

theorem takenUp?_detector (hrole : h.role = .detector) (c : κ) (agreed : Int) :
    h.takenUp? c agreed = (h.usage.times? agreed).bind Quantity.toScale? := by
  rw [takenUp?, hrole]

/-- What the observer knows of the offers after a frame of a handshake. -/
def taught (h : Heartbeat R) (l : Link κ R) (f : Frame) : Heartbeat R :=
  h.learn l.now f (offered f)

/-- The observer as it acts from now on, if there is an agreed interval and it can be taken up. -/
def settled (h : Heartbeat R) (l : Link κ R) : Heartbeat R :=
  match h.agreed?.bind (h.takenUp? l.channel) with
  | some milliseconds =>
    { h with interval? := some (seconds milliseconds), enabled := true, lastBeat? := some l.now }
  | none => h

def greeted (h : Heartbeat R) (l : Link κ R) (f : Frame) : Heartbeat R := (h.taught l f).settled l

theorem outcome_checkReadTimeout (interval : R) (h : Heartbeat R) (l : Link κ R) :
    Outcome (fun _ p => p = (h, l) ∧ timely l.channel interval = true)
      (fun e p => p = (h, l) ∧ timely l.channel interval = false ∧ e.isHeartbeat = false)
      ((checkReadTimeout interval : Beating κ R Unit) (h, l)) := by
  unfold checkReadTimeout timely
  rw [get_bind]
  dsimp only
  cases ((Channel.readTimeout l.channel).1.times? 1000).bind Quantity.toScale? with
  | none => exact ⟨rfl, rfl, rfl⟩
  | some s =>
      cases (Channel.readTimeout l.channel).2.toScale? with
      | none => exact ⟨rfl, rfl, rfl⟩
      | some m =>
          dsimp only
          split
          · rename_i hshort
            exact ⟨rfl, by rw [hshort, Bool.not_true], rfl⟩
          · rename_i hlong
            exact ⟨rfl, by rw [Bool.eq_false_iff.2 hlong, Bool.not_false]⟩

theorem outcome_calculateInterval (agreed : Int) (h : Heartbeat R) (l : Link κ R) :
    Outcome (fun interval p => p = (h, l) ∧ interval.toScale? = h.takenUp? l.channel agreed)
      (fun e p => p = (h, l) ∧ h.takenUp? l.channel agreed = none ∧ e.isHeartbeat = false)
      ((calculateInterval agreed : Beating κ R (Quantity R)) (h, l)) := by
  unfold calculateInterval takenUp?
  rw [get_bind]
  dsimp only
  cases h.role with
  | plain => exact ⟨rfl, rfl, rfl⟩
  | detector =>
      cases h.usage.times? agreed with
      | some interval => exact ⟨rfl, rfl⟩
      | none => exact ⟨rfl, rfl, rfl⟩
  | emitter =>
      cases (h.usage.times? agreed).bind Quantity.toScale? with
      | some interval =>
          apply (outcome_checkReadTimeout interval h l).bind
          · rintro e p ⟨rfl, htimely, he⟩
            exact ⟨rfl, Option.filter_some_neg htimely, he⟩
          · rintro - p ⟨rfl, htimely⟩
            exact ⟨rfl, (Option.filter_some_pos htimely).symm⟩
      | none => exact ⟨rfl, rfl, rfl⟩

/-- A handshake succeeds unless there is an agreed interval that cannot be taken up. -/
theorem outcome_handshake (hrole : h.role ≠ .plain) (l : Link κ R) (f : Frame) :
    Outcome (fun _ p => p.1 = h.greeted l f ∧ l.Untouched p.2)
      (fun e p => p.1 = h.greeted l f ∧ l.Untouched p.2 ∧ e.isHeartbeat = false ∧
        ∃ agreed, (h.taught l f).agreed? = some agreed ∧
          (h.taught l f).takenUp? l.channel agreed = none)
      ((handshake f : Beating κ R Unit) (h, l)) := by
  unfold handshake
  apply (outcome_readOffers f h l).bind (fun _ _ h => h.elim)
  rintro offer ⟨k, m⟩ ⟨rfl, hk, hm⟩
  obtain rfl : k = h := hk
  rw [get_bind]
  dsimp only
  rw [if_neg hrole, set_bind, hm.now_eq, ← taught]
  unfold greeted settled
  cases hagreed : (k.taught l f).agreed? with
  | none => exact ⟨rfl, hm⟩
  | some agreed =>
      dsimp only
      rw [Option.bind_some, ← hm.channel]
      apply (outcome_calculateInterval agreed (k.taught l f) m).bind
      · rintro e p ⟨rfl, hnone, he⟩
        rw [hnone]
        exact ⟨rfl, hm, he, agreed, rfl, hnone⟩
      rintro interval p ⟨rfl, hinterval⟩
      rw [← hinterval]
      cases hscale : interval.toScale? with
      | none => exact ⟨rfl, hm, rfl, agreed, rfl, hinterval ▸ hscale⟩
      | some milliseconds =>
          rw [← hm.now_eq]
          exact ⟨rfl, hm.notify _⟩

/-! ## Notifications -/

theorem observe_received (f : Frame) (h : Heartbeat R) (l : Link κ R) :
    (observe (.received f) : Beating κ R Unit) (h, l) =
      if h.enabled then onServerActivity (h, l)
      else if f.command = Verb.connected then handshake f (h, l) else .ok () (h, l) := by
  unfold observe
  rw [get_bind]
  dsimp only
  split
  · rfl
  · split <;> rfl

theorem observe_sent (f : Frame) (h : Heartbeat R) (l : Link κ R) :
    (observe (.sent f) : Beating κ R Unit) (h, l) =
      if h.enabled then onClientActivity (h, l)
      else if f.command = Verb.connect then handshake f (h, l) else .ok () (h, l) := by
  unfold observe
  rw [get_bind]
  dsimp only
  split
  · rfl
  · split <;> rfl

theorem checkDelayed_eq (h : Heartbeat R) (l : Link κ R) :
    (checkDelayed : Beating κ R Unit) (h, l) =
      if h.isDelayed l.now then onDelay (h, l) else .ok () (h, l) := by
  unfold checkDelayed
  rw [get_bind]
  dsimp only
  split <;> rfl

omit [Scale R] in
theorem onClientActivity_eq (h : Heartbeat R) (l : Link κ R) :
    (onClientActivity : Beating κ R Unit) (h, l) =
      .ok () (if h.role = .emitter then { h with lastBeat? := some l.now } else h, l) := by
  unfold onClientActivity
  rw [get_bind]
  dsimp only
  split <;> rfl

theorem onServerActivity_detector (hrole : h.role = .detector) (l : Link κ R) :
    (onServerActivity : Beating κ R Unit) (h, l) =
      .ok () ({ h with lastBeat? := some l.now }, l) := by
  cases h
  cases hrole
  rfl

theorem onServerActivity_emitter (hrole : h.role = .emitter) (l : Link κ R) :
    (onServerActivity : Beating κ R Unit) (h, l) = checkDelayed (h, l) := by
  cases h
  cases hrole
  rfl

theorem onSilence_detector (hrole : h.role = .detector) (l : Link κ R) :
    (onSilence : Beating κ R Unit) (h, l) = checkDelayed (h, l) := by
  cases h
  cases hrole
  rfl

theorem onSilence_emitter (hrole : h.role = .emitter) (l : Link κ R) :
    (onSilence : Beating κ R Unit) (h, l) =
      if h.pessimistic && h.enabled then onDelay (h, l) else checkDelayed (h, l) := by
  cases h
  cases hrole
  unfold onSilence
  rw [get_bind]
  dsimp only
  split <;> rfl

/-! ## Before the observer is enabled -/

omit [Channel κ R] in
theorem isDelayed_of_off (hoff : h.enabled = false) (now : R) : h.isDelayed now = false := by
  unfold isDelayed
  rw [hoff]

theorem checkDelayed_of_off (hoff : h.enabled = false) (l : Link κ R) :
    (checkDelayed : Beating κ R Unit) (h, l) = .ok () (h, l) := by
  rw [checkDelayed_eq, isDelayed_of_off hoff, if_neg Bool.false_ne_true]

theorem observe_of_greeting {e : Event} {f : Frame} (hoff : h.enabled = false)
    (he : e.greeting? = some f) (l : Link κ R) :
    (observe e : Beating κ R Unit) (h, l) = handshake f (h, l) := by
  cases e with
  | received g =>
      obtain ⟨hg, hf⟩ := Option.ite_none_right_eq_some.1 he
      rw [observe_received, hoff, if_neg Bool.false_ne_true, if_pos hg, Option.some.inj hf]
  | sent g =>
      obtain ⟨hg, hf⟩ := Option.ite_none_right_eq_some.1 he
      rw [observe_sent, hoff, if_neg Bool.false_ne_true, if_pos hg, Option.some.inj hf]
  | emptyLine => cases he
  | emptyRead => cases he
  | emptyBuffer => cases he

/-- The observer after an event that is no frame of a handshake: a detector notes when it heard of
the broker, although nothing depends on it yet. -/
def overheard (h : Heartbeat R) (now : R) : Event → Heartbeat R
  | .emptyLine | .emptyBuffer => if h.role = .detector then { h with lastBeat? := some now } else h
  | _ => h

theorem observe_of_not_greeting {e : Event} (hrole : h.role ≠ .plain) (hoff : h.enabled = false)
    (he : e.greeting? = none) (l : Link κ R) :
    (observe e : Beating κ R Unit) (h, l) = .ok () (h.overheard l.now e, l) := by
  have hheard : (onServerActivity : Beating κ R Unit) (h, l) =
      .ok () (if h.role = .detector then { h with lastBeat? := some l.now } else h, l) := by
    cases hr : h.role with
    | plain => exact absurd hr hrole
    | detector => rw [onServerActivity_detector hr, if_pos rfl, hr]
    | emitter =>
        rw [onServerActivity_emitter hr, checkDelayed_of_off hoff, if_neg Role.noConfusion]
  cases e with
  | emptyLine => exact hheard
  | emptyBuffer => exact hheard
  | emptyRead =>
      change (onSilence : Beating κ R Unit) (h, l) = .ok () (h, l)
      cases hr : h.role with
      | plain => exact absurd hr hrole
      | detector => rw [onSilence_detector hr, checkDelayed_of_off hoff]
      | emitter =>
          rw [onSilence_emitter hr, hoff, Bool.and_false, if_neg Bool.false_ne_true,
            checkDelayed_of_off hoff]
  | received f =>
      have hf : f.command ≠ Verb.connected := fun hf => by
        rw [Event.greeting?, if_pos hf] at he
        cases he
      rw [observe_received, hoff, if_neg Bool.false_ne_true, if_neg hf]
      rfl
  | sent f =>
      have hf : f.command ≠ Verb.connect := fun hf => by
        rw [Event.greeting?, if_pos hf] at he
        cases he
      rw [observe_sent, hoff, if_neg Bool.false_ne_true, if_neg hf]
      rfl

/-! ## An enabled observer -/

theorem observe_arrival {e : Event} (hon : h.enabled = true) (he : e.isArrival = true)
    (l : Link κ R) : (observe e : Beating κ R Unit) (h, l) = onServerActivity (h, l) := by
  cases e with
  | received f => rw [observe_received, if_pos hon]
  | emptyLine => rfl
  | emptyBuffer => rfl
  | emptyRead => cases he
  | sent f => cases he

/-! ## An enabled detector -/

def heard (h : Heartbeat R) (now : R) (e : Event) : Heartbeat R :=
  if e.isArrival then { h with lastBeat? := some now } else h

theorem outcome_observe_detector {interval : R} (hrole : h.role = .detector)
    (hon : h.enabled = true) (hinterval : h.interval? = some interval) (e : Event) (l : Link κ R) :
    Outcome
      (fun _ p => (e.isEmptyRead && h.isDelayed l.now) = false ∧ p = (h.heard l.now e, l))
      (fun err p => (e.isEmptyRead && h.isDelayed l.now) = true ∧ err = .serverSilent interval ∧
        p = (h, l.notify (.serverSilent interval)))
      ((observe e : Beating κ R Unit) (h, l)) := by
  obtain harrival | ⟨f, rfl⟩ | rfl := e.arrival_or_sent_or_emptyRead
  · rw [observe_arrival hon harrival, onServerActivity_detector hrole, heard, if_pos harrival,
      Event.isEmptyRead_of_arrival harrival]
    exact ⟨rfl, rfl⟩
  · rw [observe_sent, if_pos hon, onClientActivity_eq, hrole, if_neg Role.noConfusion]
    exact ⟨rfl, rfl⟩
  · change Outcome _ _ ((onSilence : Beating κ R Unit) (h, l))
    rw [onSilence_detector hrole, checkDelayed_eq]
    split
    · rename_i hdelayed
      unfold onDelay
      rw [get_bind]
      dsimp only
      rw [hrole, hinterval]
      exact ⟨hdelayed, rfl, rfl⟩
    · rename_i hcalm
      exact ⟨Bool.eq_false_iff.2 hcalm, rfl⟩

/-! ## An enabled emitter -/

/-- One beat is asked for. Its time is remembered only if it was written. -/
inductive Beats (h : Heartbeat R) (l : Link κ R) (timeout : R) :
    EStateM.Result (Error R) (Heartbeat R × Link κ R) Unit → Prop
  | written (m : Link κ R)
      (sent : Link.sendAlive (some (.real timeout)) (l.notify .sendingBeat) = .ok () m) :
      Beats h l timeout (.ok () ({ h with lastBeat? := some m.now }, m))
  | failed (fault : ConnectionFault) (m : Link κ R)
      (refused : Link.sendAlive (some (.real timeout)) (l.notify .sendingBeat) = .error fault m) :
      Beats h l timeout (.error (.beatFailed fault) (h, m.notify (.beatNotSent fault)))

theorem beats_onDelay {agreed : Int} {milliseconds : R} (hrole : h.role = .emitter)
    (hclient : h.client? = some agreed) (hscale : Scale.ofInt? agreed = some milliseconds)
    (l : Link κ R) : Beats h l (seconds milliseconds) ((onDelay : Beating κ R Unit) (h, l)) := by
  unfold onDelay
  rw [get_bind]
  dsimp only
  rw [hrole, hclient]
  dsimp only
  rw [hscale]
  unfold logNotice modify
  rw [modifyGet_bind]
  dsimp only
  rw [get_bind]
  dsimp only
  cases hsend : Link.sendAlive (some (.real (seconds milliseconds))) (l.notify .sendingBeat) with
  | ok _ m => exact .written m hsend
  | error fault m => exact .failed fault m hsend

def isDue (h : Heartbeat R) (now : R) (e : Event) : Bool :=
  !e.isSent && (h.isDelayed now || e.isEmptyRead && h.pessimistic)

def spoken (h : Heartbeat R) (now : R) (e : Event) : Heartbeat R :=
  if e.isSent then { h with lastBeat? := some now } else h

theorem observe_emitter {agreed : Int} {milliseconds : R} (hrole : h.role = .emitter)
    (hon : h.enabled = true) (hclient : h.client? = some agreed)
    (hscale : Scale.ofInt? agreed = some milliseconds) (e : Event) (l : Link κ R) :
    if h.isDue l.now e then
      Beats h l (seconds milliseconds) ((observe e : Beating κ R Unit) (h, l))
    else (observe e : Beating κ R Unit) (h, l) = .ok () (h.spoken l.now e, l) := by
  have hbeats := beats_onDelay hrole hclient hscale l
  have hchecked : if h.isDelayed l.now then
      Beats h l (seconds milliseconds) ((checkDelayed : Beating κ R Unit) (h, l))
      else (checkDelayed : Beating κ R Unit) (h, l) = .ok () (h, l) := by
    rw [checkDelayed_eq]
    split
    · exact hbeats
    · rfl
  obtain harrival | ⟨f, rfl⟩ | rfl := e.arrival_or_sent_or_emptyRead
  · rw [observe_arrival hon harrival, onServerActivity_emitter hrole, isDue, spoken,
      Event.isSent_of_arrival harrival, Event.isEmptyRead_of_arrival harrival, Bool.false_and,
      Bool.or_false, Bool.not_false, Bool.true_and]
    exact hchecked
  · rw [isDue, Event.isSent, Bool.not_true, Bool.false_and, if_neg Bool.false_ne_true,
      observe_sent, if_pos hon, onClientActivity_eq, if_pos hrole]
    rfl
  · have hsilence : (observe .emptyRead : Beating κ R Unit) (h, l) =
        if h.pessimistic then onDelay (h, l) else checkDelayed (h, l) := by
      change (onSilence : Beating κ R Unit) (h, l) = _
      rw [onSilence_emitter hrole, hon, Bool.and_true]
    rw [hsilence]
    change if h.isDelayed l.now || h.pessimistic then _ else _ = EStateM.Result.ok () (h, l)
    cases h.pessimistic with
    | true => simpa using hbeats
    | false => simpa using hchecked

end Heartbeat

end Stomp
