import Stomp.Observers
import Stomp.Proofs.Action.Outcome

/-!
# What goes out over a link

The bytes that were written, and the frames that were announced before. The observers of a
connection write heart-beats at most, which are neither.
-/

namespace Stomp

open Stomp.Action

variable {κ R α : Type}

def Traffic.written? : Traffic R → Option Bytes
  | .write data => some data
  | _ => none

def Notice.sending? : Notice R → Option Frame
  | .sending f => some f
  | _ => none

namespace Link

/-- What was written, heart-beats apart. -/
def written (l : Link κ R) : List Bytes := l.journal.filterMap Traffic.written?

def offered (l : Link κ R) : List Frame := l.notices.filterMap Notice.sending?

/-- In between nothing went out. -/
structure Silent (l m : Link κ R) : Prop where
  written : m.written = l.written
  offered : m.offered = l.offered

instance : Progress (Silent : Link κ R → Link κ R → Prop) where
  refl _ := ⟨rfl, rfl⟩
  trans hlm hmn := ⟨hmn.written.trans hlm.written, hmn.offered.trans hlm.offered⟩

theorem written_enter (l : Link κ R) (t : Traffic R) :
    (l.enter t).written = l.written ++ t.written?.toList := by
  simp only [written, enter, List.filterMap_append]
  cases h : t.written? <;> simp [h]

theorem offered_notify (l : Link κ R) (n : Notice R) :
    (l.notify n).offered = l.offered ++ n.sending?.toList := by
  simp only [offered, notify, List.filterMap_append]
  cases h : n.sending? <;> simp [h]

theorem silent_enter (l : Link κ R) {t : Traffic R} (h : t.written? = none) :
    Silent l (l.enter t) where
  written := by rw [written_enter, h, Option.toList_none, List.append_nil]
  offered := rfl

theorem silent_notify (l : Link κ R) {n : Notice R} (h : n.sending? = none) :
    Silent l (l.notify n) where
  written := rfl
  offered := by rw [offered_notify, h, Option.toList_none, List.append_nil]

theorem silent_perform {op : Operation} {entry : α → Traffic R} {fault : String → ConnectionFault}
    {x : EStateM String κ α} (h : ∀ a, (entry a).written? = none) :
    Keeps Silent (perform op entry fault x) := by
  intro l
  unfold perform
  cases x l.channel with
  | ok a c => exact ⟨(silent_enter { l with channel := c } (h a)).written, rfl⟩
  | error text c =>
      exact ⟨(silent_enter { l with channel := c } (t := .failed op) rfl).written, rfl⟩

variable [Channel κ R]

theorem silent_requireConnected :
    Keeps Silent (requireConnected : EStateM ConnectionFault (Link κ R) Unit) := by
  intro l
  unfold requireConnected
  split <;> exact Progress.refl l

theorem silent_read (limit : Nat) :
    Keeps Silent (read limit : EStateM ConnectionFault (Link κ R) Bytes) :=
  silent_requireConnected.bind fun _ => silent_perform fun _ => rfl

theorem silent_canRead (timeout : Option (Quantity R)) :
    Keeps Silent (canRead timeout : EStateM ConnectionFault (Link κ R) Bool) :=
  silent_requireConnected.bind fun _ => silent_perform fun _ => rfl

theorem silent_sendAlive (timeout : Option (Quantity R)) :
    Keeps Silent (sendAlive timeout : EStateM ConnectionFault (Link κ R) Unit) := by
  apply silent_requireConnected.bind
  intro _
  apply (silent_perform fun _ => rfl).bind
  intro alive
  split
  · exact Keeps.pure _
  · exact Keeps.throw _

end Link

/-! ## Observers -/

namespace Heartbeat

open Link (Silent)

/-- Nothing went out over the link of an observer. -/
def Quiet (p q : Heartbeat R × Link κ R) : Prop := Silent p.2 q.2

instance : Progress (Quiet : Heartbeat R × Link κ R → Heartbeat R × Link κ R → Prop) where
  refl p := Progress.refl p.2
  trans hpq hqr := Progress.trans (r := Silent) hpq hqr

theorem quiet_logNotice {n : Notice R} (h : n.sending? = none) :
    Keeps Quiet (logNotice n : Beating κ R Unit) :=
  Keeps.modify fun p => Link.silent_notify p.2 h

theorem quiet_readOffers (f : Frame) :
    Keeps Quiet (readOffers f : Beating κ R (Int × Int)) := by
  unfold readOffers
  split
  · exact Keeps.pure _
  · exact (quiet_logNotice rfl).bind fun _ => Keeps.pure _

variable [Channel κ R]

theorem quiet_rememberActivity : Keeps Quiet (rememberActivity : Beating κ R Unit) :=
  Keeps.modify fun p => Progress.refl (r := Silent) p.2

theorem quiet_onClientActivity : Keeps Quiet (onClientActivity : Beating κ R Unit) := by
  apply Keeps.get.bind
  intro p
  split
  · exact quiet_rememberActivity
  · exact Keeps.pure _

variable [Scale R]

theorem quiet_checkReadTimeout (interval : R) :
    Keeps Quiet (checkReadTimeout interval : Beating κ R Unit) := by
  apply Keeps.get.bind
  intro p
  dsimp only
  split
  · split
    · exact Keeps.throw _
    · exact Keeps.pure _
  · exact Keeps.throw _

theorem quiet_calculateInterval (agreed : Int) :
    Keeps Quiet (calculateInterval agreed : Beating κ R (Quantity R)) := by
  apply Keeps.get.bind
  intro p
  dsimp only
  split
  · exact Keeps.throw _
  · split
    · exact Keeps.pure _
    · exact Keeps.throw _
  · split
    · exact (quiet_checkReadTimeout _).bind fun _ => Keeps.pure _
    · exact Keeps.throw _

theorem quiet_handshake (f : Frame) : Keeps Quiet (handshake f : Beating κ R Unit) := by
  apply (quiet_readOffers f).bind
  intro offer p
  rw [get_bind]
  dsimp only
  have hlearned : Quiet p (p.1.learn p.2.now f offer, p.2) := Progress.refl (r := Silent) p.2
  split
  · exact Progress.refl (r := Quiet) p
  · rw [set_bind]
    refine Keeps.onward ?_ hlearned
    split
    · exact Keeps.pure _
    · apply (quiet_calculateInterval _).bind
      intro interval
      split
      · exact Keeps.throw _
      · refine Keeps.bind (Keeps.modify fun q => Progress.refl (r := Silent) q.2) fun _ => ?_
        exact (quiet_logNotice rfl).bind fun _ => quiet_rememberActivity

theorem quiet_onDelay : Keeps Quiet (onDelay : Beating κ R Unit) := by
  apply Keeps.get.bind
  intro p
  dsimp only
  split
  · exact Keeps.throw _
  · split
    · exact Keeps.throw _
    · exact (quiet_logNotice rfl).bind fun _ => Keeps.throw _
  · apply (quiet_logNotice rfl).bind
    intro _
    split
    · exact Keeps.throw _
    · split
      · exact Keeps.throw _
      · rename_i milliseconds _
        intro q
        rw [get_bind]
        have hbeat := Link.silent_sendAlive (some (.real (seconds milliseconds))) q.2
        cases h : Link.sendAlive (some (.real (seconds milliseconds))) q.2 with
        | ok a l =>
            rw [h] at hbeat
            have hmoved : Quiet q (p.1, l) := hbeat
            exact quiet_rememberActivity.onward hmoved
        | error fault l =>
            rw [h] at hbeat
            have hmoved : Silent q.2 l := hbeat
            exact Progress.trans hmoved (Link.silent_notify l rfl)

theorem quiet_checkDelayed : Keeps Quiet (checkDelayed : Beating κ R Unit) := by
  apply Keeps.get.bind
  intro p
  dsimp only
  split
  · exact quiet_onDelay
  · exact Keeps.pure _

theorem quiet_onServerActivity : Keeps Quiet (onServerActivity : Beating κ R Unit) := by
  apply Keeps.get.bind
  intro p
  split
  · exact Keeps.pure _
  · exact quiet_checkDelayed
  · exact quiet_rememberActivity

theorem quiet_onSilence : Keeps Quiet (onSilence : Beating κ R Unit) := by
  apply Keeps.get.bind
  intro p
  dsimp only
  split
  · exact Keeps.pure _
  · exact quiet_checkDelayed
  · split
    · exact quiet_onDelay
    · exact quiet_checkDelayed

theorem quiet_observe (e : Event) : Keeps Quiet (observe e : Beating κ R Unit) := by
  apply Keeps.get.bind
  intro p
  dsimp only
  split
  · exact quiet_onServerActivity
  · exact quiet_onServerActivity
  · exact quiet_onSilence
  · split
    · exact quiet_onServerActivity
    · split
      · exact quiet_handshake _
      · exact Keeps.pure _
  · split
    · exact quiet_onClientActivity
    · split
      · exact quiet_handshake _
      · exact Keeps.pure _

end Heartbeat

namespace Observers

open Link (Silent)

/-- Nothing went out over the link beside the observers. -/
def Quiet (p q : Observers R × Link κ R) : Prop := Silent p.2 q.2

instance : Progress (Quiet : Observers R × Link κ R → Observers R × Link κ R → Prop) where
  refl p := Progress.refl p.2
  trans hpq hqr := Progress.trans (r := Silent) hpq hqr

variable [Scale R] [Channel κ R]

theorem quiet_tell (e : Event) (name : String) :
    Keeps Quiet (tell e name : EStateM (Error R) (Observers R × Link κ R) Unit) := by
  apply Keeps.get.bind
  intro p
  split
  · exact Keeps.modify fun q => Link.silent_enter q.2 rfl
  · rename_i h _
    intro q
    have hobserved := Heartbeat.quiet_observe e (h, q.2)
    unfold withHeartbeat
    revert hobserved
    dsimp only
    cases Heartbeat.observe e (h, q.2) <;> exact id
  · exact Keeps.pure _
  · exact Keeps.pure _

/-- The observers that are told of an event send nothing but heart-beats. -/
theorem quiet_notify (e : Event) :
    Keeps Quiet (notify e : EStateM (Error R) (Observers R × Link κ R) Unit) :=
  Keeps.get.bind fun _ => Keeps.forM (quiet_tell e) _

end Observers

end Stomp
