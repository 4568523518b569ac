import Stomp.Channel.Script
import Stomp.Proofs.Heartbeat.Step
import Stomp.Proofs.Transport.Reading

/-!
# When a read gives the broker up

A transport that is watched by an enabled detector alone. While it looks for a frame, whatever the
broker sent is noticed: a frame, a run of line ends, or bytes that complete nothing. If reads take
no time, the search fails for a silent broker exactly if there was none of these and the detector
has waited for too long (`givesUp_iff`).
-/

namespace Stomp

open Stomp.Action

variable {κ R : Type}

/-! ## Reads that take no time -/

/-- Reads do not fail, and the clock stands still meanwhile. -/
structure Script.Still [Scale R] (s : Script R) : Prop where
  data : ∀ a ∈ s.incoming, ∃ bytes, a = .data bytes
  unfailing : s.failures.find? (fun f => f.1 == .read) = none
  clock : s.clock + s.step = s.clock

theorem Script.Still.goesOn [Scale R] {s d : Script R} (hs : s.Still)
    (hincoming : ∀ a ∈ d.incoming, ∃ bytes, a = .data bytes) (hfailures : d.failures = s.failures)
    (hclock : d.clock = s.clock + s.step) (hstep : d.step = s.step) :
    d.Still ∧ d.clock = s.clock := by
  have hsame : d.clock = s.clock := hclock.trans hs.clock
  exact ⟨⟨hincoming, by rw [hfailures, hs.unfailing], by rw [hsame, hstep, hs.clock]⟩, hsame⟩

theorem Script.Still.read [Scale R] {s : Script R} (hs : s.Still) (limit : Nat) :
    Outcome (fun _ d => d.Still ∧ d.clock = s.clock) (fun _ _ => False)
      ((Channel.read limit : EStateM String (Script R) Bytes) s) := by
  change Outcome _ _ (Script.guarded .read (Script.take limit) s)
  rw [Script.guarded, hs.unfailing]
  unfold Script.take
  dsimp only
  have hdata := hs.data
  cases hincoming : s.incoming with
  | nil =>
      have hsame : (s.advance s.step).incoming = [] := hincoming
      rw [hsame]
      exact hs.goesOn (by rw [hsame]; exact nofun) rfl rfl rfl
  | cons a rest =>
      have hsame : (s.advance s.step).incoming = a :: rest := hincoming
      rw [hincoming] at hdata
      obtain ⟨bytes, rfl⟩ := hdata a List.mem_cons_self
      have hrest : ∀ b ∈ rest, ∃ bytes, b = .data bytes :=
        fun b hb => hdata b (List.mem_cons_of_mem _ hb)
      rw [hsame]
      dsimp only
      split
      · refine hs.goesOn ?_ rfl rfl rfl
        intro b hb
        obtain rfl | hb := List.mem_cons.1 hb
        · exact ⟨_, rfl⟩
        · exact hrest b hb
      · exact hs.goesOn hrest rfl rfl rfl

namespace Link

def Extends (l m : Link κ R) : Prop := ∃ more, m.journal = l.journal ++ more

theorem Extends.refl (l : Link κ R) : l.Extends l := ⟨[], (List.append_nil _).symm⟩

theorem Extends.trans {l m n : Link κ R} (hlm : l.Extends m) (hmn : m.Extends n) : l.Extends n := by
  obtain ⟨more, hm⟩ := hlm
  obtain ⟨rest, hn⟩ := hmn
  exact ⟨more ++ rest, by rw [hn, hm, List.append_assoc]⟩

theorem Untouched.extends {l m : Link κ R} (h : l.Untouched m) : l.Extends m :=
  ⟨[], by rw [h.journal, List.append_nil]⟩

/-- The sizes of the reads that went over the link from `l` to `m`. -/
def readsSince (l m : Link κ R) : List Nat :=
  (m.journal.drop l.journal.length).filterMap fun
    | .read size => some size
    | _ => none

theorem readsSince_of_journal {l m : Link κ R} {more : List (Traffic R)}
    (hm : m.journal = l.journal ++ more) :
    l.readsSince m = more.filterMap fun
      | .read size => some size
      | _ => none := by
  rw [readsSince, hm, List.drop_left]

theorem mem_readsSince {k l m : Link κ R} {size : Nat}
    (hl : l.journal = k.journal ++ [.read size]) (hm : l.Extends m) : size ∈ k.readsSince m := by
  obtain ⟨more, hm⟩ := hm
  rw [hl, List.append_assoc] at hm
  rw [readsSince_of_journal hm]
  exact List.mem_filterMap.2 ⟨.read size, List.mem_append_left _ List.mem_cons_self, rfl⟩

theorem outcome_read_of_still [Scale R] {l : Link (Script R) R} (hl : l.channel.Still)
    (limit : Nat) :
    Outcome
      (fun bytes m => l.channel.connected = true ∧ m.channel.Still ∧ m.now = l.now ∧
        m.journal = l.journal ++ [.read bytes.length])
      (fun _ m => l.channel.connected = false ∧ m = l)
      ((read limit : EStateM ConnectionFault (Link (Script R) R) Bytes) l) := by
  unfold read
  apply (outcome_requireConnected l).bind
  · rintro - m ⟨hconnected, rfl⟩
    exact ⟨hconnected, rfl⟩
  rintro - m ⟨hconnected, rfl⟩
  have hread := hl.read limit
  unfold perform
  cases hr : (Channel.read limit : EStateM String (Script R) Bytes) l.channel with
  | ok bytes c =>
      rw [hr] at hread
      exact ⟨hconnected, hread.1, hread.2, rfl⟩
  | error text c =>
      rw [hr] at hread
      exact hread.elim

end Link

/-! ## A detector that is told -/

/-- An enabled detector that heard of the broker last at a time. -/
structure Heartbeat.Watches (h : Heartbeat R) (interval last : R) : Prop where
  role : h.role = .detector
  on : h.enabled = true
  interval : h.interval? = some interval
  last : h.lastBeat? = some last

namespace Observers

variable [Scale R] [Channel κ R]

theorem notify_single {os : Observers R} {name : String} (hwatching : os.watching = [name])
    (e : Event) (l : Link κ R) :
    (notify e : EStateM (Error R) (Observers R × Link κ R) Unit) (os, l) = tell e name (os, l) := by
  unfold notify
  rw [get_bind]
  dsimp only
  rw [hwatching]
  change EStateM.bind (tell e name) (fun _ => pure PUnit.unit) (os, l) = _
  unfold EStateM.bind
  cases tell e name (os, l) <;> rfl

theorem notify_eq {os : Observers R} {name : String} {h : Heartbeat R}
    (hwatching : os.watching = [name]) (hknown : os.get? name = some (.heartbeat h)) (e : Event)
    (l : Link κ R) :
    (notify e : EStateM (Error R) (Observers R × Link κ R) Unit) (os, l) =
      withHeartbeat name h (Heartbeat.observe e) (os, l) := by
  rw [notify_single hwatching]
  unfold tell
  rw [get_bind]
  dsimp only
  rw [hknown]

omit [Scale R] [Channel κ R] in
theorem outcome_withHeartbeat {α : Type} {os : Observers R} {name : String} {h : Heartbeat R}
    {l : Link κ R} {x : Beating κ R α} {ok : α → Observers R × Link κ R → Prop}
    {failed : Error R → Observers R × Link κ R → Prop}
    (hx : Outcome (fun a p => ok a (os.introduce name (.heartbeat p.1), p.2))
      (fun e p => failed e (os.introduce name (.heartbeat p.1), p.2)) (x (h, l))) :
    Outcome ok failed (withHeartbeat name h x (os, l)) := by
  unfold withHeartbeat
  dsimp only
  revert hx
  cases x (h, l) <;> exact id

end Observers

namespace Transport

variable {t u : Transport κ R} {interval last : R}

/-- A detector with this interval is the only observer, and heard of the broker last then. -/
structure Guarded (t : Transport κ R) (interval last : R) : Prop where
  detector : ∃ name h, t.observers.watching = [name] ∧
    t.observers.get? name = some (.heartbeat h) ∧ h.Watches interval last

theorem Guarded.of_observers (ht : t.Guarded interval last) (hu : u.observers = t.observers) :
    u.Guarded interval last := by
  obtain ⟨name, h, hwatching, hknown, hwatches⟩ := ht.detector
  exact ⟨name, h, by rw [hu, hwatching], by rw [hu, hknown], hwatches⟩

variable [Scale R] [Channel κ R]

def heardAt (t : Transport κ R) (last : R) (e : Event) : R := if e.isArrival then t.now else last

theorem outcome_notify_of_guarded (ht : t.Guarded interval last) (e : Event) :
    Outcome
      (fun _ u => (e.isEmptyRead && Scale.lt interval (t.now - last)) = false ∧
        u.Guarded interval (t.heardAt last e) ∧ u.parser = t.parser ∧ u.link = t.link)
      (fun err u => (e.isEmptyRead && Scale.lt interval (t.now - last)) = true ∧
        err.isHeartbeat = true ∧ t.link.Untouched u.link)
      ((notify e : EStateM (Error R) (Transport κ R) Unit) t) := by
  obtain ⟨name, h, hwatching, hknown, hwatches⟩ := ht.detector
  have hdelayed : h.isDelayed t.link.now = Scale.lt interval (t.now - last) := by
    rw [Heartbeat.isDelayed, hwatches.on, hwatches.last, hwatches.interval]
    rfl
  have houtcome := Heartbeat.outcome_observe_detector hwatches.role hwatches.on hwatches.interval e
    t.link
  rw [hdelayed] at houtcome
  unfold notify
  apply Outcome.on
  rw [Observers.notify_eq hwatching hknown]
  apply Observers.outcome_withHeartbeat
  apply houtcome.mono
  · rintro - p ⟨hcalm, rfl⟩
    refine ⟨hcalm, ⟨name, h.heard t.link.now e, hwatching, ?known, ?watches⟩, rfl, rfl⟩
    case known => exact (Assoc.get?_insert ..).trans (if_pos rfl)
    case watches =>
      unfold Heartbeat.heard heardAt
      split
      · exact ⟨hwatches.role, hwatches.on, hwatches.interval, rfl⟩
      · exact hwatches
  · rintro err p ⟨halarm, rfl, rfl⟩
    exact ⟨halarm, rfl, (Link.Untouched.refl t.link).notify _⟩

/-! ## One attempt -/

/-- The parser became `p`, nothing went over the channel, and the detector heard of the broker last
then. -/
structure Attends (t : Transport κ R) (p : Parser) (interval last : R) (u : Transport κ R) :
    Prop where
  parser : u.parser = p
  link : t.link.Untouched u.link
  guarded : u.Guarded interval last

theorem Attends.notify {p : Parser} {e : Event} (hu : t.Attends p interval last u)
    (he : e.isEmptyRead = false) :
    Outcome (fun _ v => t.Attends p interval (t.heardAt last e) v) (fun _ _ => False)
      ((notify e : EStateM (Error R) (Transport κ R) Unit) u) := by
  have hnow : u.heardAt last e = t.heardAt last e := by
    rw [heardAt, heardAt, now, now, hu.link.now_eq]
  apply (outcome_notify_of_guarded hu.guarded e).mono
  · rintro - v ⟨-, hguarded, hparser, hlink⟩
    exact ⟨hparser.trans hu.parser, hlink ▸ hu.link, hnow ▸ hguarded⟩
  · rintro err v ⟨halarm, -⟩
    rw [he, Bool.false_and] at halarm
    cases halarm

theorem follows_attends (t : Transport κ R) (interval last : R) :
    Follows fun p events u =>
      t.Attends p interval (if events.isEmpty then last else t.now) u := by
  have hnow (events : List Event) (e : Event) :
      (if (events ++ [e]).isEmpty then last else t.now) = t.now := by simp
  constructor
  case parser => exact fun hu => hu.parser
  case setParser => exact fun q hu => ⟨rfl, hu.link, hu.guarded.of_observers rfl⟩
  case ignored =>
    exact fun value? hu => ⟨hu.parser, hu.link.notify _, hu.guarded.of_observers rfl⟩
  case lineEnds =>
    intro p events u hu
    rw [hnow]
    exact hu.notify rfl
  case frame =>
    intro p events u f hu
    rw [hnow]
    exact hu.notify rfl

theorem outcome_nextFrame_of_guarded (ht : t.Guarded interval last) :
    Outcome
      (fun f? u => t.parser.next.1.result? = f?.map .ok ∧
        t.Attends t.parser.next.2 interval
          (if t.parser.next.1.skipped || f?.isSome then t.now else last) u)
      (fun e u => e.isHeartbeat = false ∧ t.parser.next.1.result?.isSome = true ∧
        t.link.Untouched u.link)
      ((nextFrame : EStateM (Error R) (Transport κ R) (Option Frame)) t) := by
  apply ((follows_attends t interval last).nextFrame ⟨rfl, .refl _, ht⟩).mono
  · rintro f? u ⟨hresult, hu⟩
    refine ⟨hresult, ?_⟩
    rw [Parser.Attempt.told, hresult] at hu
    revert hu
    cases t.parser.next.1.skipped <;> cases f? <;> exact id
  · rintro e u ⟨fault, rfl, hresult, hu⟩
    exact ⟨rfl, hresult ▸ rfl, hu.link⟩

omit [Scale R] [Channel κ R] in
theorem untouched_accept (f : Frame) (t : Transport κ R) :
    Outcome (fun _ u => t.link.Untouched u.link)
      (fun e u => e.isHeartbeat = false ∧ t.link.Untouched u.link)
      ((accept f : EStateM (Error R) (Transport κ R) Frame) t) := by
  have hlogged : Outcome (fun _ u => t.link.Untouched u.link) (fun _ _ => False)
      ((logNotice (.received f) : EStateM (Error R) (Transport κ R) Unit) t) :=
    (Link.Untouched.refl t.link).notify _
  unfold accept
  apply hlogged.bind (fun _ _ h => h.elim)
  intro _ u hu
  split
  · exact ⟨rfl, hu⟩
  · exact hu

/-! ## The search -/

section Search

variable {t u : Transport (Script R) R}

theorem outcome_read_of_guarded (ht : t.Guarded interval last) (hstill : t.link.channel.Still) :
    Outcome
      (fun bytes u => t.link.channel.connected = true ∧ u.link.channel.Still ∧ u.now = t.now ∧
        u.link.journal = t.link.journal ++ [.read bytes.length] ∧ u.Guarded interval last)
      (fun e u => e.isHeartbeat = false ∧ t.link.channel.connected = false ∧
        t.link.Extends u.link)
      ((onLink (Link.read readSize) : EStateM (Error R) (Transport (Script R) R) Bytes) t) := by
  apply Outcome.mapError
  apply Outcome.on
  apply (Link.outcome_read_of_still hstill readSize).mono
  · rintro bytes m ⟨hconnected, hm, hnow, hjournal⟩
    exact ⟨hconnected, hm, hnow, hjournal, ht.of_observers rfl⟩
  · rintro fault m ⟨hconnected, rfl⟩
    exact ⟨rfl, hconnected, .refl _⟩

/-- Once data has come, the detector hears of it before it could be told of silence. -/
theorem outcome_readFrameWithin_of_fed (ht : t.Guarded interval last)
    (hstill : t.link.channel.Still) (hzero : Scale.lt interval (t.now - t.now) = false)
    (steps : Nat) :
    Outcome (fun _ u => t.link.Extends u.link)
      (fun e u => e.isHeartbeat = false ∧ t.link.Extends u.link)
      ((readFrameWithin steps true :
        EStateM (Error R) (Transport (Script R) R) (Option Frame)) t) := by
  induction steps generalizing t last with
  | zero => exact ⟨rfl, .refl _⟩
  | succ steps ih =>
      unfold readFrameWithin
      apply (outcome_nextFrame_of_guarded ht).bind
      · rintro e u ⟨he, -, hu⟩
        exact ⟨he, hu.extends⟩
      rintro f? u ⟨-, hu⟩
      cases f? with
      | some f =>
          apply (untouched_accept f u).bind
          · rintro e v ⟨he, hv⟩
            exact ⟨he, hu.link.extends.trans hv.extends⟩
          · exact fun _ v hv => hu.link.extends.trans hv.extends
      | none =>
          dsimp only
          rw [if_pos rfl]
          apply (hu.notify (e := .emptyBuffer) rfl).bind (fun _ _ h => h.elim)
          intro _ v hv
          have hvstill : v.link.channel.Still := hv.link.channel ▸ hstill
          apply (outcome_read_of_guarded hv.guarded hvstill).bind
          · rintro e w ⟨he, -, hw⟩
            exact ⟨he, hv.link.extends.trans hw⟩
          rintro bytes w ⟨-, hwstill, hwnow, hjournal, hw⟩
          have hnow : w.now = t.now := hwnow.trans hv.link.now_eq
          have hextends : t.link.Extends w.link := hv.link.extends.trans ⟨_, hjournal⟩
          split
          · apply (outcome_notify_of_guarded hw .emptyRead).bind
            · rintro e x ⟨halarm, -⟩
              rw [hnow] at halarm
              exact absurd (hzero.symm.trans halarm) Bool.false_ne_true
            · rintro - x ⟨-, -, -, hx⟩
              have hlast : t.link.Extends x.link := hx ▸ hextends
              exact hlast
          · have hagain := ih (t := { w with parser := w.parser.feed bytes })
              (hw.of_observers rfl) hwstill (hnow ▸ hzero)
            exact hagain.mono (fun _ _ hx => hextends.trans hx)
              (fun e x hx => ⟨hx.1, hextends.trans hx.2⟩)

/-- The broker was silent for too long, also during a call that led from `t` to `u`. As no read
returned data, what is in the buffer is all that the parser could make something of. -/
structure Forsaken (t u : Transport (Script R) R) (interval last : R) : Prop where
  /-- No read returned data. -/
  unfed : ∀ size ∈ t.link.readsSince u.link, size = 0
  /-- No frame was complete in the buffer, well-formed or not. -/
  incomplete : t.parser.next.1.result? = none
  /-- No line ends and no stray NULs were skipped. -/
  unskipped : t.parser.next.1.skipped = false
  connected : t.isConnected = true
  overdue : Scale.lt interval (t.now - last) = true

theorem forsaken_iff_of_emptyRead (hresult : t.parser.next.1.result? = none)
    (hconnected : t.link.channel.connected = true)
    (hread : u.link.journal = t.link.journal ++ [.read 0])
    (hzero : Scale.lt interval (t.now - t.now) = false) :
    Forsaken t u interval last ↔
      Scale.lt interval (t.now - if t.parser.next.1.skipped then t.now else last) = true := by
  have hunfed : ∀ size ∈ t.link.readsSince u.link, size = 0 := by
    rw [Link.readsSince_of_journal hread]
    simp
  constructor
  · intro hforsaken
    rw [hforsaken.unskipped, if_neg Bool.false_ne_true]
    exact hforsaken.overdue
  · intro halarm
    cases hskipped : t.parser.next.1.skipped with
    | true =>
        rw [hskipped, if_pos rfl, hzero] at halarm
        cases halarm
    | false =>
        rw [hskipped, if_neg Bool.false_ne_true] at halarm
        exact ⟨hunfed, hresult, hskipped, hconnected, halarm⟩

theorem outcome_readFrame_of_guarded (ht : t.Guarded interval last)
    (hstill : t.link.channel.Still) (hzero : Scale.lt interval (t.now - t.now) = false) :
    Outcome (fun _ u => ¬ Forsaken t u interval last)
      (fun e u => e.isHeartbeat = true ↔ Forsaken t u interval last)
      ((readFrame : EStateM (Error R) (Transport (Script R) R) (Option Frame)) t) := by
  have hother : ∀ {e : Error R} {u : Transport (Script R) R}, e.isHeartbeat = false →
      ¬ Forsaken t u interval last → (e.isHeartbeat = true ↔ Forsaken t u interval last) :=
    fun he hu => ⟨fun h => absurd (he.symm.trans h) Bool.false_ne_true, fun h => absurd h hu⟩
  unfold readFrame
  rw [get_bind]
  change Outcome _ _ (readFrameWithin (Channel.patience t.link.channel + 1 + 1) false t)
  unfold readFrameWithin
  apply (outcome_nextFrame_of_guarded ht).bind
  · rintro e u ⟨he, hresult, -⟩
    apply hother he
    intro hu
    rw [hu.incomplete] at hresult
    cases hresult
  rintro f? u ⟨hresult, hu⟩
  cases f? with
  | some f =>
      have hfound : ∀ v, ¬ Forsaken t v interval last := by
        intro v hv
        cases hv.incomplete.symm.trans hresult
      apply (untouched_accept f u).bind
      · rintro e v ⟨he, -⟩
        exact hother he (hfound v)
      · exact fun _ v _ => hfound v
  | none =>
      dsimp only
      rw [if_neg Bool.false_ne_true]
      rw [Option.isSome_none, Bool.or_false] at hu
      have hustill : u.link.channel.Still := hu.link.channel ▸ hstill
      apply (outcome_read_of_guarded hu.guarded hustill).bind
      · rintro e v ⟨he, hconnected, -⟩
        apply hother he
        intro hv
        have hunconnected : t.link.channel.connected = false := hu.link.channel ▸ hconnected
        exact absurd (hunconnected.symm.trans hv.connected) Bool.false_ne_true
      rintro bytes v ⟨hconnected, hvstill, hvnow, hjournal, hv⟩
      have hnow : v.now = t.now := hvnow.trans hu.link.now_eq
      have hread : v.link.journal = t.link.journal ++ [.read bytes.length] := by
        rw [hjournal, hu.link.journal]
      split
      · rename_i hempty
        rw [List.isEmpty_iff.1 hempty] at hread
        have hstart : t.link.channel.connected = true := hu.link.channel ▸ hconnected
        apply (outcome_notify_of_guarded hv .emptyRead).bind
        · rintro e w ⟨halarm, he, hw⟩
          have hforsaken : Forsaken t w interval last ↔ _ :=
            forsaken_iff_of_emptyRead hresult hstart (hw.journal.trans hread) hzero
          rw [hnow] at halarm
          exact ⟨fun _ => hforsaken.2 halarm, fun _ => he⟩
        · rintro - w ⟨hcalm, -, -, hw⟩
          have hforsaken : Forsaken t w interval last ↔ _ :=
            forsaken_iff_of_emptyRead hresult hstart (hw ▸ hread) hzero
          rw [hnow] at hcalm
          exact mt hforsaken.1 (Bool.eq_false_iff.1 hcalm)
      · rename_i hdata
        have hsize : bytes.length ≠ 0 := by simpa using hdata
        have hfed : ∀ w : Transport (Script R) R, v.link.Extends w.link →
            ¬ Forsaken t w interval last :=
          fun w hw hforsaken => hsize (hforsaken.unfed _ (Link.mem_readsSince hread hw))
        have hagain := outcome_readFrameWithin_of_fed
          (t := { v with parser := v.parser.feed bytes }) (hv.of_observers rfl) hvstill
          (hnow ▸ hzero) (Channel.patience t.link.channel + 1)
        exact hagain.mono (fun _ w hw => hfed w hw) (fun e w hw => hother hw.1 (hfed w hw.2))

/-- A read gives the broker up exactly if it is silent for too long. -/
theorem givesUp_iff (ht : t.Guarded interval last) (hstill : t.link.channel.Still)
    (hzero : Scale.lt interval (t.now - t.now) = false) :
    (∃ e u, (readFrame : EStateM (Error R) (Transport (Script R) R) (Option Frame)) t = .error e u ∧
      e.isHeartbeat = true) ↔
    Forsaken t (after (readFrame : EStateM (Error R) (Transport (Script R) R) (Option Frame)) t)
      interval last := by
  have houtcome := outcome_readFrame_of_guarded ht hstill hzero
  unfold after
  cases hr : (readFrame : EStateM (Error R) (Transport (Script R) R) (Option Frame)) t with
  | ok f? u =>
      rw [hr] at houtcome
      have hnot : ¬ Forsaken t u interval last := houtcome
      simp [hnot]
  | error e u =>
      rw [hr] at houtcome
      have hiff : e.isHeartbeat = true ↔ Forsaken t u interval last := houtcome
      simp [← hiff]

/-- On a silent link, with an interval of a fifth of a second that began a second ago. -/
theorem givesUp_of_silence :
    let h : Heartbeat Rat := { Heartbeat.detector (.whole 2) with
      enabled := true, interval? := some (1 / 5), lastBeat? := some 1 }
    let t : Transport (Script Rat) Rat :=
      { link := { channel := { clock := 2, step := 0, readTimeout := (.whole 0, .whole 10000) } }
        observers := { known := [("detector", .heartbeat h)], watching := ["detector"] } }
    (t.Guarded (1 / 5) 1 ∧ t.link.channel.Still ∧ Scale.lt (1 / 5) (t.now - t.now) = false) ∧
    ∃ e u, (readFrame : EStateM (Error Rat) (Transport (Script Rat) Rat) (Option Frame)) t =
      .error e u ∧ e.isHeartbeat = true := by
  intro h t
  have hguarded : t.Guarded (1 / 5) 1 := ⟨"detector", h, rfl, rfl, rfl, rfl, rfl, rfl⟩
  have hstill : t.link.channel.Still := ⟨nofun, rfl, by decide +kernel⟩
  have hzero : Scale.lt (1 / 5) (t.now - t.now) = false := by decide +kernel
  have hunfed : ∀ size ∈ t.link.readsSince (after
      (readFrame : EStateM (Error Rat) (Transport (Script Rat) Rat) (Option Frame)) t).link,
      size = 0 := by
    decide +kernel
  exact ⟨⟨hguarded, hstill, hzero⟩, (givesUp_iff hguarded hstill hzero).2
    ⟨hunfed, rfl, rfl, rfl, by decide +kernel⟩⟩

end Search

end Transport

end Stomp
