import Mathlib.Data.List.Induction
import Stomp.Channel.Script
import Stomp.Proofs.Heartbeat.Step

/-!
# Histories of an observer of heart-beats

The events that an observer was told of, each with the link as it was then: clock readings and the
fate of writes are arbitrary. What an observer knows comes from the frames of handshakes in its
history (`informed_run`). Once enabled it stays enabled on the same terms (`sameTerms_run`), so
there is one event that enabled it (`exists_enabledBy`).
-/

namespace Stomp

open Stomp.Action

variable {κ R : Type}

/-- A moment in the life of an observer: an event, or the application changes the mode of it. -/
inductive Moment (κ R : Type) where
  | told (link : Link κ R) (event : Event)
  | mode (pessimistic : Bool)

namespace Moment

def greeting? : Moment κ R → Option Frame
  | .told _ e => e.greeting?
  | .mode _ => none

def offers (x : Moment κ R) : List Int :=
  match x.greeting? with
  | some f => [(Heartbeat.offered f).1, (Heartbeat.offered f).2]
  | none => []

end Moment

/-- All numbers that were offered. -/
def offersOf (past : List (Moment κ R)) : List Int := past.flatMap Moment.offers

namespace Heartbeat

/-! ## What an enabled observer keeps -/

/-- Only the remembered activity may differ, and is not forgotten. -/
structure SameTerms (h k : Heartbeat R) : Prop where
  role : k.role = h.role
  usage : k.usage = h.usage
  client : k.client? = h.client?
  server : k.server? = h.server?
  interval : k.interval? = h.interval?
  enabled : k.enabled = h.enabled
  remembers : h.lastBeat?.isSome = true → k.lastBeat?.isSome = true

namespace SameTerms

variable {h k m : Heartbeat R}

theorem refl (h : Heartbeat R) : h.SameTerms h := ⟨rfl, rfl, rfl, rfl, rfl, rfl, id⟩

theorem trans (hk : h.SameTerms k) (km : k.SameTerms m) : h.SameTerms m where
  role := km.role.trans hk.role
  usage := km.usage.trans hk.usage
  client := km.client.trans hk.client
  server := km.server.trans hk.server
  interval := km.interval.trans hk.interval
  enabled := km.enabled.trans hk.enabled
  remembers := km.remembers ∘ hk.remembers

theorem remember (h : Heartbeat R) (now : R) : h.SameTerms { h with lastBeat? := some now } :=
  ⟨rfl, rfl, rfl, rfl, rfl, rfl, fun _ => rfl⟩

theorem changeMode (h : Heartbeat R) (pessimistic : Bool) :
    h.SameTerms { h with pessimistic } :=
  ⟨rfl, rfl, rfl, rfl, rfl, rfl, id⟩

end SameTerms

variable [Scale R] [Channel κ R] {h h₀ : Heartbeat R} {l : Link κ R}

omit [Scale R] in
theorem Beats.sameTerms {timeout : R}
    {r : EStateM.Result (Error R) (Heartbeat R × Link κ R) Unit} (hr : Beats h l timeout r) :
    Leaves (fun p => h.SameTerms p.1) r := by
  cases hr with
  | written m _ => exact .remember h m.now
  | failed fault m _ => exact .refl h

theorem sameTerms_onDelay (h : Heartbeat R) (l : Link κ R) :
    Leaves (fun p => h.SameTerms p.1) ((onDelay : Beating κ R Unit) (h, l)) := by
  by_cases hbeats : h.role = .emitter ∧ ((h.client?.bind Scale.ofInt? : Option R).isSome = true)
  · obtain ⟨hrole, hsome⟩ := hbeats
    obtain ⟨milliseconds, hms⟩ := Option.isSome_iff_exists.1 hsome
    obtain ⟨agreed, hclient, hscale⟩ := Option.bind_eq_some_iff.1 hms
    exact (beats_onDelay hrole hclient hscale l).sameTerms
  · unfold onDelay
    rw [get_bind]
    dsimp only
    cases hrole : h.role with
    | plain => exact .refl h
    | detector => cases h.interval? <;> exact .refl h
    | emitter =>
        dsimp only
        cases hclient : h.client? with
        | none => exact .refl h
        | some agreed =>
            have hscale : (Scale.ofInt? agreed : Option R) = none := by
              rw [hclient] at hbeats
              simpa [hrole] using hbeats
            dsimp only
            rw [hscale]
            exact .refl h

theorem sameTerms_checkDelayed (h : Heartbeat R) (l : Link κ R) :
    Leaves (fun p => h.SameTerms p.1) ((checkDelayed : Beating κ R Unit) (h, l)) := by
  rw [checkDelayed_eq]
  split
  · exact sameTerms_onDelay h l
  · exact .refl h

theorem sameTerms_observe (hrole : h.role ≠ .plain) (hon : h.enabled = true) (e : Event)
    (l : Link κ R) : Leaves (fun p => h.SameTerms p.1) ((observe e : Beating κ R Unit) (h, l)) := by
  obtain harrival | ⟨f, rfl⟩ | rfl := e.arrival_or_sent_or_emptyRead
  · rw [observe_arrival hon harrival]
    cases hr : h.role with
    | plain => exact absurd hr hrole
    | detector =>
        rw [onServerActivity_detector hr]
        exact .remember h l.now
    | emitter =>
        rw [onServerActivity_emitter hr]
        exact sameTerms_checkDelayed h l
  · rw [observe_sent, if_pos hon, onClientActivity_eq]
    split
    · exact .remember h l.now
    · exact .refl h
  · change Leaves _ ((onSilence : Beating κ R Unit) (h, l))
    cases hr : h.role with
    | plain => exact absurd hr hrole
    | detector =>
        rw [onSilence_detector hr]
        exact sameTerms_checkDelayed h l
    | emitter =>
        rw [onSilence_emitter hr]
        split
        · exact sameTerms_onDelay h l
        · exact sameTerms_checkDelayed h l

/-! ## Steps -/

def meet (h : Heartbeat R) : Moment κ R → Heartbeat R
  | .told l e => (after (observe e : Beating κ R Unit) (h, l)).1
  | .mode pessimistic => { h with pessimistic }

theorem sameTerms_meet (hrole : h.role ≠ .plain) (hon : h.enabled = true) (x : Moment κ R) :
    h.SameTerms (h.meet x) := by
  cases x with
  | told l e => exact leaves_iff.1 (sameTerms_observe hrole hon e l)
  | mode pessimistic => exact .changeMode h pessimistic

theorem meet_of_greeting {e : Event} {f : Frame} (hrole : h.role ≠ .plain)
    (hoff : h.enabled = false) (he : e.greeting? = some f) (l : Link κ R) :
    h.meet (.told l e) = h.greeted l f := by
  have houtcome := outcome_handshake hrole l f
  rw [← observe_of_greeting hoff he] at houtcome
  have hleaves : Leaves (fun p => p.1 = h.greeted l f)
      ((observe e : Beating κ R Unit) (h, l)) :=
    houtcome.mono (fun _ _ hok => hok.1) (fun _ _ hfailed => hfailed.1)
  exact leaves_iff.1 hleaves

theorem meet_of_not_greeting {e : Event} (hrole : h.role ≠ .plain) (hoff : h.enabled = false)
    (he : e.greeting? = none) (l : Link κ R) : h.meet (.told l e) = h.overheard l.now e := by
  rw [meet, after, observe_of_not_greeting hrole hoff he]

omit [Scale R] [Channel κ R] in
theorem sameTerms_overheard (h : Heartbeat R) (now : R) (e : Event) :
    h.SameTerms (h.overheard now e) := by
  unfold overheard
  split
  · split
    · exact .remember h now
    · exact .refl h
  · split
    · exact .remember h now
    · exact .refl h
  · exact .refl h

/-! ## What a handshake changes -/

omit [Channel κ R] [Scale R] in
theorem learn_keeps (h : Heartbeat R) (now : R) (f : Frame) (offer : Int × Int) :
    (h.learn now f offer).role = h.role ∧ (h.learn now f offer).usage = h.usage ∧
      (h.learn now f offer).enabled = h.enabled ∧
      (h.learn now f offer).interval? = h.interval? := by
  unfold learn
  split
  · exact ⟨rfl, rfl, rfl, rfl⟩
  · split <;> exact ⟨rfl, rfl, rfl, rfl⟩
  · split <;> exact ⟨rfl, rfl, rfl, rfl⟩

omit [Channel κ R] [Scale R] in
/-- What an observer learns was offered in the frame, or it knew it before. -/
theorem learned (h : Heartbeat R) (now : R) (f : Frame) (offer : Int × Int) (n : Int)
    (hn : n ∈ (h.learn now f offer).client? ∨ n ∈ (h.learn now f offer).server?) :
    n = offer.1 ∨ n = offer.2 ∨ n ∈ h.client? ∨ n ∈ h.server? := by
  cases hclient : h.client? <;> grind [learn]

theorem settled_cases (h : Heartbeat R) (l : Link κ R) :
    h.settled l = h ∨ ∃ agreed milliseconds, h.agreed? = some agreed ∧
      h.takenUp? l.channel agreed = some milliseconds ∧
      h.settled l = { h with
        interval? := some (seconds milliseconds), enabled := true, lastBeat? := some l.now } := by
  unfold settled
  cases hsettled : h.agreed?.bind (h.takenUp? l.channel) with
  | none => exact .inl rfl
  | some milliseconds =>
      obtain ⟨agreed, hagreed, htaken⟩ := Option.bind_eq_some_iff.1 hsettled
      exact .inr ⟨agreed, milliseconds, hagreed, htaken, rfl⟩

omit [Channel κ R] [Scale R] in
theorem agreed_known {agreed : Int} (hagreed : h.agreed? = some agreed) :
    agreed ∈ h.client? ∨ agreed ∈ h.server? := by
  unfold agreed? at hagreed
  grind

/-! ## Histories -/

/-- An observer that was told of nothing so far. -/
structure IsNew (h : Heartbeat R) : Prop where
  role : h.role ≠ .plain
  client : h.client? = none
  server : h.server? = none
  interval : h.interval? = none
  off : h.enabled = false

omit [Channel κ R] in
theorem isNew_emitter (usage : Quantity R) : (emitter usage).IsNew :=
  ⟨Role.noConfusion, rfl, rfl, rfl, rfl⟩

omit [Channel κ R] in
theorem isNew_detector (usage : Quantity R) : (detector usage).IsNew :=
  ⟨Role.noConfusion, rfl, rfl, rfl, rfl⟩

def run (h : Heartbeat R) (past : List (Moment κ R)) : Heartbeat R := past.foldl meet h

theorem run_append (h : Heartbeat R) (past later : List (Moment κ R)) :
    h.run (past ++ later) = (h.run past).run later :=
  List.foldl_append

theorem run_snoc (h : Heartbeat R) (past : List (Moment κ R)) (x : Moment κ R) :
    h.run (past ++ [x]) = (h.run past).meet x :=
  run_append h past [x]

/-- What an observer knows after a history that it began as `h₀`. -/
structure Informed (h₀ : Heartbeat R) (past : List (Moment κ R)) (h : Heartbeat R) : Prop where
  role : h.role = h₀.role
  usage : h.usage = h₀.usage
  offered : ∀ n, n ∈ h.client? ∨ n ∈ h.server? → n ∈ offersOf past
  /-- Before it is enabled it has no interval. -/
  idle : h.enabled = false → h.interval? = none
  /-- Afterwards it lacks nothing that it acts on. -/
  active : h.enabled = true →
    h.client?.isSome = true ∧ h.interval?.isSome = true ∧ h.lastBeat?.isSome = true

namespace Informed

variable {past : List (Moment κ R)}

omit [Scale R] [Channel κ R] in
theorem of_isNew (hnew : h.IsNew) : h.Informed ([] : List (Moment κ R)) h where
  role := rfl
  usage := rfl
  offered n hn := by
    rw [hnew.client, hnew.server] at hn
    simp at hn
  idle _ := hnew.interval
  active hon := by
    rw [hnew.off] at hon
    cases hon

omit [Scale R] [Channel κ R] in
theorem mem_offersOf_snoc {n : Int} {x : Moment κ R} (h : n ∈ offersOf past) :
    n ∈ offersOf (past ++ [x]) := by
  rw [offersOf, List.flatMap_append]
  exact List.mem_append_left _ h

omit [Scale R] [Channel κ R] in
theorem sameTerms {k : Heartbeat R} (hknown : h₀.Informed past h) (hk : h.SameTerms k)
    (x : Moment κ R) : h₀.Informed (past ++ [x]) k where
  role := hk.role.trans hknown.role
  usage := hk.usage.trans hknown.usage
  offered n hn := by
    rw [hk.client, hk.server] at hn
    exact mem_offersOf_snoc (hknown.offered n hn)
  idle hoff := by
    rw [hk.enabled] at hoff
    rw [hk.interval]
    exact hknown.idle hoff
  active hon := by
    rw [hk.enabled] at hon
    obtain ⟨hclient, hinterval, hlast⟩ := hknown.active hon
    rw [hk.client, hk.interval]
    exact ⟨hclient, hinterval, hk.remembers hlast⟩

omit [Scale R] in
theorem taught {f : Frame} {e : Event} (hknown : h₀.Informed past h) (hoff : h.enabled = false)
    (he : e.greeting? = some f) (l : Link κ R) :
    h₀.Informed (past ++ [.told l e]) (h.taught l f) := by
  obtain ⟨hrole, husage, henabled, hinterval⟩ := learn_keeps h l.now f (Heartbeat.offered f)
  refine ⟨hrole.trans hknown.role, husage.trans hknown.usage, ?offered, ?idle, ?active⟩
  case offered =>
    intro n hn
    have hoffers : Moment.offers (.told l e) =
        [(Heartbeat.offered f).1, (Heartbeat.offered f).2] := by
      rw [Moment.offers, Moment.greeting?, he]
    rw [offersOf, List.flatMap_append, List.flatMap_singleton, hoffers, List.mem_append]
    obtain hfirst | hsecond | hbefore := learned h l.now f (Heartbeat.offered f) n hn
    · exact .inr (by simp [hfirst])
    · exact .inr (by simp [hsecond])
    · exact .inl (hknown.offered n hbefore)
  case idle =>
    intro _
    rw [Heartbeat.taught, hinterval]
    exact hknown.idle hoff
  case active =>
    intro hon
    rw [Heartbeat.taught, henabled, hoff] at hon
    cases hon

theorem greeted {f : Frame} {e : Event} (hknown : h₀.Informed past h) (hoff : h.enabled = false)
    (he : e.greeting? = some f) (l : Link κ R) :
    h₀.Informed (past ++ [.told l e]) (h.greeted l f) := by
  have htaught := hknown.taught hoff he l
  obtain hsame | ⟨agreed, milliseconds, hagreed, -, hsettled⟩ := settled_cases (h.taught l f) l
  · rw [Heartbeat.greeted, hsame]
    exact htaught
  · rw [Heartbeat.greeted, hsettled]
    refine ⟨htaught.role, htaught.usage, htaught.offered, Bool.noConfusion, fun _ => ⟨?_, rfl, rfl⟩⟩
    cases hclient : (h.taught l f).client? with
    | some n => rfl
    | none =>
        rw [agreed?, hclient] at hagreed
        cases hagreed

theorem meet (hplain : h₀.role ≠ .plain) (hknown : h₀.Informed past h) (x : Moment κ R) :
    h₀.Informed (past ++ [x]) (h.meet x) := by
  have hrole : h.role ≠ .plain := hknown.role ▸ hplain
  cases hon : h.enabled with
  | true => exact hknown.sameTerms (sameTerms_meet hrole hon x) x
  | false =>
      cases x with
      | mode pessimistic => exact hknown.sameTerms (.changeMode h pessimistic) _
      | told l e =>
          cases he : e.greeting? with
          | some f =>
              rw [meet_of_greeting hrole hon he]
              exact hknown.greeted hon he l
          | none =>
              rw [meet_of_not_greeting hrole hon he]
              exact hknown.sameTerms (sameTerms_overheard h l.now e) _

end Informed

theorem informed_run (hnew : h.IsNew) (past : List (Moment κ R)) :
    h.Informed past (h.run past) := by
  induction past using List.reverseRecOn with
  | nil => exact .of_isNew hnew
  | append_singleton past x ih =>
      rw [run_snoc]
      exact ih.meet hnew.role x

/-! ## The event that enables an observer -/

theorem sameTerms_run (hrole : h.role ≠ .plain) (hon : h.enabled = true)
    (later : List (Moment κ R)) : h.SameTerms (h.run later) := by
  induction later using List.reverseRecOn with
  | nil => exact .refl h
  | append_singleton later x ih =>
      rw [run_snoc]
      exact ih.trans (sameTerms_meet (ih.role ▸ hrole) (ih.enabled.trans hon) x)

/-- The event enables the observer, which is `h` at first. -/
structure EnabledBy (h : Heartbeat R) (before : List (Moment κ R)) (l : Link κ R) (e : Event) :
    Prop where
  off : (h.run before).enabled = false
  on : (h.run (before ++ [.told l e])).enabled = true

theorem exists_enabledBy (hnew : h.IsNew) {past : List (Moment κ R)}
    (hon : (h.run past).enabled = true) :
    ∃ before l e later, past = before ++ .told l e :: later ∧ h.EnabledBy before l e := by
  induction past using List.reverseRecOn with
  | nil =>
      rw [run, List.foldl_nil, hnew.off] at hon
      cases hon
  | append_singleton past x ih =>
      cases hpast : (h.run past).enabled with
      | true =>
          obtain ⟨before, l, e, later, rfl, henabled⟩ := ih hpast
          exact ⟨before, l, e, later ++ [x], by simp, henabled⟩
      | false =>
          cases x with
          | told l e => exact ⟨past, l, e, [], rfl, hpast, hon⟩
          | mode pessimistic =>
              rw [run_snoc] at hon
              exact absurd (hpast.symm.trans hon) Bool.false_ne_true

theorem EnabledBy.lastBeat {before : List (Moment κ R)} {e : Event} (hnew : h.IsNew)
    (henabled : h.EnabledBy before l e) :
    (h.run (before ++ [.told l e])).lastBeat? = some l.now := by
  have hknown := informed_run hnew before
  have hrole : (h.run before).role ≠ .plain := hknown.role ▸ hnew.role
  have hon := henabled.on
  rw [run_snoc] at hon ⊢
  cases he : e.greeting? with
  | none =>
      rw [meet_of_not_greeting hrole henabled.off he,
        (sameTerms_overheard (h.run before) l.now e).enabled, henabled.off] at hon
      cases hon
  | some f =>
      rw [meet_of_greeting hrole henabled.off he, greeted] at hon ⊢
      obtain hsame | ⟨agreed, milliseconds, -, -, hsettled⟩ :=
        settled_cases ((h.run before).taught l f) l
      · obtain ⟨-, -, hkept, -⟩ := learn_keeps (h.run before) l.now f (offered f)
        rw [hsame, taught, hkept, henabled.off] at hon
        cases hon
      · rw [hsettled]

end Heartbeat

/-! ## Building histories -/

def Frame.offering (command offer : String) : Frame :=
  { command, headers := Headers.ofList [(Name.heartBeat, .text offer)] }

def Link.silent [Scale R] (clock : R) : Link (Script R) R :=
  { channel := { clock, step := Scale.zero, readTimeout := (.whole 0, .whole 10000) } }

def handshakeOf [Scale R] (ours theirs : String) : List (Moment (Script R) R) :=
  [.told (.silent Scale.zero) (.sent (.offering Verb.connect ours)),
    .told (.silent (Scale.decimal 1 0)) (.received (.offering Verb.connected theirs))]

end Stomp
