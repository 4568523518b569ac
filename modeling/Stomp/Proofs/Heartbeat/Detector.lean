import Stomp.Channel.Script
import Stomp.Proofs.Heartbeat.History

/-!
# The detector of a silent broker

After any history, a detector gives the alarm exactly at a read without data that comes more than
one interval after the broker was heard of last (`vigilant`). Before it is enabled it never fails,
as long as the offered intervals are within the scale of times; an interval that is within the scale
may exceed it once it is multiplied (`overflow_before_enabled`).
-/

namespace Stomp

open Stomp.Action

variable {κ R : Type}

def Error.isOverflow : Error R → Bool
  | .beyondScale => true
  | _ => false

/-- The time at which the broker was heard of at this moment. -/
def Moment.heard? [Channel κ R] : Moment κ R → Option R
  | .told l e => if e.isArrival then some l.now else none
  | .mode _ => none

namespace Heartbeat

variable [Scale R] [Channel κ R] {h : Heartbeat R} {l : Link κ R}

/-- The time at which the broker was heard of last, `start` being an earlier one. -/
def lastHeard (start : R) (later : List (Moment κ R)) : R :=
  (later.filterMap Moment.heard?).getLastD start

theorem lastBeat_meet_detector (hrole : h.role = .detector) (hon : h.enabled = true)
    (hinterval : h.interval?.isSome = true) (x : Moment κ R) :
    (h.meet x).lastBeat? = x.heard?.or h.lastBeat? := by
  cases x with
  | mode pessimistic => rfl
  | told l e =>
      obtain ⟨interval, hinterval⟩ := Option.isSome_iff_exists.1 hinterval
      have hleaves : Leaves (fun p => p.1.lastBeat? = (Moment.told l e).heard?.or h.lastBeat?)
          ((observe e : Beating κ R Unit) (h, l)) := by
        apply (outcome_observe_detector hrole hon hinterval e l).mono
        · rintro - p ⟨-, rfl⟩
          rw [Moment.heard?, heard]
          split <;> rfl
        · rintro - p ⟨hread, -, rfl⟩
          have harrival : e.isArrival = false := by
            cases harrival : e.isArrival with
            | false => rfl
            | true =>
                rw [Event.isEmptyRead_of_arrival harrival, Bool.false_and] at hread
                exact absurd hread Bool.false_ne_true
          rw [Moment.heard?, harrival]
          rfl
      exact leaves_iff.1 hleaves

/-- From when a detector is enabled, it remembers when the broker was heard of last. -/
theorem lastBeat_run_detector {start : R} (hrole : h.role = .detector) (hon : h.enabled = true)
    (hinterval : h.interval?.isSome = true) (hstart : h.lastBeat? = some start)
    (later : List (Moment κ R)) : (h.run later).lastBeat? = some (lastHeard start later) := by
  have hplain : h.role ≠ .plain := fun hr => Role.noConfusion (hrole.symm.trans hr)
  unfold lastHeard
  induction later using List.reverseRecOn with
  | nil => exact hstart
  | append_singleton later x ih =>
      have hterms := sameTerms_run hplain hon later
      rw [run_snoc, lastBeat_meet_detector (hterms.role.trans hrole) (hterms.enabled.trans hon)
        (hterms.interval ▸ hinterval), ih, List.filterMap_append]
      cases hx : x.heard? with
      | none => simp [hx]
      | some time => simp [hx]

/-- The observer can calculate an interval from an offer of so many milliseconds. -/
def suits (h : Heartbeat R) (offer : Int) : Bool :=
  ((h.usage.times? offer).bind Quantity.toScale?).isSome

theorem observe_of_suits {h₀ : Heartbeat R} {past : List (Moment κ R)} {e : Event}
    (hknown : h₀.Informed past h) (hrole : h.role = .detector) (hoff : h.enabled = false)
    (hsuits : ∀ n ∈ offersOf (past ++ [.told l e]), h₀.suits n = true) :
    ∃ p, (observe e : Beating κ R Unit) (h, l) = .ok () p := by
  have hplain : h.role ≠ .plain := fun hr => Role.noConfusion (hrole.symm.trans hr)
  cases he : e.greeting? with
  | none => exact ⟨_, observe_of_not_greeting hplain hoff he l⟩
  | some f =>
      rw [observe_of_greeting hoff he]
      have htaken : ∀ agreed, (h.taught l f).agreed? = some agreed →
          (h.taught l f).takenUp? l.channel agreed ≠ none := by
        intro agreed hagreed hnone
        have htaught := hknown.taught hoff he l
        have hsuit := hsuits agreed (htaught.offered agreed (agreed_known hagreed))
        have hkept : (h.taught l f).role = .detector := htaught.role.trans (hknown.role ▸ hrole)
        rw [takenUp?_detector hkept, htaught.usage] at hnone
        rw [suits, hnone] at hsuit
        exact absurd hsuit Bool.false_ne_true
      have houtcome := outcome_handshake hplain l f
      cases hr : (handshake f : Beating κ R Unit) (h, l) with
      | ok _ p => exact ⟨p, rfl⟩
      | error err p =>
          rw [hr] at houtcome
          obtain ⟨-, -, -, agreed, hagreed, hnone⟩ := houtcome
          exact absurd hnone (htaken agreed hagreed)

omit [Channel κ R] in
theorem isDelayed_iff (h : Heartbeat R) (now : R) :
    h.isDelayed now = true ↔ h.enabled = true ∧ ∃ last interval, h.lastBeat? = some last ∧
      h.interval? = some interval ∧ Scale.lt interval (now - last) = true := by
  unfold isDelayed
  cases h.enabled <;> cases h.lastBeat? <;> cases h.interval? <;> simp

theorem outcome_observe_of_suits {h₀ : Heartbeat R} {past : List (Moment κ R)} {e : Event}
    (hknown : h₀.Informed past h) (hrole : h.role = .detector)
    (hsuits : ∀ n ∈ offersOf (past ++ [.told l e]), h₀.suits n = true) :
    Outcome (fun _ _ => ¬ (e = .emptyRead ∧ h.isDelayed l.now = true))
      (fun err p => (e = .emptyRead ∧ h.isDelayed l.now = true) ∧ err.isHeartbeat = true ∧ p.1 = h)
      ((observe e : Beating κ R Unit) (h, l)) := by
  have hread : (e.isEmptyRead && h.isDelayed l.now) = true ↔
      e = .emptyRead ∧ h.isDelayed l.now = true := by
    rw [Bool.and_eq_true_iff, Event.isEmptyRead_iff]
  rw [← hread]
  cases hon : h.enabled with
  | false =>
      obtain ⟨p, hok⟩ := observe_of_suits hknown hrole hon hsuits
      rw [hok, isDelayed_of_off hon, Bool.and_false]
      exact Bool.false_ne_true
  | true =>
      obtain ⟨interval, hinterval⟩ := Option.isSome_iff_exists.1 (hknown.active hon).2.1
      apply (outcome_observe_detector hrole hon hinterval e l).mono
      · rintro - p ⟨hcalm, -⟩
        exact Bool.eq_false_iff.1 hcalm
      · rintro err p ⟨halarm, rfl, rfl⟩
        exact ⟨halarm, rfl, rfl⟩

/-- What a detector that began as new does at the next event. -/
structure Vigilant (usage : Quantity R) (past : List (Moment κ R)) (l : Link κ R) (e : Event) :
    Prop where
  /-- It does not fail before it is enabled. -/
  quiet : ((detector usage).run past).enabled = false →
    ∃ p, (observe e : Beating κ R Unit) ((detector usage).run past, l) = .ok () p
  /-- Once enabled, it stays so with the same interval. -/
  steady : ((detector usage).run past).enabled = true → ∀ later : List (Moment κ R),
    ((detector usage).run (past ++ later)).enabled = true ∧
      ((detector usage).run (past ++ later)).interval? = ((detector usage).run past).interval?
  /-- One event of the past enabled it. -/
  enabledBy : ((detector usage).run past).enabled = true → ∃ before l₀ e₀ later,
    past = before ++ .told l₀ e₀ :: later ∧ (detector usage).EnabledBy before l₀ e₀
  /-- Since that event, it remembers when the broker was heard of last. -/
  remembers : ∀ before l₀ e₀ later, past = before ++ .told l₀ e₀ :: later →
    (detector usage).EnabledBy before l₀ e₀ →
    ((detector usage).run past).lastBeat? = some (lastHeard l₀.now later)
  /-- It gives the alarm at a read without data, when more than the interval has passed. -/
  alarm : (∃ err p, (observe e : Beating κ R Unit) ((detector usage).run past, l) = .error err p ∧
      err.isHeartbeat = true) ↔
    e = .emptyRead ∧ ((detector usage).run past).enabled = true ∧ ∃ last interval,
      ((detector usage).run past).lastBeat? = some last ∧
      ((detector usage).run past).interval? = some interval ∧
      Scale.lt interval (l.now - last) = true
  /-- It fails in no other way, and stays as it was. -/
  unchanged : ∀ err p, (observe e : Beating κ R Unit) ((detector usage).run past, l) = .error err p →
    err.isHeartbeat = true ∧ p.1 = (detector usage).run past

theorem vigilant (usage : Quantity R) (past : List (Moment κ R)) (l : Link κ R) (e : Event)
    (hsuits : ∀ n ∈ offersOf (past ++ [.told l e]), (detector usage).suits n = true) :
    Vigilant usage past l e := by
  have hnew : (detector usage).IsNew := isNew_detector usage
  have hknown := informed_run hnew past
  have hrole : ((detector usage).run past).role = .detector := hknown.role
  have hplain : ((detector usage).run past).role ≠ .plain := hknown.role ▸ hnew.role
  have houtcome := outcome_observe_of_suits hknown hrole hsuits
  refine ⟨?quiet, ?steady, exists_enabledBy hnew, ?remembers, ?alarm, ?unchanged⟩
  case quiet =>
    intro hoff
    exact observe_of_suits hknown hrole hoff hsuits
  case steady =>
    intro hon later
    have hterms := sameTerms_run hplain hon later
    rw [run_append]
    exact ⟨hterms.enabled.trans hon, hterms.interval⟩
  case remembers =>
    rintro before l₀ e₀ later rfl henabled
    have hstart := informed_run hnew (before ++ [.told l₀ e₀])
    obtain ⟨-, hinterval, -⟩ := hstart.active henabled.on
    rw [List.append_cons, run_append]
    exact lastBeat_run_detector hstart.role henabled.on hinterval (henabled.lastBeat hnew) later
  case alarm =>
    rw [← isDelayed_iff]
    constructor
    · rintro ⟨err, p, herror, -⟩
      rw [herror] at houtcome
      exact houtcome.1
    · intro halarm
      obtain ⟨err, p, herror, -, hbeat, -⟩ := houtcome.exists_error fun _ _ hcalm => hcalm halarm
      exact ⟨err, p, herror, hbeat⟩
  case unchanged =>
    intro err p herror
    rw [herror] at houtcome
    exact houtcome.2

/-- A broker that agreed on 100 milliseconds is silent for a second. -/
theorem vigilant_of_silence :
    let past : List (Moment (Script Rat) Rat) := handshakeOf "0,100" "100,0"
    let late : Link (Script Rat) Rat := .silent 2
    (∀ n ∈ offersOf (past ++ [.told late .emptyRead]),
      (detector (R := Rat) (.whole 2)).suits n = true) ∧
    Vigilant (.whole 2) past late .emptyRead ∧
    ∃ err p, (observe .emptyRead : Beating (Script Rat) Rat Unit)
      ((detector (.whole 2)).run past, late) = .error err p := by
  intro past late
  have hsuits : ∀ n ∈ offersOf (past ++ [.told late .emptyRead]),
      (detector (R := Rat) (.whole 2)).suits n = true := by
    decide +kernel
  have hvigilant := vigilant (.whole 2) past late .emptyRead hsuits
  have hon : ((detector (.whole 2)).run past).enabled = true := by decide +kernel
  have hlast : ((detector (.whole 2)).run past).lastBeat? = some 1 := by decide +kernel
  have hinterval : ((detector (.whole 2)).run past).interval? = some (1 / 5) := by decide +kernel
  have hlong : Scale.lt (1 / 5) (late.now - 1) = true := by decide +kernel
  obtain ⟨err, p, herror, -⟩ := hvigilant.alarm.2 ⟨rfl, hon, 1, 1 / 5, hlast, hinterval, hlong⟩
  exact ⟨hsuits, hvigilant, err, p, herror⟩

/-- Both sides offer ten milliseconds, but the huge multiple of them that the detector tolerates is
beyond the doubles. -/
theorem overflow_before_enabled :
    let patient : Heartbeat Float := detector (.whole (.ofNat (Nat.pow 10 308)))
    let past : List (Moment (Script Float) Float) :=
      [.told (.silent 0) (.sent (.offering Verb.connect "0,10"))]
    let greeting : Event := .received (.offering Verb.connected "10,0")
    (∀ n ∈ offersOf (past ++ [.told (.silent 0) greeting]),
      (Scale.ofInt? n : Option Float).isSome = true) ∧
    (patient.run past).enabled = false ∧
    fails (fun err _ => err.isOverflow)
      ((observe greeting : Beating (Script Float) Float Unit) (patient.run past, .silent 0)) =
        true := by
  intro patient past greeting
  refine ⟨?_, ?_, ?_⟩ <;> decide +kernel

end Heartbeat

end Stomp
