import Stomp.Proofs.Heartbeat.History
import Stomp.Proofs.Transport.Reading

/-!
# The emitter of heart-beats

After any history, an enabled emitter asks for exactly one beat at an event that is not a frame of
the client, if more than one interval has passed since the client wrote last, and for none otherwise
(`punctual`); in the pessimistic mode every read without data brings a beat. A beat that was refused
does not count as written.
-/

namespace Stomp

open Stomp.Action

variable {κ R : Type} [Channel κ R]

namespace Link

theorem journal_of_sendAlive {timeout : Option (Quantity R)} {l m : Link κ R}
    (hsent : sendAlive timeout l = .ok () m) : m.journal = l.journal ++ [.sendAlive timeout] := by
  have houtcome : Outcome (fun _ m => m.journal = l.journal ++ [.sendAlive timeout])
      (fun _ _ => True) (sendAlive timeout l) := by
    apply (outcome_requireConnected l).bind (fun _ _ _ => True.intro)
    rintro - m ⟨-, rfl⟩
    have hperformed : Outcome (fun _ n => n.journal = l.journal ++ [.sendAlive timeout])
        (fun _ _ => True)
        (perform .sendAlive (fun _ => .sendAlive timeout)
          (fun text => .beatNotWritten (some text)) (Channel.sendAlive timeout) l) := by
      unfold perform
      cases Channel.sendAlive timeout l.channel with
      | ok alive c => exact rfl
      | error text c => exact True.intro
    apply hperformed.bind (fun _ _ _ => True.intro)
    intro alive n hn
    cases alive with
    | true => exact hn
    | false => exact True.intro
  rw [hsent] at houtcome
  exact houtcome

end Link

namespace Heartbeat

variable [Scale R] {h : Heartbeat R} {l : Link κ R}

def wrote? (h : Heartbeat R) : Moment κ R → Option R
  | .told l e =>
    if e.isSent then some l.now
    else
      match (observe e : Beating κ R Unit) (h, l) with
      | .ok _ p => if p.2.journal.length = l.journal.length then none else some p.2.now
      | .error _ _ => none
  | .mode _ => none

/-- The times of all writes of the client along a history, the observer being `h` before it. -/
def writes (h : Heartbeat R) : List (Moment κ R) → List R
  | [] => []
  | x :: later => (h.wrote? x).toList ++ (h.meet x).writes later

/-- The time at which the client wrote last, `start` being an earlier one. -/
def lastWritten (h : Heartbeat R) (start : R) (later : List (Moment κ R)) : R :=
  (h.writes later).getLastD start

/-- An emitter that is enabled and can name the interval of its beats. -/
structure Emitting (h : Heartbeat R) (timeout : R) : Prop where
  role : h.role = .emitter
  on : h.enabled = true
  timeout : ∃ offer milliseconds, h.client? = some offer ∧
    Scale.ofInt? offer = some milliseconds ∧ timeout = seconds milliseconds

theorem Emitting.at_event {timeout : R} (hh : h.Emitting timeout) (e : Event) (l : Link κ R) :
    if h.isDue l.now e then Beats h l timeout ((observe e : Beating κ R Unit) (h, l))
    else (observe e : Beating κ R Unit) (h, l) = .ok () (h.spoken l.now e, l) := by
  obtain ⟨offer, milliseconds, hclient, hscale, rfl⟩ := hh.timeout
  exact observe_emitter hh.role hh.on hclient hscale e l

theorem Emitting.lastBeat_meet {timeout : R} (hh : h.Emitting timeout) (x : Moment κ R) :
    (h.meet x).lastBeat? = (h.wrote? x).or h.lastBeat? := by
  cases x with
  | mode pessimistic => rfl
  | told l e =>
      have hobserve := hh.at_event e l
      rw [meet, after, wrote?]
      split at hobserve
      · rename_i hdue
        have hspeech : e.isSent = false := by
          rw [isDue, Bool.and_eq_true, Bool.not_eq_true'] at hdue
          exact hdue.1
        rw [hspeech, if_neg Bool.false_ne_true]
        cases hr : (observe e : Beating κ R Unit) (h, l) with
        | ok _ p =>
            rw [hr] at hobserve
            cases hobserve with
            | written m sent =>
                have hentered : m.journal.length ≠ l.journal.length := by
                  rw [Link.journal_of_sendAlive sent]
                  simp [Link.notify]
                dsimp only
                rw [if_neg hentered]
                rfl
        | error err p =>
            rw [hr] at hobserve
            cases hobserve with
            | failed fault m refused => rfl
      · rw [hobserve]
        dsimp only
        rw [if_pos rfl, spoken]
        cases e.isSent <;> rfl

omit [Channel κ R] in
theorem Emitting.plain {timeout : R} (hh : h.Emitting timeout) : h.role ≠ .plain :=
  fun hr => Role.noConfusion (hh.role.symm.trans hr)

omit [Channel κ R] in
theorem Emitting.sameTerms {timeout : R} {k : Heartbeat R} (hh : h.Emitting timeout)
    (hk : h.SameTerms k) : k.Emitting timeout where
  role := hk.role.trans hh.role
  on := hk.enabled.trans hh.on
  timeout := hk.client ▸ hh.timeout

/-- From when an emitter is enabled, it remembers when the client wrote last. -/
theorem Emitting.lastBeat_run {timeout start : R} (hh : h.Emitting timeout)
    (hstart : h.lastBeat? = some start) (later : List (Moment κ R)) :
    (h.run later).lastBeat? = some (h.lastWritten start later) := by
  unfold lastWritten
  induction later generalizing h start with
  | nil => exact hstart
  | cons x later ih =>
      have hnext : (h.meet x).lastBeat? = some ((h.wrote? x).getD start) := by
        rw [hh.lastBeat_meet x, hstart]
        cases h.wrote? x <;> rfl
      change ((h.meet x).run later).lastBeat? = _
      rw [ih (hh.sameTerms (sameTerms_meet hh.plain hh.on x)) hnext, writes]
      cases h.wrote? x with
      | none => rfl
      | some time =>
          rw [Option.toList_some, List.singleton_append, List.getLastD_cons]
          rfl

/-- What an enabled emitter does at an event, `last` being the time of the last write. -/
structure Acts (h : Heartbeat R) (interval timeout last : R) (l : Link κ R) (e : Event) : Prop where
  /-- A frame of the client is a write, and brings no beat. -/
  sent : e.isSent = true →
    (observe e : Beating κ R Unit) (h, l) = .ok () ({ h with lastBeat? := some l.now }, l)
  /-- One beat is asked for if it is due. -/
  due : e.isSent = false →
    Scale.lt interval (l.now - last) = true ∨ e = .emptyRead ∧ h.pessimistic = true →
    Beats h l timeout ((observe e : Beating κ R Unit) (h, l))
  /-- Otherwise nothing happens. -/
  calm : e.isSent = false →
    ¬ (Scale.lt interval (l.now - last) = true ∨ e = .emptyRead ∧ h.pessimistic = true) →
    (observe e : Beating κ R Unit) (h, l) = .ok () (h, l)
  /-- Without the pessimistic mode, whatever is written comes more than one interval later. -/
  paced : h.pessimistic = false →
    ¬ l.Untouched (after (observe e : Beating κ R Unit) (h, l)).2 →
    Scale.lt interval (l.now - last) = true

/-- What an emitter that began as new does at the next event. -/
structure Punctual (usage : Quantity R) (past : List (Moment κ R)) (l : Link κ R) (e : Event) :
    Prop where
  /-- It writes nothing before it is enabled. -/
  quiet : ((emitter usage).run past).enabled = false →
    l.Untouched (after (observe e : Beating κ R Unit) ((emitter usage).run past, l)).2
  /-- One event of the past enabled it. -/
  enabledBy : ((emitter usage).run past).enabled = true → ∃ before l₀ e₀ later,
    past = before ++ .told l₀ e₀ :: later ∧ (emitter usage).EnabledBy before l₀ e₀
  /-- Since that event it acts by the time that has passed since the client wrote last. -/
  acts : ∀ before l₀ e₀ later, past = before ++ .told l₀ e₀ :: later →
    (emitter usage).EnabledBy before l₀ e₀ → ∃ interval timeout,
      ((emitter usage).run past).interval? = some interval ∧
      ((emitter usage).run past).Emitting timeout ∧
      Acts ((emitter usage).run past) interval timeout
        (((emitter usage).run (before ++ [.told l₀ e₀])).lastWritten l₀.now later) l e

theorem isDue_iff {interval last : R} (hon : h.enabled = true)
    (hinterval : h.interval? = some interval) (hlast : h.lastBeat? = some last) {e : Event}
    (he : e.isSent = false) (now : R) :
    h.isDue now e = true ↔
      Scale.lt interval (now - last) = true ∨ e = .emptyRead ∧ h.pessimistic = true := by
  rw [isDue, isDelayed, hon, hinterval, hlast, he, Bool.not_false, Bool.true_and, Bool.or_eq_true,
    Bool.and_eq_true, Event.isEmptyRead_iff]

theorem Emitting.acts {interval timeout last : R} (hh : h.Emitting timeout)
    (hinterval : h.interval? = some interval) (hlast : h.lastBeat? = some last) (l : Link κ R)
    (e : Event) : h.Acts interval timeout last l e := by
  have hobserve := hh.at_event e l
  have hsent : e.isSent = true →
      (observe e : Beating κ R Unit) (h, l) =
        .ok () ({ h with lastBeat? := some l.now }, l) := by
    intro he
    have hfree : h.isDue l.now e = false := by rw [isDue, he, Bool.not_true, Bool.false_and]
    rw [hfree, if_neg Bool.false_ne_true, spoken, if_pos he] at hobserve
    exact hobserve
  have hcalm : e.isSent = false →
      ¬ (Scale.lt interval (l.now - last) = true ∨ e = .emptyRead ∧ h.pessimistic = true) →
      (observe e : Beating κ R Unit) (h, l) = .ok () (h, l) := by
    intro he hcalm
    rw [if_neg (mt (isDue_iff hh.on hinterval hlast he l.now).1 hcalm), spoken, he,
      if_neg Bool.false_ne_true] at hobserve
    exact hobserve
  refine ⟨hsent, ?due, hcalm, ?paced⟩
  case due =>
    intro he hdue
    rw [if_pos ((isDue_iff hh.on hinterval hlast he l.now).2 hdue)] at hobserve
    exact hobserve
  case paced =>
    intro hmode hwritten
    by_contra hshort
    apply hwritten
    cases he : e.isSent with
    | true =>
        rw [after, hsent he]
        exact .refl l
    | false =>
        have hnotDue : ¬ (Scale.lt interval (l.now - last) = true ∨
            e = .emptyRead ∧ h.pessimistic = true) := by
          rw [hmode]
          rintro (hlong | ⟨-, hpessimistic⟩)
          · exact hshort hlong
          · cases hpessimistic
        rw [after, hcalm he hnotDue]
        exact .refl l

theorem punctual (usage : Quantity R) (past : List (Moment κ R)) (l : Link κ R) (e : Event)
    (hscale : ∀ n ∈ offersOf past, (Scale.ofInt? n : Option R).isSome = true) :
    Punctual usage past l e := by
  have hnew : (emitter usage).IsNew := isNew_emitter usage
  have hknown := informed_run hnew past
  have hplain : ((emitter usage).run past).role ≠ .plain := hknown.role ▸ hnew.role
  refine ⟨?quiet, exists_enabledBy hnew, ?acts⟩
  case quiet =>
    intro hoff
    cases he : e.greeting? with
    | none =>
        rw [after, observe_of_not_greeting hplain hoff he]
        exact .refl l
    | some f =>
        have hleaves : Leaves (fun p => l.Untouched p.2)
            ((observe e : Beating κ R Unit) ((emitter usage).run past, l)) := by
          rw [observe_of_greeting hoff he]
          exact (outcome_handshake hplain l f).mono (fun _ _ hok => hok.2)
            (fun _ _ hfailed => hfailed.2.1)
        exact leaves_iff.1 hleaves
  case acts =>
    rintro before l₀ e₀ later rfl henabled
    have hstart := informed_run hnew (before ++ [.told l₀ e₀])
    obtain ⟨hclient, hinterval, -⟩ := hstart.active henabled.on
    obtain ⟨offer, hclient⟩ := Option.isSome_iff_exists.1 hclient
    obtain ⟨interval, hinterval⟩ := Option.isSome_iff_exists.1 hinterval
    have hoffered : offer ∈ offersOf (before ++ .told l₀ e₀ :: later) := by
      rw [List.append_cons, offersOf, List.flatMap_append]
      exact List.mem_append_left _ (hstart.offered offer (.inl hclient))
    obtain ⟨milliseconds, hms⟩ := Option.isSome_iff_exists.1 (hscale offer hoffered)
    have hbegin : ((emitter usage).run (before ++ [.told l₀ e₀])).Emitting (seconds milliseconds) :=
      ⟨hstart.role, henabled.on, offer, milliseconds, hclient, hms, rfl⟩
    have hlast := hbegin.lastBeat_run (henabled.lastBeat hnew) later
    have hterms := sameTerms_run hbegin.plain hbegin.on later
    rw [List.append_cons, run_append]
    exact ⟨interval, seconds milliseconds, hterms.interval.trans hinterval,
      hbegin.sameTerms hterms,
      (hbegin.sameTerms hterms).acts (hterms.interval.trans hinterval) hlast l e⟩

/-- A client that agreed on 100 milliseconds is silent for a second. -/
theorem punctual_of_silence :
    let past : List (Moment (Script Rat) Rat) := handshakeOf "100,0" "0,100"
    let late : Link (Script Rat) Rat := .silent 2
    (∀ n ∈ offersOf past, (Scale.ofInt? n : Option Rat).isSome = true) ∧
    Punctual (.real (13 / 20)) past late .emptyLine ∧
    ∃ timeout, Beats ((emitter (.real (13 / 20))).run past) late timeout
      ((observe .emptyLine : Beating (Script Rat) Rat Unit)
        ((emitter (.real (13 / 20))).run past, late)) := by
  intro past late
  have hscale : ∀ n ∈ offersOf past, (Scale.ofInt? n : Option Rat).isSome = true := fun _ _ => rfl
  have hpunctual := punctual (.real (13 / 20)) past late .emptyLine hscale
  obtain ⟨interval, timeout, hinterval, -, hacts⟩ := hpunctual.acts
    [.told (.silent Scale.zero) (.sent (.offering Verb.connect "100,0"))]
    (.silent (Scale.decimal 1 0)) (.received (.offering Verb.connected "0,100")) [] rfl
    ⟨by decide +kernel, by decide +kernel⟩
  have hagreed : ((emitter (.real (13 / 20))).run past).interval? = some (13 / 200) := by
    decide +kernel
  obtain rfl : interval = 13 / 200 := Option.some.inj (hinterval.symm.trans hagreed)
  have hlong : Scale.lt (13 / 200) (late.now - Scale.decimal 1 0) = true := by decide +kernel
  exact ⟨hscale, hpunctual, timeout, hacts.due rfl (.inl hlong)⟩

end Heartbeat

end Stomp
