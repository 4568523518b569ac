import Stomp.Proofs.Client.Call
import Stomp.Proofs.Client.Steps
import Stomp.Proofs.Client.Usage

/-!
# Calls that are given time

On exact time, over a scripted channel on which a read takes no time, a client waits only as long as
it may: an attempt to connect and a send come to an end by their deadline, and fail for lack of time
only when it has come (`timely_call`).
-/

namespace Stomp

open Stomp.Action

variable {α : Type}

/-! ## The clock -/

/-- The time in seconds. -/
def Quantity.amount : Quantity Rat → Rat
  | .whole n => n
  | .real x => x

theorem Quantity.toScale?_eq (q : Quantity Rat) : q.toScale? = some q.amount := by
  cases q <;> rfl

namespace Script

def Elapses (limit : Rat) (s t : Script Rat) : Prop :=
  s.step = 0 → t.step = 0 ∧ s.clock ≤ t.clock ∧ t.clock ≤ max s.clock limit

variable {limit : Rat} {s t u : Script Rat}

theorem Elapses.trans (hst : s.Elapses limit t) (htu : t.Elapses limit u) :
    s.Elapses limit u := by
  intro hs
  obtain ⟨ht, hle, hmax⟩ := hst hs
  obtain ⟨hu, hle', hmax'⟩ := htu ht
  refine ⟨hu, hle.trans hle', hmax'.trans ?_⟩
  exact max_le hmax (le_max_right s.clock limit)

theorem Elapses.of_clock (hstep : t.step = s.step) (hclock : t.clock = s.clock + s.step) :
    s.Elapses limit t := by
  intro hs
  rw [hs, Rat.add_zero] at hclock
  rw [hclock]
  exact ⟨hstep.trans hs, le_refl _, le_max_left _ _⟩

instance : Progress (Elapses limit) where
  refl _ hs := ⟨hs, le_refl _, le_max_left _ _⟩
  trans := Elapses.trans

theorem elapses_read (size : Nat) :
    Keeps (Elapses limit) (Channel.read size : EStateM String (Script Rat) Bytes) := by
  intro s
  apply outcome_guarded fun _ => Progress.refl s
  unfold take
  dsimp only
  split
  · exact .of_clock rfl rfl
  · exact .of_clock rfl rfl
  · split <;> exact .of_clock rfl rfl

theorem elapses_write (data : Bytes) :
    Keeps (Elapses limit) (Channel.write data : EStateM String (Script Rat) Unit) :=
  fun s => (outcome_written data s).mono fun _ h => h ▸ Progress.refl s

theorem elapses_canRead (hs : s.clock ≤ limit) :
    Leaves (s.Elapses limit)
      ((Channel.canRead (some (.real (limit - s.clock))) :
        EStateM String (Script Rat) Bool) s) := by
  apply outcome_guarded fun _ => Progress.refl s
  unfold wait
  split
  · have hclock : (s.advance (limit - s.clock)).clock = limit := add_sub_cancel s.clock limit
    intro hstep
    refine ⟨hstep, ?_, ?_⟩
    · exact hs.trans_eq hclock.symm
    · exact hclock.trans_le (le_max_right s.clock limit)
  · exact Progress.refl (r := Elapses limit) s

end Script

namespace Link

variable {limit : Rat}

def Elapses (limit : Rat) (l m : Link (Script Rat) Rat) : Prop :=
  l.channel.Elapses limit m.channel

theorem elapses_perform {op : Operation} {entry : α → Traffic Rat}
    {fault : String → ConnectionFault} {x : EStateM String (Script Rat) α}
    {l : Link (Script Rat) Rat} (hx : Leaves (l.channel.Elapses limit) (x l.channel)) :
    Leaves (l.Elapses limit) (perform op entry fault x l) := by
  unfold perform
  revert hx
  cases x l.channel <;> exact id

instance : Progress (Elapses limit) where
  refl l := Progress.refl l.channel
  trans hlm hmn := Script.Elapses.trans hlm hmn

instance : Used (Elapses limit) where
  notify l _ := Progress.refl l.channel
  write data l := elapses_perform (Script.elapses_write data l.channel)
  read size := (keeps_requireConnected _).bind fun _ l =>
    elapses_perform (Script.elapses_read size l.channel)

theorem elapses_canRead {l : Link (Script Rat) Rat} (hl : l.channel.clock ≤ limit) :
    Leaves (l.Elapses limit) ((canRead (some (.real (limit - l.channel.clock))) :
      EStateM ConnectionFault (Link (Script Rat) Rat) Bool) l) := by
  unfold canRead
  apply (leaves_requireConnected l).bind
  · rintro - m rfl
    exact Progress.refl (r := Elapses limit) l
  · rintro - m rfl
    exact elapses_perform (Script.elapses_canRead hl)

end Link

namespace Client

variable {limit : Rat} {c d : Client (Script Rat) Rat}

theorem elapses_waitForData (limit : Rat) (late : Error Rat) :
    Keeps (Private (Link.Elapses limit))
      (waitForData limit late : ClientAction (Script Rat) Rat Unit) := by
  refine keeps_waitForData_of late fun c hearly => ?_
  have hearly : ¬ limit - c.transport.now ≤ 0 := of_decide_eq_false hearly
  have hle : c.transport.now ≤ limit := by linarith
  have hwait := Link.elapses_canRead (l := c.transport.link) hle
  exact Outcome.on (Outcome.mapError (Outcome.on (hwait.mono fun _ hl hc => ⟨hc, hl⟩)))

theorem elapses_awaitReceipt (id : String) (limit : Rat) (steps : Nat) :
    Keeps (Private (Link.Elapses limit))
      (awaitReceipt id limit steps : ClientAction (Script Rat) Rat Unit) :=
  keeps_awaitReceipt_of keeps_receive (elapses_waitForData limit _) steps

theorem elapses_awaitConnected (limit : Rat) (late : Error Rat) (steps : Nat) :
    Keeps (Private (Link.Elapses limit))
      (awaitConnected limit late steps : ClientAction (Script Rat) Rat Frame) :=
  keeps_awaitConnected_of keeps_receive (elapses_waitForData limit late) steps

/-! ## Calls -/

/-- From one transport to a later one the channel was used till the limit at most. -/
structure Uses (limit : Rat) (t u : Transport (Script Rat) Rat) : Prop where
  journal : t.link.Proceeds u.link
  clock : t.link.Elapses limit u.link

theorem Uses.trans {limit : Rat} {t u v : Transport (Script Rat) Rat} (htu : Uses limit t u)
    (huv : Uses limit u v) : Uses limit t v where
  journal := Progress.trans htu.journal huv.journal
  clock := Progress.trans htu.clock huv.clock

theorem Uses.of_eq {limit : Rat} {t u : Transport (Script Rat) Rat}
    (hchannel : u.link.channel = t.link.channel) (hjournal : u.link.journal = t.link.journal) :
    Uses limit t u where
  journal := ⟨[], by simp [hjournal], fun _ ht => nomatch ht⟩
  clock := by
    unfold Link.Elapses
    rw [hchannel]
    exact Progress.refl t.link.channel

theorem Uses.now_eq {t u : Transport (Script Rat) Rat} (h : Uses t.now t u)
    (hstep : t.link.channel.step = 0) : u.link.channel.step = 0 ∧ u.now = t.now := by
  obtain ⟨hu, hle, hmax⟩ := h.clock hstep
  rw [max_eq_left (by exact le_refl _)] at hmax
  exact ⟨hu, le_antisymm hmax hle⟩

theorem Uses.mono {t u : Transport (Script Rat) Rat} (h : Uses t.now t u)
    (hstep : t.link.channel.step = 0) (limit : Rat) : Uses limit t u where
  journal := h.journal
  clock _ := by
    obtain ⟨hu, hnow⟩ := h.now_eq hstep
    have hclock : u.link.channel.clock = t.link.channel.clock := hnow
    rw [hclock]
    exact ⟨hu, le_refl _, le_max_left _ _⟩

/-- How a call fails that was given time till the limit. -/
def FailsBy (limit : Rat) (e : Error Rat) (t : Transport (Script Rat) Rat) : Prop :=
  e ≠ .stalled ∧ (e.isTimeout = true → limit ≤ t.now)

theorem FailsBy.of_isWriting {limit : Rat} {e : Error Rat} (he : e.isWriting = true)
    (t : Transport (Script Rat) Rat) : FailsBy limit e t := by
  cases e
  case connection fault => exact ⟨nofun, nofun⟩
  case unwritable x => exact ⟨nofun, nofun⟩
  all_goals cases he

theorem FailsBy.of_ends {limit : Rat} {e : Error Rat} {t : Transport (Script Rat) Rat}
    (h : e.Ends limit t) : FailsBy limit e t := by
  refine ⟨h.ne_stalled, fun he => ?_⟩
  have hlate : limit - t.now ≤ 0 := of_decide_eq_true (h.late he)
  linarith

/-- How a call of `c` went that was given so much time. -/
structure Timely (time : Rat) (c : Client (Script Rat) Rat) (result : Except (Error Rat) Unit)
    (d : Client (Script Rat) Rat) : Prop where
  /-- It came to an end. -/
  ends : ∀ e, result = .error e → e ≠ .stalled
  /-- It waited for times that were limited and still to come. -/
  waits : ∃ more, d.transport.link.journal = c.transport.link.journal ++ more ∧
    ∀ timeout, .canRead timeout ∈ more → ∃ x, timeout = some (.real x) ∧ 0 < x
  clock : d.transport.now ≤ c.transport.now + max 0 time
  late : ∀ e, result = .error e → e.isTimeout = true → c.transport.now + time ≤ d.transport.now

section Timely

variable {time : Rat} {c d : Client (Script Rat) Rat}

theorem Timely.of_uses {result : Except (Error Rat) Unit}
    (hstep : c.transport.link.channel.step = 0)
    (huses : Uses (c.transport.now + time) c.transport d.transport)
    (hfails : ∀ e, result = .error e → FailsBy (c.transport.now + time) e d.transport) :
    Timely time c result d where
  ends e he := (hfails e he).1
  waits := by
    obtain ⟨more, hjournal, hopen⟩ := huses.journal
    refine ⟨more, hjournal, fun timeout htimeout => ?_⟩
    obtain ⟨x, rfl, hx⟩ := hopen _ htimeout
    have hpos : ¬ x ≤ 0 := of_decide_eq_false hx
    exact ⟨x, rfl, not_le.1 hpos⟩
  clock := by
    have hmax := (huses.clock hstep).2.2
    calc d.transport.now
        ≤ max c.transport.now (c.transport.now + time) := hmax
      _ = c.transport.now + max 0 time := by rw [← max_add_add_left, add_zero]
  late e he := (hfails e he).2

end Timely

variable {c : Client (Script Rat) Rat} (hc : c.transport.Unwatched)
  (hstep : c.transport.link.channel.step = 0)

include hc hstep

theorem uses_awaitConnected (limit : Rat) (timeout : Quantity Rat) :
    Outcome (fun f d => f.command = Verb.connected ∧
        ∃ t, Uses limit c.transport t ∧ d = { c with transport := t })
      (fun e d => ∃ t, (Uses limit c.transport t ∧ FailsBy limit e t) ∧
        d = { c with transport := t })
      ((awaitConnected limit (.connectTimeout timeout) c.waitSteps :
        ClientAction (Script Rat) Rat Frame) c) := by
  have hgreeting := ends_awaitConnected Script.orderly hc hstep.ge limit timeout
  have hjournal := proceeds_awaitConnected limit (.connectTimeout timeout) c.waitSteps c
  have hclock := elapses_awaitConnected limit (.connectTimeout timeout) c.waitSteps c
  refine (hgreeting.and (hjournal.and hclock)).mono ?_ ?_
  · rintro f d ⟨⟨hf, t, -, rfl⟩, hj, ht⟩
    exact ⟨hf, t, ⟨(hj hc).2, (ht hc).2⟩, rfl⟩
  · rintro e d ⟨⟨t, he, rfl⟩, hj, ht⟩
    exact ⟨t, ⟨⟨(hj hc).2, (ht hc).2⟩, .of_ends he⟩, rfl⟩

theorem uses_awaitReceipt (id : String) (limit : Rat) :
    Outcome (fun _ d => Uses limit c.transport d.transport)
      (fun e d => Uses limit c.transport d.transport ∧ FailsBy limit e d.transport)
      ((awaitReceipt id limit c.waitSteps : ClientAction (Script Rat) Rat Unit) c) := by
  have hvigil := ends_awaitReceipt Script.metered hc hstep.ge id limit
  have hjournal := proceeds_awaitReceipt id limit c.waitSteps c
  have hclock := elapses_awaitReceipt id limit c.waitSteps c
  refine (hvigil.and (hjournal.and hclock)).mono ?_ ?_
  · rintro - d ⟨-, hj, ht⟩
    exact ⟨(hj hc).2, (ht hc).2⟩
  · rintro e d ⟨he, hj, ht⟩
    exact ⟨⟨(hj hc).2, (ht hc).2⟩, .of_ends he⟩

omit hstep in
theorem uses_writeFrame (f : Frame) :
    Outcome (fun _ q => c.Quiet q.2 ∧ Uses c.transport.now c.transport q.2.transport)
      (fun e q => e.Withholds f ∧ Uses c.transport.now c.transport q.2.transport)
      ((writeFrame : InHand (Error Rat) (Client (Script Rat) Rat) Unit) (f, c)) := by
  have hjournal := keeps_write (q := Link.Proceeds) (f, c)
  have hclock := keeps_write (q := Link.Elapses c.transport.now) (f, c)
  refine ((quiet_writeFrame hc f).and (hjournal.and hclock)).mono ?_ ?_
  · rintro - q ⟨hquiet, hj, ht⟩
    exact ⟨hquiet, (hj hc).2, (ht hc).2⟩
  · rintro e q ⟨he, hj, ht⟩
    exact ⟨he.1, (hj hc).2, (ht hc).2⟩

theorem timely_sendFrame (f : Frame) (sync? : Option Bool) :
    let limit := c.transport.now + c.config.receiptTimeout.amount
    Outcome (fun _ q => Uses limit c.transport q.2.transport)
      (fun e q => Uses limit c.transport q.2.transport ∧ FailsBy limit e q.2.transport)
      ((sendFrame sync? : InHand (Error Rat) (Client (Script Rat) Rat) Unit) (f, c)) := by
  intro limit
  have hunconnected : Uses limit c.transport c.transport ∧
      FailsBy limit (.connection .notConnected) c.transport :=
    ⟨.of_eq rfl rfl, .of_isWriting rfl _⟩
  cases hsync : sync?.getD c.config.sync with
  | false =>
      apply outcome_sendFrame_of_plain (fun _ d => Uses limit c.transport d.transport)
        (fun e d => Uses limit c.transport d.transport ∧ FailsBy limit e d.transport) hsync
        hunconnected
      exact (uses_writeFrame hc f).mono (fun _ _ h => h.2.mono hstep limit)
        (fun _ _ h => ⟨h.2.mono hstep limit, .of_isWriting h.1.isWriting _⟩)
  | true =>
      apply outcome_sendFrame_of_write (fun _ d => Uses limit c.transport d.transport)
        (fun e d => Uses limit c.transport d.transport ∧ FailsBy limit e d.transport)
        (fun d => d.transport.Unwatched ∧ Uses c.transport.now c.transport d.transport) hsync
        hunconnected
      · have hwrite := uses_writeFrame (c := { c with ids := c.ids.next.2 }) hc
          (f.set Name.receipt (.text c.ids.next.1))
        exact hwrite.mono (fun _ _ h => ⟨hc.of_eq h.1.transport.observers, h.2⟩)
          (fun _ _ h => ⟨h.2.mono hstep limit, .of_isWriting h.1.isWriting _⟩)
      · intro d _ hnone
        rw [Quantity.toScale?_eq] at hnone
        cases hnone
      · rintro d time ⟨hd, huses⟩ htime
        rw [Quantity.toScale?_eq] at htime
        obtain rfl := Option.some.inj htime
        obtain ⟨hdstep, hnow⟩ := huses.now_eq hstep
        have hsofar := huses.mono hstep limit
        rw [hnow]
        exact (uses_awaitReceipt hd hdstep c.ids.next.1 limit).mono
          (fun _ _ h => hsofar.trans h) (fun _ _ h => ⟨hsofar.trans h.1, h.2⟩)

omit hstep in
theorem uses_introduction (f : Frame) :
    Outcome (fun _ q => q.2.Unwatched ∧ Uses c.transport.now c.transport q.2)
      (fun e q => e.Withholds f ∧ q.2.Unwatched ∧ Uses c.transport.now c.transport q.2)
      ((Transport.writeFrame : InHand (Error Rat) (Transport (Script Rat) Rat) Unit)
        (f, c.greeting)) := by
  have hwatch : Transport.Unwatched c.greeting := hc
  have hjournal := Transport.keeps_writeFrame (q := Link.Proceeds) (f, c.greeting)
  have hclock := Transport.keeps_writeFrame (q := Link.Elapses c.transport.now) (f, c.greeting)
  refine ((Transport.brings_writeFrame hwatch f).and (hjournal.and hclock)).mono ?_ ?_
  · rintro - q ⟨hbrings, hj, ht⟩
    exact ⟨hwatch.of_eq hbrings.observers, (hj hwatch).2, (ht hwatch).2⟩
  · rintro e q ⟨⟨he, hbrings⟩, hj, ht⟩
    exact ⟨he, hwatch.of_eq hbrings.observers, (hj hwatch).2, (ht hwatch).2⟩

theorem timely_connect :
    let limit := c.transport.now + c.config.connectTimeout.amount
    Outcome (fun _ d => Uses limit c.transport d.transport)
      (fun e d => Uses limit c.transport d.transport ∧ FailsBy limit e d.transport)
      ((connect : ClientAction (Script Rat) Rat Unit) c) := by
  intro limit
  cases hprotocol : c.protocol? with
  | some p =>
      unfold connect
      rw [get_bind]
      dsimp only
      rw [if_pos (by rw [hprotocol]; rfl)]
      exact ⟨.of_eq rfl rfl, nofun, nofun⟩
  | none =>
      have hwait : ∀ (t : Transport (Script Rat) Rat) (time : Rat),
          (t.Unwatched ∧ Uses c.transport.now c.transport t) →
          c.config.connectTimeout.toScale? = some time →
          Outcome (fun f d => f.command = Verb.connected ∧
              ∃ u, Uses limit c.transport u ∧ d = { c with transport := u })
            (fun e d => ∃ u, (Uses limit c.transport u ∧ FailsBy limit e u) ∧
              d = { c with transport := u })
            ((awaitConnected (t.now + time) (.connectTimeout c.config.connectTimeout)
              ({ c with transport := t } : Client (Script Rat) Rat).waitSteps :
                ClientAction (Script Rat) Rat Frame) { c with transport := t }) := by
        rintro t time ⟨ht, huses⟩ htime
        rw [Quantity.toScale?_eq] at htime
        obtain rfl := Option.some.inj htime
        obtain ⟨htstep, hnow⟩ := huses.now_eq hstep
        have hsofar := huses.mono hstep limit
        rw [hnow]
        refine (uses_awaitConnected (c := { c with transport := t }) ht htstep limit _).mono ?_ ?_
        · rintro f d ⟨hf, u, hu, rfl⟩
          exact ⟨hf, u, hsofar.trans hu, rfl⟩
        · rintro e d ⟨u, ⟨hu, he⟩, rfl⟩
          exact ⟨u, ⟨hsofar.trans hu, he⟩, rfl⟩
      refine (outcome_connect hprotocol (fun f _ => uses_introduction hc f) hwait).mono ?_ ?_
      · rintro - d ⟨f, t, p, u, huses, -, -, htuned, rfl⟩
        exact huses.trans (.of_eq htuned.channel htuned.journal)
      · intro e d hrefused
        cases hrefused with
        | offer _ => exact ⟨.of_eq rfl rfl, nofun, nofun⟩
        | unsent _ he hsent => exact ⟨hsent.2.mono hstep limit, .of_isWriting he.isWriting _⟩
        | timeout _ hsent => exact ⟨hsent.2.mono hstep limit, nofun, nofun⟩
        | wait hfailed => exact hfailed
        | answer _ huses _ => exact ⟨huses, nofun, nofun⟩
        | banner huses _ _ htuned =>
            exact ⟨huses.trans (.of_eq htuned.channel htuned.journal), nofun, nofun⟩

/-- A client that nobody watches, over a script that is read in no time, waits only as long as it
may, when it connects and when it sends a frame, and none of its waits is cut short. -/
theorem timely_call :
    Timely c.config.connectTimeout.amount c
        (result (connect : ClientAction (Script Rat) Rat Unit) c)
        (after (connect : ClientAction (Script Rat) Rat Unit) c) ∧
      (∀ (f : Frame) (sync? : Option Bool),
        let send : ClientAction (Script Rat) Rat Unit := withFrame f (sendFrame sync?)
        Timely c.config.receiptTimeout.amount c (result send c) (after send c)) ∧
      c.Uncut := by
  refine ⟨?_, ?_, uncut_of_metered hc ⟨_, Script.metered, hstep.ge⟩⟩
  · apply outcome_result (P := Timely c.config.connectTimeout.amount c)
    exact (timely_connect hc hstep).mono (fun _ _ h => .of_uses hstep h nofun)
      fun e _ h => .of_uses hstep h.1 fun e' he' => Except.error.inj he' ▸ h.2
  · intro f sync? send
    apply outcome_result (P := Timely c.config.receiptTimeout.amount c)
    apply Outcome.withFrame
    exact (timely_sendFrame hc hstep f sync?).mono (fun _ _ h => .of_uses hstep h nofun)
      fun e _ h => .of_uses hstep h.1 fun e' he' => Except.error.inj he' ▸ h.2

omit hc hstep

def forgotten : Client (Script Rat) Rat :=
  { hearing [Bytes.ofString "RECEIPT\nreceipt-id:"] with
    config := { connectTimeout := .whole 1, receiptTimeout := .real (3 / 2) } }

/-- The wait for a receipt takes all the time that it was given. -/
theorem timely_call_forgotten :
    (forgotten.transport.Unwatched ∧ forgotten.transport.link.channel.step = 0) ∧
    (Timely 1 forgotten (result (connect : ClientAction (Script Rat) Rat Unit) forgotten)
        (after (connect : ClientAction (Script Rat) Rat Unit) forgotten) ∧
      (∀ (f : Frame) (sync? : Option Bool),
        let send : ClientAction (Script Rat) Rat Unit := withFrame f (sendFrame sync?)
        Timely (3 / 2) forgotten (result send forgotten) (after send forgotten)) ∧
      forgotten.Uncut) ∧
    fails (fun e d => e.isTimeout && decide (d.transport.now = 3 / 2))
      (withFrame { command := "SEND" } (sendFrame (some true)) forgotten) = true := by
  have hc : forgotten.transport.Unwatched := rfl
  have hstep : forgotten.transport.link.channel.step = 0 := rfl
  have hcall := timely_call hc hstep
  refine ⟨⟨hc, hstep⟩, ⟨?_, hcall.2⟩, by decide +kernel⟩
  have hone : forgotten.config.connectTimeout.amount = 1 := by decide +kernel
  exact hone ▸ hcall.1

end Client

end Stomp
