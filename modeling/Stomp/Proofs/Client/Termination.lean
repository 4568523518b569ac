import Stomp.Proofs.Client.Greeting
import Stomp.Proofs.Client.Waiting

/-!
# Waits that come to an end

Each round of a wait uses up data that is there or to come, or brings the deadline nearer. So a
client does not run out of steps on a channel that keeps its promises, neither when it waits for the
answer of the broker (`greeting_waits`) nor when it waits for a receipt and queues the frames that
come before it (`receipt_waits`). On any other channel it may, and nothing else is different.
-/

namespace Stomp

open Stomp.Action

variable {κ R : Type}

namespace Error

/-- A map frame with an integer of too many digits. -/
def isOverlong : Error R → Bool
  | .malformed (.map (.json (.tooManyDigits _))) => true
  | _ => false

theorem not_isOperational_of_isOverlong {e : Error R} (h : e.isOverlong = true) :
    e.isOperational = false := by
  unfold isOverlong at h
  split at h
  · rfl
  · cases h

theorem exists_of_isOverlong {e : Error R} (h : e.isOverlong = true) :
    ∃ n, e = .malformed (.map (.json (.tooManyDigits n))) := by
  unfold isOverlong at h
  split at h
  · exact ⟨_, rfl⟩
  · cases h

theorem isOperational_of_isConnection {e : Error R} (h : e.isConnection = true) :
    e.isOperational = true := by
  cases e with
  | connection fault => rfl
  | _ => cases h

/-- Of the results of a parser, integers of too many digits alone are no errors of the protocol. -/
theorem isOperational_or_isOverlong {e : Error R} {result : Except Malformed Frame}
    (h : e.Reports result) : e.isOperational = true ∨ e.isOverlong = true := by
  cases h with
  | broker _ => exact Or.inl rfl
  | malformed fault =>
      cases fault with
      | headers fault => exact Or.inl rfl
      | map fault =>
          cases fault with
          | encoding fault => exact Or.inl rfl
          | json fault =>
              cases fault with
              | tooManyDigits n => exact Or.inr rfl
              | _ => exact Or.inl rfl

def isTimeout : Error R → Bool
  | .connectTimeout _ | .missingReceipt _ => true
  | _ => false

theorem not_isTimeout_of_isConnection {e : Error R} (h : e.isConnection = true) :
    e.isTimeout = false := by
  cases e with
  | connection fault => rfl
  | _ => cases h

theorem not_isTimeout_of_reports {e : Error R} {result : Except Malformed Frame}
    (h : e.Reports result) : e.isTimeout = false := by
  cases h with
  | broker _ => rfl
  | malformed fault => rfl

end Error

/-! ## What a round uses up -/

namespace Parser

variable {p q : Parser} {data : Bytes}

theorem Awaits.length_ready_le (h : p.Awaits data q) :
    q.ready.buffer.length ≤ p.ready.buffer.length + data.length := by
  calc q.ready.buffer.length
      = (p.ready.feed data).ready.buffer.length := by rw [h, ready_ready_feed]
    _ ≤ (p.ready.feed data).buffer.length := (p.ready.feed data).length_ready_le
    _ = p.ready.buffer.length + data.length := by rw [feed_buffer, List.length_append]

theorem length_ready_next_lt {result : Except Malformed Frame}
    (h : p.next.1.result? = some result) :
    p.next.2.ready.buffer.length < p.ready.buffer.length := by
  have hready : p.ready.next.1.result? = some result := by
    rw [result?_next, ready_ready, ← result?_next, h]
  have hnext : p.ready.next.2 = p.next.2 := by rw [snd_next, snd_next, ready_ready]
  have hlt := (next_of_some hready).2
  rw [hnext] at hlt
  exact p.next.2.length_ready_le.trans_lt hlt

end Parser

namespace Transport

variable [Channel κ R]

/-- What is there to be used up. A byte that is still to come counts twice, since it is used up when
it is read and when a frame is made of it. -/
def supply (t : Transport κ R) : Nat :=
  2 * Channel.patience t.link.channel + t.parser.ready.buffer.length

variable {t u : Transport κ R}

theorem Parsed.supply_lt {result : Except Malformed Frame}
    (hresult : t.parser.next.1.result? = some result) (htook : t.Took result u) :
    u.supply < t.supply := by
  have hparser := Parser.length_ready_next_lt hresult
  unfold supply
  rw [htook.channel, htook.parser]
  omega

theorem Brings.supply_le {data : Bytes} (hu : t.Brings data u)
    (hle : Channel.patience u.link.channel ≤ Channel.patience t.link.channel) :
    u.supply ≤ t.supply := by
  unfold supply
  rw [hu.parser]
  omega

theorem supply_le (t : Transport κ R) :
    t.supply ≤ 2 * Channel.patience t.link.channel + t.parser.buffer.length := by
  have := t.parser.length_ready_le
  unfold supply
  omega

variable [Scale R] {usable : κ → Prop}

theorem Filled.supply_le (h : Channel.Metered usable) (ht : usable t.link.channel)
    {chunks : List Bytes} (hfilled : t.Filled chunks u) :
    u.supply + chunks.flatten.length ≤ t.supply := by
  have hchannel := h.length_flatten_le ht hfilled.channel
  have hparser := hfilled.parser.length_ready_le
  unfold supply
  omega

end Transport

/-! ## How a wait may fail -/

/-- The wait comes to an end with an error of the protocol or the connection, or with one about an
integer of too many digits; and for lack of time only when the deadline has come. -/
structure Error.Ends [Channel κ R] [Scale R] (limit : R) (e : Error R) (t : Transport κ R) :
    Prop where
  fault : e.isOperational = true ∨ e.isOverlong = true
  late : e.isTimeout = true → Channel.Late limit t.link.channel

namespace Error.Ends

variable [Channel κ R] [Scale R] {limit : R} {e : Error R} {t : Transport κ R}

theorem ne_stalled (h : e.Ends limit t) : e ≠ .stalled := by
  rintro rfl
  exact h.fault.elim Bool.false_ne_true Bool.false_ne_true

theorem of_isOperational (he : e.isOperational = true) (hlate : e.isTimeout = false) :
    e.Ends limit t :=
  ⟨Or.inl he, fun h => absurd (hlate.symm.trans h) Bool.false_ne_true⟩

theorem of_isConnection (he : e.isConnection = true) : e.Ends limit t :=
  of_isOperational (isOperational_of_isConnection he) (not_isTimeout_of_isConnection he)

theorem of_reports {result : Except Malformed Frame} (he : e.Reports result) :
    e.Ends limit t where
  fault := isOperational_or_isOverlong he
  late h := absurd ((not_isTimeout_of_reports he).symm.trans h) Bool.false_ne_true

end Error.Ends

namespace Transport.Search

variable [Channel κ R] [Scale R] {usable : κ → Prop} {limit : R} {steps : Nat} {e : Error R}
  {t u : Transport κ R}

theorem ends_or_stalled (hsearch : t.Search steps (.error e) u) :
    e.Ends limit u ∨ e = .stalled := by
  cases hsearch with
  | reported _ _ hreports _ => exact Or.inl (.of_reports hreports)
  | unread _ he _ _ => exact Or.inl (.of_isConnection he)
  | stalled _ _ => exact Or.inr rfl

theorem ends (h : Channel.Patient usable) (ht : usable t.link.channel)
    (hsearch : t.Search (Channel.patience t.link.channel + 2) (.error e) u) : e.Ends limit u := by
  refine hsearch.ends_or_stalled.resolve_right ?_
  rintro rfl
  cases hsearch with
  | reported _ _ hreports _ => cases hreports
  | unread _ he _ _ => cases he
  | stalled hfilled hsteps =>
      have := h.length_add_le ht hfilled.channel
      omega

end Transport.Search

namespace Client

variable [Channel κ R] [Scale R]

/-- There are steps left for the wait, of which each makes the measure smaller or brings the
deadline. -/
structure Waits (usable : κ → Prop) (measure : Transport κ R → Nat) (limit : R) (steps : Nat)
    (t : Transport κ R) : Prop where
  unwatched : t.Unwatched
  usable : usable t.link.channel
  steps : Channel.Late limit t.link.channel ∧ 1 ≤ steps ∨
    Channel.Due t.link.channel ∧ measure t + 1 ≤ steps ∨ measure t + 2 ≤ steps

/-- The same after an attempt that did not end the wait. -/
structure Lingers (usable : κ → Prop) (measure : Transport κ R → Nat) (limit : R) (steps : Nat)
    (t : Transport κ R) : Prop where
  unwatched : t.Unwatched
  usable : usable t.link.channel
  steps : Channel.Late limit t.link.channel ∨ measure t + 1 ≤ steps

variable {usable : κ → Prop} {measure : Transport κ R → Nat} {limit : R} {steps searches : Nat}
  {t u : Transport κ R}

theorem Waits.lingers (ht : Waits usable measure limit (steps + 1) t) (hwatch : u.Unwatched)
    (husable : usable u.link.channel)
    (hlate : Channel.Late limit t.link.channel → Channel.Late limit u.link.channel)
    (hle : measure u ≤ measure t) (hdue : Channel.Due t.link.channel → measure u < measure t) :
    Lingers usable measure limit steps u := by
  refine ⟨hwatch, husable, ?_⟩
  rcases ht.steps with ⟨h, -⟩ | ⟨h, hsteps⟩ | hsteps
  · exact Or.inl (hlate h)
  · have := hdue h
    exact Or.inr (by omega)
  · exact Or.inr (by omega)

theorem Lingers.waits (h : Channel.Orderly usable) (ht : Lingers usable measure limit steps t)
    (hearly : ¬ Channel.Late limit t.link.channel) {ready : Bool}
    (hwait : Channel.canRead (some (.real (limit - Channel.now t.link.channel))) t.link.channel =
      .ok ready u.link.channel) (hu : t.Brings [] u) (hle : measure u ≤ measure t) :
    Waits usable measure limit steps u := by
  have houtcome := h.canRead (some (.real (limit - Channel.now t.link.channel))) ht.usable
  rw [hwait] at houtcome
  obtain ⟨husable, -, hdue⟩ := houtcome
  have hsteps : measure t + 1 ≤ steps := ht.steps.resolve_left hearly
  refine ⟨ht.unwatched.of_eq hu.observers, husable, ?_⟩
  cases ready with
  | true => exact Or.inr (Or.inl ⟨hdue rfl, by omega⟩)
  | false => exact Or.inl ⟨h.late_of_wait ht.usable hwait, by omega⟩

theorem waits_of_waitSteps {c : Client κ R} (hc : c.transport.Unwatched)
    (husable : usable c.transport.link.channel)
    (hmeasure : measure c.transport ≤
      2 * Channel.patience c.transport.link.channel + c.transport.parser.buffer.length) :
    Waits usable measure limit c.waitSteps c.transport := by
  refine ⟨hc, husable, Or.inr (Or.inr ?_)⟩
  unfold waitSteps
  omega

theorem usable_of_nothing (h : Channel.Orderly usable) (ht : usable t.link.channel)
    (hsearch : t.Search searches (.ok none) u) :
    usable u.link.channel ∧ Channel.patience u.link.channel ≤ Channel.patience t.link.channel ∧
      (Channel.Due t.link.channel →
        Channel.patience u.link.channel < Channel.patience t.link.channel) ∧
      (Channel.Late limit t.link.channel → Channel.Late limit u.link.channel) := by
  cases hsearch with
  | @nothing chunks v _ hfilled _ hbrought hu =>
      have hcount := h.length_add_le ht hfilled.channel
      have hv := h.of_served ht hfilled.channel.served
      have hleft := h.of_served hv.1 hbrought.served
      refine ⟨hleft.1, hleft.2.trans hv.2, ?_, ?_⟩
      · -- The first read used something up, whether it brought something or not.
        intro hdue
        cases chunks with
        | nil =>
            have hsame := hfilled.channel.eq_of_nil
            exact hdue (by decide) (hsame ▸ hbrought.read)
        | cons bytes chunks =>
            rw [List.length_cons] at hcount
            omega
      · intro hlate
        have hlate' := h.late_of_pours ht hlate hfilled.channel
        exact h.late_of_read hv.1 hlate' hbrought.read

/-! ## Waiting for the answer -/

theorem greeting_waits (h : Channel.Orderly usable) (limit : R) (timeout : Quantity R) :
    Greeting limit (.connectTimeout timeout)
      (Waits usable (fun t => Channel.patience t.link.channel) limit)
      (Lingers usable (fun t => Channel.patience t.link.channel) limit)
      (fun _ _ => True) (Error.Ends limit) where
  unwatched ht := ht.unwatched
  stalled ht := by
    rcases ht.steps with ⟨-, h⟩ | ⟨-, h⟩ | h <;> omega
  connected _ _ _ := trivial
  unexpected _ _ := .of_isOperational rfl rfl
  nothing ht hsearch := by
    obtain ⟨husable, hle, hdue, hlate⟩ := usable_of_nothing h ht.usable hsearch
    exact ht.lingers (ht.unwatched.of_eq hsearch.delivers.advance.observers) husable hlate hle hdue
  fails ht hsearch := hsearch.ends h.toPatient ht.usable
  tooLate _ hlate := ⟨Or.inl rfl, fun _ => hlate⟩
  waited ht hearly hwait hu :=
    ht.waits h hearly hwait hu (h.of_served ht.usable hu.link.channel).2
  cut _ he _ := .of_isConnection he

theorem ends_awaitConnected (h : Channel.Orderly usable) {c : Client κ R}
    (hc : c.transport.Unwatched) (husable : usable c.transport.link.channel) (limit : R)
    (timeout : Quantity R) :
    Outcome (fun f d => f.command = Verb.connected ∧ ∃ t, True ∧ d = { c with transport := t })
      (fun e d => ∃ t, e.Ends limit t ∧ d = { c with transport := t })
      ((awaitConnected limit (.connectTimeout timeout) c.waitSteps :
        ClientAction κ R Frame) c) := by
  apply (greeting_waits h limit timeout).outcome
  apply waits_of_waitSteps hc husable
  omega

theorem greeting_stalls (limit : R) (timeout : Quantity R) :
    Greeting limit (.connectTimeout timeout) (fun _ (t : Transport κ R) => t.Unwatched)
      (fun _ t => t.Unwatched) (fun _ _ => True) (fun e t => e.Ends limit t ∨ e = .stalled) where
  unwatched ht := ht
  stalled _ := Or.inr rfl
  connected _ _ _ := trivial
  unexpected _ _ := Or.inl (.of_isOperational rfl rfl)
  nothing ht hsearch := ht.of_eq hsearch.delivers.advance.observers
  fails _ hsearch := hsearch.ends_or_stalled
  tooLate _ hlate := Or.inl ⟨Or.inl rfl, fun _ => hlate⟩
  waited ht _ _ hu := ht.of_eq hu.observers
  cut _ he _ := Or.inl (.of_isConnection he)

/-! ## Waiting for a receipt -/

theorem lingers_of_other (h : Channel.Metered usable)
    (ht : Waits usable Transport.supply limit (steps + 1) t) {f : Frame}
    (hsearch : t.Search searches (.ok (some f)) u) :
    Lingers usable Transport.supply limit steps u := by
  have hwatch := ht.unwatched.of_eq hsearch.delivers.advance.observers
  cases hsearch with
  | @found chunks _ v _ hfilled hresult _ htook =>
      have hv := h.of_served ht.usable hfilled.channel.served
      have hle := hfilled.supply_le h ht.usable
      have hlt := htook.supply_lt hresult
      have hchannel := htook.channel
      refine ht.lingers hwatch (hchannel ▸ hv.1) ?_ (by omega) (fun _ => by omega)
      rw [hchannel]
      exact fun hlate => h.late_of_pours ht.usable hlate hfilled.channel

theorem lingers_of_nothing (h : Channel.Metered usable)
    (ht : Waits usable Transport.supply limit (steps + 1) t)
    (hsearch : t.Search searches (.ok none) u) :
    Lingers usable Transport.supply limit steps u := by
  have hwatch := ht.unwatched.of_eq hsearch.delivers.advance.observers
  obtain ⟨husable, -, hdue, hlate⟩ := usable_of_nothing h.toOrderly ht.usable hsearch
  cases hsearch with
  | @nothing chunks v _ hfilled _ hbrought hu =>
      have hv := h.of_served ht.usable hfilled.channel.served
      have hleft := h.of_served hv.1 hbrought.served
      have hle := hfilled.supply_le h ht.usable
      have hsupply := hu.supply_le hleft.2
      refine ht.lingers hwatch husable hlate (by omega) fun hd => ?_
      -- What was read is used up already; if nothing was, the channel has less to come.
      have := hdue hd
      have hparser := hfilled.parser.length_ready_le
      have hcount := h.length_flatten_le ht.usable hfilled.channel
      unfold Transport.supply
      rw [hu.parser]
      omega

theorem receipt_waits (h : Channel.Metered usable) (id : String) (limit : R) :
    Vigil id limit (fun n c => Waits usable Transport.supply limit n c.transport)
      (fun n c => Lingers usable Transport.supply limit n c.transport) (fun _ _ => True)
      (fun e c => e.Ends limit c.transport) where
  unwatched hc := hc.unwatched
  stalled hc := by
    rcases hc.steps with ⟨-, h⟩ | ⟨-, h⟩ | h <;> omega
  receipt _ _ _ _ := trivial
  unexpected _ _ _ _ := .of_isOperational rfl rfl
  other hc hsearch _ := lingers_of_other h hc hsearch
  nothing hc hsearch := lingers_of_nothing h hc hsearch
  fails hc hsearch := hsearch.ends h.toPatient hc.usable
  tooLate _ hlate := ⟨Or.inl rfl, fun _ => hlate⟩
  waited hc hearly hwait ht :=
    hc.waits h.toOrderly hearly hwait ht
      (ht.supply_le (h.of_served hc.usable ht.link.channel).2)
  cut _ he _ := .of_isConnection he

theorem ends_awaitReceipt (h : Channel.Metered usable) {c : Client κ R}
    (hc : c.transport.Unwatched) (husable : usable c.transport.link.channel) (id : String)
    (limit : R) :
    Outcome (fun _ _ => True) (fun e d => e.Ends limit d.transport)
      ((awaitReceipt id limit c.waitSteps : ClientAction κ R Unit) c) := by
  apply (receipt_waits h id limit).outcome
  exact waits_of_waitSteps hc husable c.transport.supply_le

theorem receipt_stalls (id : String) (limit : R) :
    Vigil id limit (fun _ (c : Client κ R) => c.transport.Unwatched)
      (fun _ c => c.transport.Unwatched) (fun _ _ => True)
      (fun e c => e.Ends limit c.transport ∨ e = .stalled) where
  unwatched hc := hc
  stalled _ := Or.inr rfl
  receipt _ _ _ _ := trivial
  unexpected _ _ _ _ := Or.inl (.of_isOperational rfl rfl)
  other hc hsearch _ := hc.of_eq hsearch.delivers.advance.observers
  nothing hc hsearch := hc.of_eq hsearch.delivers.advance.observers
  fails _ hsearch := hsearch.ends_or_stalled
  tooLate _ hlate := Or.inl ⟨Or.inl rfl, fun _ => hlate⟩
  waited hc _ _ ht := hc.of_eq ht.observers
  cut _ he _ := Or.inl (.of_isConnection he)

end Client

end Stomp
