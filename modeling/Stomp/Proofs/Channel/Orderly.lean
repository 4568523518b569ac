import Mathlib.Algebra.Order.Ring.Rat
import Mathlib.Tactic.Linarith
import Stomp.Proofs.Channel.Arrivals

/-!
# Channels that keep their promises

A patient channel has only so much to bring, as it says. A punctual one lets the time pass that one
waits in vain. A scripted channel is both, if its clock does not run backwards.
-/

namespace Stomp.Channel

open Stomp.Action

variable {κ R : Type} [Channel κ R]

/-- The next read that is made and asks for something brings the end nearer. -/
def Due (c : κ) : Prop :=
  ∀ {limit : Nat} {bytes : Bytes} {d : κ}, 0 < limit → Channel.read limit c = .ok bytes d →
    patience d < patience c

/-- What is used of the channel stays as it is supposed to be, and the bound for what is to come
holds: each read that brings something lowers it, as does one that one did not wait for in vain. -/
structure Patient (usable : κ → Prop) : Prop where
  read (limit : Nat) {c : κ} : usable c →
    Outcome (fun bytes d => usable d ∧ patience d ≤ patience c ∧
        (bytes ≠ [] → patience d < patience c))
      (fun _ d => usable d ∧ patience d ≤ patience c) (Channel.read limit c)
  canRead (timeout : Option (Quantity R)) {c : κ} : usable c →
    Outcome (fun ready d => usable d ∧ patience d ≤ patience c ∧ (ready = true → Due d))
      (fun _ d => usable d ∧ patience d ≤ patience c) (Channel.canRead timeout c)
  write (data : Bytes) {c : κ} : usable c →
    Leaves (fun d => usable d ∧ patience d ≤ patience c) (Channel.write data c)

namespace Patient

variable {usable : κ → Prop} {c d : κ} {limit : Nat} {data : Bytes} {chunks : List Bytes}

theorem of_served (h : Patient usable) (hc : usable c) (hserved : Served c data d) :
    usable d ∧ patience d ≤ patience c := by
  induction hserved with
  | refl c => exact ⟨hc, Nat.le_refl _⟩
  | @read limit c d e bytes more hread _ ih =>
      have houtcome := h.read limit hc
      rw [hread] at houtcome
      obtain ⟨he, hle⟩ := ih houtcome.1
      exact ⟨he, Nat.le_trans hle houtcome.2.1⟩
  | @readFailed limit text c d e more hread _ ih =>
      have houtcome := h.read limit hc
      rw [hread] at houtcome
      obtain ⟨he, hle⟩ := ih houtcome.1
      exact ⟨he, Nat.le_trans hle houtcome.2⟩
  | @canRead timeout c e more _ ih =>
      have hleft := leaves_iff.1 ((h.canRead timeout hc).mono
        (fun _ _ h => ⟨h.1, h.2.1⟩) (fun _ _ h => h))
      obtain ⟨he, hle⟩ := ih hleft.1
      exact ⟨he, Nat.le_trans hle hleft.2⟩
  | @write data c e more _ ih =>
      have hleft := leaves_iff.1 (h.write data hc)
      obtain ⟨he, hle⟩ := ih hleft.1
      exact ⟨he, Nat.le_trans hle hleft.2⟩

theorem length_add_le (h : Patient usable) (hc : usable c) (hpours : Pours limit c chunks d) :
    chunks.length + patience d ≤ patience c := by
  induction hpours with
  | nil c => exact Nat.le_of_eq (Nat.zero_add _)
  | @cons c d e bytes chunks hbrought hbytes _ ih =>
      have houtcome := h.read limit hc
      rw [hbrought.read] at houtcome
      have := ih houtcome.1
      have := houtcome.2.2 hbytes
      rw [List.length_cons]
      omega

end Patient

variable [Scale R]

def Late (deadline : R) (c : κ) : Prop := Scale.le (deadline - now c) Scale.zero = true

/-- Time goes on while one reads, and as long as one waits in vain. -/
structure Orderly (usable : κ → Prop) : Prop extends Patient usable where
  late_of_read {deadline : R} {limit : Nat} {bytes : Bytes} {c d : κ} : usable c →
    Late deadline c → Channel.read limit c = .ok bytes d → Late deadline d
  late_of_wait {deadline : R} {c d : κ} : usable c →
    Channel.canRead (some (.real (deadline - now c))) c = .ok false d → Late deadline d

theorem Orderly.late_of_pours {usable : κ → Prop} {deadline : R} {limit : Nat} {c d : κ}
    {chunks : List Bytes} (h : Orderly usable) (hc : usable c) (hlate : Late deadline c)
    (hpours : Pours limit c chunks d) : Late deadline d := by
  induction hpours with
  | nil c => exact hlate
  | cons hbrought _ _ ih =>
      have houtcome := h.read limit hc
      rw [hbrought.read] at houtcome
      exact ih houtcome.1 (h.late_of_read hc hlate hbrought.read)

/-- Each byte that is read lowers the bound, too. -/
structure Metered (usable : κ → Prop) : Prop extends Orderly usable where
  metered {limit : Nat} {bytes : Bytes} {c d : κ} : usable c →
    Channel.read limit c = .ok bytes d → patience d + bytes.length ≤ patience c

theorem Metered.length_flatten_le {usable : κ → Prop} {limit : Nat} {c d : κ} {chunks : List Bytes}
    (h : Metered usable) (hc : usable c) (hpours : Pours limit c chunks d) :
    patience d + chunks.flatten.length ≤ patience c := by
  induction hpours with
  | nil c => exact Nat.le_refl _
  | @cons c d e bytes chunks hbrought _ _ ih =>
      have houtcome := h.read limit hc
      rw [hbrought.read] at houtcome
      have := ih houtcome.1
      have := h.metered hc hbrought.read
      rw [List.flatten_cons, List.length_append]
      omega

/-- The channel is as it is supposed to be, and keeps its promises. -/
def IsOrderly (c : κ) : Prop := ∃ usable, Orderly usable ∧ usable c

def IsMetered (c : κ) : Prop := ∃ usable, Metered usable ∧ usable c

end Stomp.Channel

namespace Stomp.Script

open Stomp.Action

variable {R : Type} [Scale R]

theorem due_of_incoming {s : Script R} (h : s.incoming ≠ []) : Channel.Due s := by
  intro limit bytes t hlimit hread
  rcases (took_of_read hread).spent with hlt | ⟨-, -, hnil | hzero⟩
  · exact hlt
  · exact absurd hnil h
  · omega

theorem patient {usable : Script R → Prop}
    (h : ∀ {s t : Script R}, t.step = s.step → usable s → usable t) : Channel.Patient usable where
  read limit s hs := by
    cases hread : Channel.read limit s with
    | ok bytes t =>
        have htook := took_of_read hread
        refine ⟨h htook.step hs, ?_, fun hbytes => ?_⟩
        · rcases htook.spent with hlt | ⟨heq, -⟩
          · exact Nat.le_of_lt hlt
          · exact Nat.le_of_eq heq
        · rcases htook.spent with hlt | ⟨-, hnil, -⟩
          · exact hlt
          · exact absurd hnil hbytes
    | error text t =>
        have hfailed := plays_of_readFailed hread
        exact ⟨h hfailed.2.2 hs, hfailed.2.1⟩
  canRead timeout s hs := by
    refine (outcome_wait timeout s).mono ?_ ?_
    · rintro ready t ⟨-, hpatience, hstep, hready, -⟩
      exact ⟨h hstep hs, Nat.le_of_eq hpatience, fun h => due_of_incoming (hready h)⟩
    · rintro text t rfl
      exact ⟨hs, Nat.le_refl _⟩
  write data s hs := by
    refine (outcome_written data s).mono ?_
    rintro t rfl
    exact ⟨hs, Nat.le_refl _⟩

theorem orderly : Channel.Orderly fun s : Script Rat => 0 ≤ s.step where
  toPatient := patient fun hstep hs => by rw [hstep]; exact hs
  late_of_read {deadline limit bytes s t} hs hlate hread := by
    have hclock : t.clock = s.clock + s.step := (took_of_read hread).clock
    have hbefore : deadline - s.clock ≤ 0 := of_decide_eq_true hlate
    have hafter : deadline - t.clock ≤ 0 := by
      rw [hclock]
      linarith
    exact decide_eq_true hafter
  late_of_wait {deadline s t} hs hwait := by
    have houtcome := outcome_wait (some (.real (deadline - s.clock))) s
    have hwait : Channel.canRead (some (.real (deadline - s.clock))) s = .ok false t := hwait
    rw [hwait] at houtcome
    have hclock : t.clock = s.clock + (deadline - s.clock) := houtcome.2.2.2.2 rfl
    have hafter : deadline - t.clock ≤ 0 := by
      rw [hclock]
      linarith
    exact decide_eq_true hafter

theorem metered : Channel.Metered fun s : Script Rat => 0 ≤ s.step where
  toOrderly := orderly
  metered _ hread := (took_of_read hread).metered

end Stomp.Script
