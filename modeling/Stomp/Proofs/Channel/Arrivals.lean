import Stomp.Channel.Script
import Stomp.Proofs.Channel.Served

/-!
# Scripts that play

What reads bring of a script, and what is left of it. The reads bring its bytes in order
(`plays_of_served`). If there is data alone, none of them fails that can be made
(`Streams.not_unread`), and the first that brings nothing is at the end (`Took.ends`).
-/

namespace Stomp.Script

open Stomp.Action

variable {R α : Type}

/-! ## Guarded operations -/

theorem of_guarded_ok {op : Operation} {x : EStateM String (Script R) α} {s t : Script R} {a : α}
    (h : guarded op x s = .ok a t) :
    s.failures.find? (fun f => f.1 == op) = none ∧ x s = .ok a t := by
  unfold guarded at h
  cases hfind : s.failures.find? (fun f => f.1 == op) with
  | some f =>
      rw [hfind] at h
      cases h
  | none =>
      rw [hfind] at h
      exact ⟨rfl, h⟩

theorem outcome_guarded {op : Operation} {x : EStateM String (Script R) α} {s : Script R}
    {ok : α → Script R → Prop} {failed : String → Script R → Prop} (hs : ∀ text, failed text s)
    (hx : Outcome ok failed (x s)) : Outcome ok failed (guarded op x s) := by
  unfold guarded
  split
  · exact hs _
  · exact hx

/-! ## What is left -/

def remaining (s : Script R) : Bytes :=
  s.incoming.flatMap fun
    | .data bytes => bytes
    | .failure _ => []

/-- What is still to come is data, and something each time. -/
def Streams (s : Script R) : Prop := ∀ a ∈ s.incoming, ∃ bytes, a = .data bytes ∧ bytes ≠ []

structure Plays (s : Script R) (data : Bytes) (t : Script R) : Prop where
  remaining : s.remaining = data ++ t.remaining
  streams : s.Streams → t.Streams
  connected : t.connected = s.connected
  failures : t.failures = s.failures

namespace Plays

variable {s t u : Script R} {data more : Bytes}

theorem of_incoming (hincoming : t.incoming = s.incoming) (hconnected : t.connected = s.connected)
    (hfailures : t.failures = s.failures) : s.Plays [] t where
  remaining := by rw [Script.remaining, Script.remaining, hincoming, List.nil_append]
  streams := fun h a ha => h a (hincoming ▸ ha)
  connected := hconnected
  failures := hfailures

theorem refl (s : Script R) : s.Plays [] s := of_incoming rfl rfl rfl

theorem trans (hst : s.Plays data t) (htu : t.Plays more u) : s.Plays (data ++ more) u where
  remaining := by rw [hst.remaining, htu.remaining, List.append_assoc]
  streams := htu.streams ∘ hst.streams
  connected := htu.connected.trans hst.connected
  failures := htu.failures.trans hst.failures

end Plays

structure Readable (s : Script R) : Prop where
  connected : s.connected = true
  unfailing : s.failures.find? (fun f => f.1 == .read) = none

theorem Plays.readable_iff {s t : Script R} {data : Bytes} (h : s.Plays data t) :
    t.Readable ↔ s.Readable := by
  constructor
  · exact fun ht => ⟨h.connected ▸ ht.connected, h.failures ▸ ht.unfailing⟩
  · exact fun hs => ⟨h.connected ▸ hs.connected, h.failures ▸ hs.unfailing⟩

/-! ## What a read takes -/

section Arrival

variable {s t : Script R} {bytes more : Bytes} {text : String} {rest : List Arrival}

theorem not_streams_of_failure (h : s.incoming = .failure text :: rest) : ¬ s.Streams := by
  intro hs
  obtain ⟨bytes, hdata, -⟩ := hs (.failure text) (by simp [h])
  cases hdata

theorem patience_lt_of_failure (h : s.incoming = .failure text :: rest) (ht : t.incoming = rest) :
    t.patience < s.patience := by
  rw [patience, patience, h, ht, List.foldr_cons]
  exact Nat.lt_add_of_pos_left Nat.one_pos

theorem patience_of_data (h : s.incoming = .data bytes :: rest) (ht : t.incoming = rest) :
    t.patience + bytes.length < s.patience := by
  rw [patience, patience, h, ht, List.foldr_cons]
  dsimp only
  omega

theorem patience_of_part (h : s.incoming = .data (bytes ++ more) :: rest)
    (ht : t.incoming = .data more :: rest) : t.patience + bytes.length = s.patience := by
  rw [patience, patience, h, ht, List.foldr_cons, List.foldr_cons]
  dsimp only
  rw [List.length_append]
  omega

variable (hconnected : t.connected = s.connected) (hfailures : t.failures = s.failures)

include hconnected hfailures

theorem plays_of_failure (h : s.incoming = .failure text :: rest) (ht : t.incoming = rest) :
    s.Plays [] t where
  remaining := by
    rw [remaining, remaining, h, ht]
    rfl
  streams := fun hs => absurd hs (not_streams_of_failure h)
  connected := hconnected
  failures := hfailures

theorem plays_of_data (h : s.incoming = .data bytes :: rest) (ht : t.incoming = rest) :
    s.Plays bytes t where
  remaining := by rw [remaining, remaining, h, ht, List.flatMap_cons]
  streams := fun hs a ha => hs a (by rw [h, ← ht]; exact List.mem_cons_of_mem _ ha)
  connected := hconnected
  failures := hfailures

theorem plays_of_part (h : s.incoming = .data (bytes ++ more) :: rest) (hmore : more ≠ [])
    (ht : t.incoming = .data more :: rest) : s.Plays bytes t where
  remaining := by
    rw [remaining, remaining, h, ht, List.flatMap_cons, List.flatMap_cons, List.append_assoc]
  streams := by
    intro hs a ha
    rw [ht] at ha
    rcases List.mem_cons.1 ha with rfl | ha
    · exact ⟨more, rfl, hmore⟩
    · exact hs a (by rw [h]; exact List.mem_cons_of_mem _ ha)
  connected := hconnected
  failures := hfailures

end Arrival

variable [Scale R]

/-! ## What operations bring -/

/-- A read takes its time and what is next. It brings nothing at the end alone, or if nothing is
asked for. -/
structure Took (limit : Nat) (s : Script R) (bytes : Bytes) (t : Script R) : Prop where
  plays : s.Plays bytes t
  spent : t.patience < s.patience ∨
    t.patience = s.patience ∧ bytes = [] ∧ (s.incoming = [] ∨ limit = 0)
  metered : t.patience + bytes.length ≤ s.patience
  ends : bytes = [] → s.Streams → s.incoming = [] ∨ limit = 0
  clock : t.clock = s.clock + s.step
  step : t.step = s.step

section Taking

variable {limit : Nat} {s : Script R} {bytes : Bytes} {rest : List Arrival}

theorem took_nothing (h : s.incoming = []) : s.Took limit [] (s.advance s.step) where
  plays := .of_incoming rfl rfl rfl
  spent := Or.inr ⟨rfl, rfl, Or.inl h⟩
  metered := Nat.le_refl _
  ends := fun _ _ => Or.inl h
  clock := rfl
  step := rfl

theorem took_whole (h : s.incoming = .data bytes :: rest) :
    s.Took limit bytes { s.advance s.step with incoming := rest } := by
  let t : Script R := { s.advance s.step with incoming := rest }
  have hpatience : t.patience + bytes.length < s.patience := patience_of_data h rfl
  have hlt : t.patience < s.patience := by omega
  refine ⟨plays_of_data rfl rfl h rfl, Or.inl hlt, Nat.le_of_lt hpatience, ?_, rfl, rfl⟩
  intro hnil hs
  obtain ⟨bytes', hdata, hne⟩ := hs (.data bytes) (by simp [h])
  obtain rfl := Arrival.data.inj hdata
  exact absurd hnil hne

theorem took_part (h : s.incoming = .data bytes :: rest) (hlong : limit < bytes.length) :
    s.Took limit (bytes.take limit)
      { s.advance s.step with incoming := .data (bytes.drop limit) :: rest } := by
  let t : Script R := { s.advance s.step with incoming := .data (bytes.drop limit) :: rest }
  have hparts : s.incoming = .data (bytes.take limit ++ bytes.drop limit) :: rest := by
    rw [List.take_append_drop, h]
  have hmore : bytes.drop limit ≠ [] := by simpa using hlong
  have hpatience : t.patience + (bytes.take limit).length = s.patience :=
    patience_of_part hparts rfl
  have hlength : (bytes.take limit).length = limit := List.length_take_of_le (Nat.le_of_lt hlong)
  refine ⟨plays_of_part rfl rfl hparts hmore rfl, ?_, Nat.le_of_eq hpatience, ?_, rfl, rfl⟩
  · rcases Nat.eq_zero_or_pos limit with hzero | hpos
    · refine Or.inr ⟨?_, ?_, Or.inr hzero⟩
      · rwa [hlength, hzero] at hpatience
      · rw [hzero, List.take_zero]
    · have hlt : t.patience < s.patience := by omega
      exact Or.inl hlt
  · intro hnil _
    rw [hnil] at hlength
    exact Or.inr hlength.symm

end Taking

theorem outcome_take (limit : Nat) (s : Script R) :
    Outcome (s.Took limit) (fun _ t => s.Plays [] t ∧ ¬ s.Streams ∧ t.patience < s.patience ∧
      t.step = s.step) (take limit s) := by
  unfold take
  dsimp only
  cases hincoming : s.incoming with
  | nil =>
      have hsame : (s.advance s.step).incoming = [] := hincoming
      rw [hsame]
      exact took_nothing hincoming
  | cons a rest =>
      have hsame : (s.advance s.step).incoming = a :: rest := hincoming
      rw [hsame]
      cases a with
      | failure text =>
          exact ⟨plays_of_failure rfl rfl hincoming rfl, not_streams_of_failure hincoming,
            patience_lt_of_failure hincoming rfl, rfl⟩
      | data bytes =>
          dsimp only
          split
          · exact took_part hincoming ‹_›
          · exact took_whole hincoming

section Reads

variable {limit : Nat} {s t : Script R} {bytes data : Bytes}

theorem took_of_read (h : Channel.read limit s = .ok bytes t) : s.Took limit bytes t := by
  have htake := (of_guarded_ok h).2
  have houtcome := outcome_take limit s
  rw [htake] at houtcome
  exact houtcome

theorem readable_of_brought (h : Channel.Brought limit s bytes t) : s.Readable :=
  ⟨h.connected, (of_guarded_ok h.read).1⟩

theorem readable_of_pours {chunks : List Bytes} (h : Channel.Pours limit s chunks t)
    (hchunks : chunks ≠ []) : s.Readable := by
  cases h with
  | nil => exact absurd rfl hchunks
  | cons hbrought _ _ => exact readable_of_brought hbrought

theorem Streams.not_unread (hs : s.Streams) (hread : s.Readable) :
    ¬ Channel.Unread limit s t := by
  rintro (⟨hconnected, -⟩ | ⟨text, h⟩)
  · exact absurd (hread.connected.symm.trans hconnected) (by decide)
  · have houtcome := outcome_take limit s
    have htake : take limit s = .error text t := by
      have hguarded : guarded .read (take limit) s = .error text t := h
      rw [guarded, hread.unfailing] at hguarded
      exact hguarded
    rw [htake] at houtcome
    exact houtcome.2.1 hs

theorem plays_of_readFailed {text : String} (h : Channel.read limit s = .error text t) :
    s.Plays [] t ∧ t.patience ≤ s.patience ∧ t.step = s.step := by
  have houtcome : Outcome (fun _ _ => True)
      (fun _ t => s.Plays [] t ∧ t.patience ≤ s.patience ∧ t.step = s.step)
      (guarded .read (take limit) s) := by
    apply outcome_guarded (fun _ => ⟨.refl s, Nat.le_refl _, rfl⟩)
    exact (outcome_take limit s).mono (fun _ _ _ => trivial)
      (fun _ _ h => ⟨h.1, Nat.le_of_lt h.2.2.1, h.2.2.2⟩)
  have hguarded : guarded .read (take limit) s = .error text t := h
  rw [hguarded] at houtcome
  exact houtcome

end Reads

theorem outcome_wait (timeout : Option (Quantity R)) (s : Script R) :
    Outcome
      (fun ready t => s.Plays [] t ∧ t.patience = s.patience ∧ t.step = s.step ∧
        (ready = true → t.incoming ≠ []) ∧
        (ready = false → t.clock = s.clock + ((timeout.bind Quantity.toScale?).getD Scale.zero)))
      (fun _ t => s = t) ((Channel.canRead timeout : EStateM String (Script R) Bool) s) := by
  apply outcome_guarded (fun _ => rfl)
  unfold wait
  split
  · exact ⟨.of_incoming rfl rfl rfl, rfl, rfl, nofun, fun _ => rfl⟩
  · rename_i hincoming
    exact ⟨.refl s, rfl, rfl, fun _ => by simpa using hincoming, nofun⟩

theorem outcome_written (data : Bytes) (s : Script R) :
    Leaves (s = ·) ((Channel.write data : EStateM String (Script R) Unit) s) :=
  outcome_guarded (fun _ => rfl) rfl

/-- However a script is used, its reads bring its bytes in order. -/
theorem plays_of_served {s t : Script R} {data : Bytes} (h : Channel.Served s data t) :
    s.Plays data t := by
  induction h with
  | refl s => exact .refl s
  | read hread _ ih => exact (took_of_read hread).plays.trans ih
  | readFailed hread _ ih => exact (plays_of_readFailed hread).1.trans ih
  | @canRead timeout s u more _ ih =>
      have hplays : s.Plays [] (after (Channel.canRead timeout) s) :=
        leaves_iff.1 ((outcome_wait timeout s).mono (fun _ _ h => h.1) (fun _ _ h => h ▸ .refl s))
      exact hplays.trans ih
  | @write data s u more _ ih =>
      have hsame : s = after (Channel.write data) s := leaves_iff.1 (outcome_written data s)
      exact hsame ▸ ih

end Stomp.Script
