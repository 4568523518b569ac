import Stomp.Proofs.Heartbeat.History

/-!
# Observers of heart-beats across connections

An observer that outlives a connection should follow the next handshake as a new one would. It does,
unless an earlier connection enabled it, or left an offer of the broker with which it is enabled
already when the client offers again (`renewed_iff`): nothing that it learned is ever reset.
-/

namespace Stomp

open Stomp.Action

variable {κ R : Type}

namespace Heartbeat

def terms (h : Heartbeat R) : Bool × Option R × Option Int × Option Int :=
  (h.enabled, h.interval?, h.client?, h.server?)

def ownOffer (h : Heartbeat R) (f : Frame) : Int :=
  if h.role = .emitter then (offered f).1 else (offered f).2

def brokerOffer (h : Heartbeat R) (g : Frame) : Int :=
  if h.role = .emitter then (offered g).2 else (offered g).1

variable [Scale R] [Channel κ R] {h k : Heartbeat R} {l : Link κ R}

/-- The interval that follows from the client's new offer and what the broker offered long ago. -/
def stale? (h : Heartbeat R) (c : κ) (f : Frame) : Option R :=
  match h.server? with
  | some theirs =>
    if h.ownOffer f = 0 ∨ theirs = 0 then none else h.takenUp? c (max (h.ownOffer f) theirs)
  | none => none

/-- The observer follows the handshake of the frames `f` and `g` as `h`, a new one, would. -/
structure Renewed (h : Heartbeat R) (earlier : List (Moment κ R)) (l₁ : Link κ R) (f : Frame)
    (mid : List (Moment κ R)) (l₂ : Link κ R) (g : Frame) : Prop where
  /-- It is not enabled from the client's frame to the broker's. -/
  idle : ∀ front rest, mid = front ++ rest →
    (h.run (earlier ++ .told l₁ (.sent f) :: front)).enabled = false
  /-- Then it tells what the new one does. -/
  agrees : (h.run (earlier ++ .told l₁ (.sent f) :: mid ++ [.told l₂ (.received g)])).terms =
    (h.run [.told l₁ (.sent f), .told l₂ (.received g)]).terms

omit [Scale R] [Channel κ R] in
theorem terms_eq_iff {on : Bool} {interval? : Option R} {client? server? : Option Int} :
    h.terms = (on, interval?, client?, server?) ↔ h.enabled = on ∧ h.interval? = interval? ∧
      h.client? = client? ∧ h.server? = server? := by
  simp [terms]

/-! ## The frame of the client -/

omit [Scale R] [Channel κ R] in
theorem learn_connect {f : Frame} (hplain : h.role ≠ .plain) (hf : f.command = Verb.connect)
    (now : R) : (h.learn now f (offered f)).client? = some (h.ownOffer f) ∧
      (h.learn now f (offered f)).server? = h.server? := by
  have hother : f.command ≠ Verb.connected := by
    rw [hf]
    decide
  unfold learn ownOffer
  cases hrole : h.role with
  | plain => exact absurd hrole hplain
  | emitter => simp [hother]
  | detector => simp [hf]

theorem settled_of_connect {f : Frame} (hplain : h.role ≠ .plain)
    (hf : f.command = Verb.connect) (l : Link κ R) :
    (h.taught l f).agreed?.bind ((h.taught l f).takenUp? l.channel) = h.stale? l.channel f := by
  obtain ⟨hclient, hserver⟩ := learn_connect hplain hf l.now
  obtain ⟨hrole, husage, -, -⟩ := learn_keeps h l.now f (offered f)
  unfold stale? agreed? takenUp? taught
  rw [hclient, hserver, hrole, husage]
  cases h.server? with
  | none => rfl
  | some theirs =>
      dsimp only
      split <;> rfl

theorem enabled_meet_connect {f : Frame} {milliseconds : R} (hplain : h.role ≠ .plain)
    (hoff : h.enabled = false) (hf : f.command = Verb.connect)
    (hstale : h.stale? l.channel f = some milliseconds) :
    (h.meet (.told l (.sent f))).enabled = true := by
  have he : (Event.sent f).greeting? = some f := if_pos hf
  rw [meet_of_greeting hplain hoff he, greeted, settled, settled_of_connect hplain hf, hstale]

theorem terms_meet_connect {f : Frame} (hplain : h.role ≠ .plain) (hoff : h.enabled = false)
    (hf : f.command = Verb.connect) (hstale : h.stale? l.channel f = none) :
    (h.meet (.told l (.sent f))).terms =
      (false, h.interval?, some (h.ownOffer f), h.server?) := by
  have he : (Event.sent f).greeting? = some f := if_pos hf
  obtain ⟨hclient, hserver⟩ := learn_connect hplain hf l.now
  obtain ⟨-, -, henabled, hinterval⟩ := learn_keeps h l.now f (offered f)
  rw [meet_of_greeting hplain hoff he, greeted, settled, settled_of_connect hplain hf, hstale]
  dsimp only
  rw [terms, taught, hclient, hserver, henabled, hinterval, hoff]

/-- The frame of the client leaves an observer off exactly if it was off and no stale offer is
met. -/
theorem off_meet_connect_iff {f : Frame} (hplain : h.role ≠ .plain)
    (hf : f.command = Verb.connect) :
    (h.meet (.told l (.sent f))).enabled = false ↔
      h.enabled = false ∧ h.stale? l.channel f = none := by
  constructor
  · intro hidle
    cases hoff : h.enabled with
    | true =>
        rw [(sameTerms_meet hplain hoff _).enabled, hoff] at hidle
        cases hidle
    | false =>
        refine ⟨rfl, ?_⟩
        cases hstale : h.stale? l.channel f with
        | none => rfl
        | some milliseconds =>
            rw [enabled_meet_connect hplain hoff hf hstale] at hidle
            cases hidle
  · rintro ⟨hoff, hstale⟩
    exact (terms_eq_iff.1 (terms_meet_connect hplain hoff hf hstale)).1

/-! ## The frame of the broker -/

omit [Scale R] [Channel κ R] in
theorem learn_connected {g : Frame} {ours : Int} (hplain : h.role ≠ .plain)
    (hg : g.command = Verb.connected) (hclient : h.client? = some ours) (now : R) :
    (h.learn now g (offered g)).client? = some ours ∧
      (h.learn now g (offered g)).server? = some (h.brokerOffer g) := by
  have hother : g.command ≠ Verb.connect := by
    rw [hg]
    decide
  unfold learn brokerOffer
  cases hrole : h.role with
  | plain => exact absurd hrole hplain
  | emitter => simp [hg, hclient]
  | detector => simp [hother, hclient]

theorem settled_congr (hrole : k.role = h.role) (husage : k.usage = h.usage)
    (hterms : k.terms = h.terms) (l : Link κ R) : (k.settled l).terms = (h.settled l).terms := by
  obtain ⟨henabled, hinterval, hclient, hserver⟩ := terms_eq_iff.1 hterms
  have htaken : k.agreed?.bind (k.takenUp? l.channel) = h.agreed?.bind (h.takenUp? l.channel) := by
    unfold agreed? takenUp?
    rw [hclient, hserver, hrole, husage]
  unfold settled
  rw [htaken]
  cases h.agreed?.bind (h.takenUp? l.channel) with
  | none => exact hterms
  | some milliseconds => rw [terms, terms, hclient, hserver]

theorem meet_connected_congr {g : Frame} {ours : Int} (hplain : h.role ≠ .plain)
    (hg : g.command = Verb.connected) (hrole : k.role = h.role) (husage : k.usage = h.usage)
    (hh : h.enabled = false) (hk : k.enabled = false) (hinterval : k.interval? = h.interval?)
    (hours : h.client? = some ours) (kours : k.client? = some ours) (l : Link κ R) :
    (k.meet (.told l (.received g))).terms = (h.meet (.told l (.received g))).terms := by
  have he : (Event.received g).greeting? = some g := if_pos hg
  have kplain : k.role ≠ .plain := hrole ▸ hplain
  obtain ⟨hclient, hserver⟩ := learn_connected hplain hg hours l.now
  obtain ⟨kclient, kserver⟩ := learn_connected kplain hg kours l.now
  obtain ⟨hrole', husage', henabled', hinterval'⟩ := learn_keeps h l.now g (offered g)
  obtain ⟨krole', kusage', kenabled', kinterval'⟩ := learn_keeps k l.now g (offered g)
  rw [meet_of_greeting hplain hh he, meet_of_greeting kplain hk he]
  apply settled_congr
  · rw [taught, taught, krole', hrole', hrole]
  · rw [taught, taught, kusage', husage', husage]
  · have hoffer : k.brokerOffer g = h.brokerOffer g := by rw [brokerOffer, brokerOffer, hrole]
    rw [terms, terms, taught, taught, kenabled', kinterval', kclient, kserver, henabled',
      hinterval', hclient, hserver, hk, hh, hinterval, hoffer]

/-! ## Between the two -/

theorem sameTerms_run_of_silence (hplain : h.role ≠ .plain) (hoff : h.enabled = false)
    {mid : List (Moment κ R)} (hmid : ∀ x ∈ mid, x.greeting? = none) :
    h.SameTerms (h.run mid) := by
  induction mid generalizing h with
  | nil => exact .refl h
  | cons x mid ih =>
      have hfirst : h.SameTerms (h.meet x) := by
        cases x with
        | mode pessimistic => exact .changeMode h pessimistic
        | told l e =>
            rw [meet_of_not_greeting hplain hoff (hmid _ List.mem_cons_self)]
            exact sameTerms_overheard h l.now e
      exact hfirst.trans (ih (hfirst.role ▸ hplain) (hfirst.enabled.trans hoff)
        fun y hy => hmid y (List.mem_cons_of_mem x hy))

theorem sameTerms_run_after {earlier mid : List (Moment κ R)} {x : Moment κ R}
    (hplain : ((h.run earlier).meet x).role ≠ .plain)
    (hoff : ((h.run earlier).meet x).enabled = false) (hmid : ∀ y ∈ mid, y.greeting? = none) :
    ∀ front rest, mid = front ++ rest →
      ((h.run earlier).meet x).SameTerms (h.run (earlier ++ x :: front)) := by
  rintro front rest rfl
  rw [List.append_cons, run_append, run_snoc]
  exact sameTerms_run_of_silence hplain hoff fun y hy => hmid y (List.mem_append_left rest hy)

/-! ## Renewal -/

/-- Exactly if an observer was not enabled before and no offer is left that enables it too early, it
follows the next handshake as a new one would. -/
theorem renewed_iff (hnew : h.IsNew) (earlier mid : List (Moment κ R)) (l₁ l₂ : Link κ R)
    {f g : Frame} (hf : f.command = Verb.connect) (hg : g.command = Verb.connected)
    (hmid : ∀ x ∈ mid, x.greeting? = none) :
    Renewed h earlier l₁ f mid l₂ g ↔
      (h.run earlier).enabled = false ∧ (h.run earlier).stale? l₁.channel f = none := by
  have hknown := informed_run hnew earlier
  have hplain : (h.run earlier).role ≠ .plain := hknown.role ▸ hnew.role
  constructor
  · intro hrenewed
    have hidle := hrenewed.idle [] mid rfl
    rw [run_snoc] at hidle
    exact (off_meet_connect_iff hplain hf).1 hidle
  · rintro ⟨hoff, hstale⟩
    have hfresh : h.stale? l₁.channel f = none := by rw [stale?, hnew.server]
    have hgreeted := hknown.meet hnew.role (.told l₁ (.sent f))
    have hsilence := sameTerms_run_after (hgreeted.role ▸ hnew.role)
      ((off_meet_connect_iff hplain hf).2 ⟨hoff, hstale⟩) hmid
    obtain ⟨hidle, hinterval, hclient, -⟩ :=
      terms_eq_iff.1 (terms_meet_connect hplain hoff hf hstale)
    obtain ⟨hnewIdle, hnewInterval, hnewClient, -⟩ :=
      terms_eq_iff.1 (terms_meet_connect hnew.role hnew.off hf hfresh)
    have hmidTerms := hsilence mid [] (List.append_nil mid).symm
    refine ⟨fun front rest hfront => (hsilence front rest hfront).enabled.trans hidle, ?agrees⟩
    have hnewKnown : h.Informed [.told l₁ (.sent f)] (h.meet (.told l₁ (.sent f))) :=
      informed_run hnew [.told l₁ (.sent f)]
    have hours : (h.run earlier).ownOffer f = h.ownOffer f := by
      rw [ownOffer, ownOffer, hknown.role]
    have hnone : (h.run earlier).interval? = h.interval? :=
      (hknown.idle hoff).trans hnew.interval.symm
    rw [run_snoc]
    change _ = ((h.meet (.told l₁ (.sent f))).meet (.told l₂ (.received g))).terms
    apply meet_connected_congr (hnewKnown.role ▸ hnew.role) hg
    · rw [hmidTerms.role, hgreeted.role, hnewKnown.role]
    · rw [hmidTerms.usage, hgreeted.usage, hnewKnown.usage]
    · exact hnewIdle
    · exact hmidTerms.enabled.trans hidle
    · rw [hmidTerms.interval, hinterval, hnewInterval, hnone]
    · exact hnewClient
    · rw [hmidTerms.client, hclient, hours]

/-- A broker that sent no beats at first does so the next time; there is an empty read meanwhile. -/
theorem renewed_after_zero :
    Renewed (detector (.whole 2)) (handshakeOf "0,100" "0,0") (.silent (2 : Rat))
      (.offering Verb.connect "0,100") [.told (.silent 3) .emptyRead] (.silent 4)
      (.offering Verb.connected "300,0") := by
  have hsilence : ∀ x ∈ [Moment.told (.silent (3 : Rat)) .emptyRead], x.greeting? = none := by
    intro x hx
    rw [List.mem_singleton.1 hx]
    rfl
  exact (renewed_iff (isNew_detector (.whole 2)) _ _ _ _ rfl rfl hsilence).2
    ⟨by decide +kernel, by decide +kernel⟩

/-- After a connection with beats, an emitter keeps its interval through the next handshake. -/
theorem not_renewed_after_beats :
    ¬ Renewed (emitter (.real (13 / 20))) (handshakeOf "100,0" "0,100") (.silent (2 : Rat))
      (.offering Verb.connect "200,0") [] (.silent 3) (.offering Verb.connected "0,300") := by
  intro hrenewed
  have hidle := hrenewed.idle [] [] rfl
  revert hidle
  decide +kernel

end Heartbeat

end Stomp
