import Stomp.Action

/-!
# Outcomes of actions

An action returns or fails, and leaves a state in either case. `Outcome` says what holds after it;
the rules follow the way in which actions are composed. `Keeps` says that an action, whatever its
outcome, keeps a relation between the state before and the state after it.
-/

namespace Stomp.Action

variable {ε δ σ τ α β : Type}

/-- What holds of the value and the state, or of the error and the state. -/
def Outcome (ok : α → σ → Prop) (failed : ε → σ → Prop) : EStateM.Result ε σ α → Prop
  | .ok a s => ok a s
  | .error e s => failed e s

/-- What holds of the state in either case. -/
abbrev Leaves (P : σ → Prop) (r : EStateM.Result ε σ α) : Prop :=
  Outcome (fun _ => P) (fun _ => P) r

def after (x : EStateM ε σ α) (s : σ) : σ :=
  match x s with
  | .ok _ t => t
  | .error _ t => t

def result (x : EStateM ε σ α) (s : σ) : Except ε α :=
  match x s with
  | .ok a _ => .ok a
  | .error e _ => .error e

def returns (p : α → σ → Bool) : EStateM.Result ε σ α → Bool
  | .ok a s => p a s
  | .error _ _ => false

def fails (p : ε → σ → Bool) : EStateM.Result ε σ α → Bool
  | .ok _ _ => false
  | .error e s => p e s

theorem exists_of_returns {p : α → σ → Bool} {r : EStateM.Result ε σ α}
    (h : returns p r = true) : ∃ a s, r = .ok a s ∧ p a s = true := by
  cases r with
  | ok a s => exact ⟨a, s, rfl, h⟩
  | error e s => cases h

theorem exists_of_fails {p : ε → σ → Bool} {r : EStateM.Result ε σ α}
    (h : fails p r = true) : ∃ e s, r = .error e s ∧ p e s = true := by
  cases r with
  | ok a s => cases h
  | error e s => exact ⟨e, s, rfl, h⟩

/-! ## Rules -/

namespace Outcome

variable {ok ok' : α → σ → Prop} {failed failed' : ε → σ → Prop}

theorem mono {r : EStateM.Result ε σ α} (h : Outcome ok failed r)
    (hok : ∀ a t, ok a t → ok' a t) (hfailed : ∀ e t, failed e t → failed' e t) :
    Outcome ok' failed' r := by
  cases r with
  | ok a t => exact hok a t h
  | error e t => exact hfailed e t h

theorem exists_ok {r : EStateM.Result ε σ α} (h : Outcome ok failed r)
    (hfailed : ∀ e t, ¬ failed e t) : ∃ a t, r = .ok a t ∧ ok a t := by
  cases r with
  | ok a t => exact ⟨a, t, rfl, h⟩
  | error e t => exact absurd h (hfailed e t)

theorem exists_error {r : EStateM.Result ε σ α} (h : Outcome ok failed r)
    (hok : ∀ a t, ¬ ok a t) : ∃ e t, r = .error e t ∧ failed e t := by
  cases r with
  | ok a t => exact absurd h (hok a t)
  | error e t => exact ⟨e, t, rfl, h⟩

theorem of_eq_error {r : EStateM.Result ε σ α} {e : ε} {t : σ} (h : Outcome ok failed r)
    (hr : r = .error e t) : failed e t := by
  rw [hr] at h
  exact h

theorem of_error {r : EStateM.Result ε σ α} (h : Outcome ok failed r)
    (hfailed : ∀ e t, r = .error e t → failed' e t) : Outcome ok failed' r := by
  cases r with
  | ok a t => exact h
  | error e t => exact hfailed e t rfl

theorem and {r : EStateM.Result ε σ α} (h : Outcome ok failed r) (h' : Outcome ok' failed' r) :
    Outcome (fun a t => ok a t ∧ ok' a t) (fun e t => failed e t ∧ failed' e t) r := by
  cases r with
  | ok a t => exact ⟨h, h'⟩
  | error e t => exact ⟨h, h'⟩

/-- An action that is followed by another one: a failure of the first is one of both. -/
theorem bind {x : EStateM ε σ α} {f : α → EStateM ε σ β} {s : σ} {done : β → σ → Prop}
    (hx : Outcome ok failed (x s)) (hfailed : ∀ e t, failed e t → failed' e t)
    (hf : ∀ a t, ok a t → Outcome done failed' (f a t)) :
    Outcome done failed' ((x >>= f) s) := by
  change Outcome done failed' (EStateM.bind x f s)
  unfold EStateM.bind
  revert hx
  cases x s with
  | ok a t => exact hf a t
  | error e t => exact hfailed e t

theorem discard {x : EStateM ε σ α} {s : σ} {P : σ → Prop}
    (hx : Outcome (fun _ t => P t) failed (x s)) :
    Outcome (fun _ t => P t) failed ((Functor.discard x : EStateM ε σ PUnit) s) := by
  change Outcome _ _ (EStateM.map (Function.const α PUnit.unit) x s)
  unfold EStateM.map
  revert hx
  cases x s <;> exact id

theorem of_discard {x : EStateM ε σ α} {s : σ} {P : σ → Prop}
    (hx : Outcome (fun _ t => P t) failed ((Functor.discard x : EStateM ε σ PUnit) s)) :
    Outcome (fun _ t => P t) failed (x s) := by
  change Outcome _ _ (EStateM.map (Function.const α PUnit.unit) x s) at hx
  unfold EStateM.map at hx
  revert hx
  cases x s <;> exact id

theorem on {part : σ → τ} {put : σ → τ → σ} {x : EStateM ε τ α} {s : σ}
    (hx : Outcome (fun a t => ok a (put s t)) (fun e t => failed e (put s t)) (x (part s))) :
    Outcome ok failed (Action.on part put x s) := by
  unfold Action.on
  revert hx
  cases x (part s) <;> exact id

theorem mapError {f : ε → δ} {x : EStateM ε σ α} {s : σ} {failed : δ → σ → Prop}
    (hx : Outcome ok (fun e t => failed (f e) t) (x s)) :
    Outcome ok failed (Action.mapError f x s) := by
  unfold Action.mapError
  revert hx
  cases x s <;> exact id

theorem beside {x : EStateM ε σ α} {p : Frame × σ} (hx : Outcome ok failed (x p.2)) :
    Outcome (fun a q => ok a q.2 ∧ p.1 = q.1) (fun e q => failed e q.2 ∧ p.1 = q.1)
      (Action.beside x p) :=
  on (hx.mono (fun _ _ h => ⟨h, rfl⟩) (fun _ _ h => ⟨h, rfl⟩))

theorem withFrame {f : Frame} {x : InHand ε σ α} {s : σ}
    (hx : Outcome (fun a p => ok a p.2) (fun e p => failed e p.2) (x (f, s))) :
    Outcome ok failed (Action.withFrame f x s) := by
  unfold Action.withFrame
  revert hx
  cases x (f, s) <;> exact id

end Outcome

theorem Leaves.mono {P Q : σ → Prop} {r : EStateM.Result ε σ α} (h : Leaves P r)
    (hPQ : ∀ t, P t → Q t) : Leaves Q r :=
  Outcome.mono h (fun _ => hPQ) (fun _ => hPQ)

theorem leaves_iff {P : σ → Prop} {x : EStateM ε σ α} {s : σ} :
    Leaves P (x s) ↔ P (after x s) := by
  unfold after
  cases x s <;> exact Iff.rfl

theorem outcome_result {P : Except ε α → σ → Prop} {x : EStateM ε σ α} {s : σ}
    (h : Outcome (fun a t => P (.ok a) t) (fun e t => P (.error e) t) (x s)) :
    P (result x s) (after x s) := by
  revert h
  unfold result after
  cases x s <;> exact id

theorem after_discard (x : EStateM ε σ α) (s : σ) :
    after (Functor.discard x : EStateM ε σ PUnit) s = after x s := by
  change after (EStateM.map (Function.const α PUnit.unit) x) s = _
  unfold after EStateM.map
  cases x s <;> rfl

theorem outcome_ofExcept (x : Except ε α) (s : σ) :
    Outcome (fun a t => x = .ok a ∧ s = t) (fun e t => x = .error e ∧ s = t)
      (ofExcept x s) := by
  cases x <;> exact ⟨rfl, rfl⟩

theorem exists_of_bind_eq_ok {x : Except ε α} {f : α → Except ε β} {b : β}
    (h : x >>= f = .ok b) : ∃ a, x = .ok a ∧ f a = .ok b := by
  cases x with
  | error e => cases h
  | ok a => exact ⟨a, rfl, h⟩

theorem of_bind_eq_error {x : Except ε α} {f : α → Except ε β} {e : ε}
    (h : x >>= f = .error e) : x = .error e ∨ ∃ a, x = .ok a ∧ f a = .error e := by
  cases x with
  | error e =>
      cases h
      exact Or.inl rfl
  | ok a => exact Or.inr ⟨a, rfl, h⟩

theorem exists_of_mapM_eq_error {f : α → Except ε β} {xs : List α} {e : ε}
    (h : xs.mapM f = .error e) : ∃ x ∈ xs, f x = .error e := by
  induction xs with
  | nil => cases h
  | cons x xs ih =>
      rw [List.mapM_cons] at h
      rcases of_bind_eq_error h with h | ⟨b, -, h⟩
      · exact ⟨x, List.mem_cons_self, h⟩
      rcases of_bind_eq_error h with h | ⟨bs, -, h⟩
      · obtain ⟨y, hy, hfy⟩ := ih h
        exact ⟨y, List.mem_cons_of_mem x hy, hfy⟩
      · cases h

theorem bind_of_ok {x : EStateM ε σ α} {f : α → EStateM ε σ β} {s t : σ} {a : α}
    (h : x s = .ok a t) : (x >>= f) s = f a t := by
  change EStateM.bind x f s = _
  rw [EStateM.bind, h]

theorem bind_of_error {x : EStateM ε σ α} {f : α → EStateM ε σ β} {s t : σ} {e : ε}
    (h : x s = .error e t) : (x >>= f) s = .error e t := by
  change EStateM.bind x f s = _
  rw [EStateM.bind, h]

theorem beside_of_ok {x : EStateM ε σ α} {s t : σ} {a : α} (h : x s = .ok a t) (f : Frame) :
    Action.beside x (f, s) = .ok a (f, t) := by
  unfold Action.beside Action.on
  dsimp only
  rw [h]

theorem get_bind (f : σ → EStateM ε σ α) (s : σ) : ((get : EStateM ε σ σ) >>= f) s = f s s := rfl

theorem set_bind (t : σ) (f : PUnit → EStateM ε σ α) (s : σ) :
    ((set t : EStateM ε σ PUnit) >>= f) s = f ⟨⟩ t := rfl

theorem modifyGet_bind (g : σ → α × σ) (f : α → EStateM ε σ β) (s : σ) :
    ((modifyGet g : EStateM ε σ α) >>= f) s = f (g s).1 (g s).2 := rfl

/-! ## Relations that are kept -/

/-- A relation between earlier and later states. -/
class Progress (r : σ → σ → Prop) : Prop where
  refl (s : σ) : r s s
  trans {s t u : σ} : r s t → r t u → r s u

/-- The relation between states that have a frame in hand beside them. -/
def Beside (r : σ → σ → Prop) (p q : Frame × σ) : Prop := r p.2 q.2

instance (r : σ → σ → Prop) [Progress r] : Progress (Beside r) where
  refl p := Progress.refl (r := r) p.2
  trans hpq hqs := Progress.trans (r := r) hpq hqs

/-- However the action ends, the relation holds between the states before and after it. -/
def Keeps (r : σ → σ → Prop) (x : EStateM ε σ α) : Prop :=
  ∀ s, Leaves (r s) (x s)

namespace Keeps

variable {r : σ → σ → Prop}

theorem trivial (x : EStateM ε σ α) : Keeps (fun _ _ => True) x :=
  fun _ => leaves_iff.2 True.intro

theorem modify {f : σ → σ} (hf : ∀ s, r s (f s)) : Keeps r (modify f : EStateM ε σ PUnit) :=
  hf

theorem on {part : σ → τ} {put : σ → τ → σ} {q : τ → τ → Prop} {x : EStateM ε τ α}
    (hx : Keeps q x) (hput : ∀ s t, q (part s) t → r s (put s t)) :
    Keeps r (Action.on part put x) := by
  intro s
  exact Outcome.on ((hx (part s)).mono (hput s))

theorem beside {x : EStateM ε σ α} (hx : Keeps r x) : Keeps (Beside r) (Action.beside x) :=
  on hx (fun _ _ h => h)

theorem withFrame {f : Frame} {x : InHand ε σ α} (hx : Keeps (Beside r) x) :
    Keeps r (Action.withFrame f x) :=
  fun s => Outcome.withFrame (hx (f, s))

theorem after {x : EStateM ε σ α} (hx : Keeps r x) (s : σ) : r s (Action.after x s) :=
  leaves_iff.1 (hx s)

variable [Progress r]

theorem bind {x : EStateM ε σ α} {f : α → EStateM ε σ β} (hx : Keeps r x)
    (hf : ∀ a, Keeps r (f a)) : Keeps r (x >>= f) := by
  intro s
  apply Outcome.bind (hx s) (fun _ _ h => h)
  intro a t hst
  exact (hf a t).mono fun _ => Progress.trans hst

theorem pure (a : α) : Keeps r (Pure.pure a : EStateM ε σ α) :=
  fun s => Progress.refl s

theorem throw (e : ε) : Keeps r (throw e : EStateM ε σ α) :=
  fun s => Progress.refl s

theorem get : Keeps r (MonadState.get : EStateM ε σ σ) :=
  fun s => Progress.refl s

theorem onward {x : EStateM ε σ α} (hx : Keeps r x) {s t : σ} (h : r s t) :
    Leaves (r s) (x t) :=
  (hx t).mono fun _ => Progress.trans h

theorem forM {f : α → EStateM ε σ PUnit} (hf : ∀ a, Keeps r (f a)) (as : List α) :
    Keeps r (as.forM f) := by
  induction as with
  | nil => exact Keeps.pure _
  | cons a as ih => exact (hf a).bind fun _ => ih

end Keeps

end Stomp.Action
