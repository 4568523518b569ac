import Stomp.Proofs.Header.Escape

/-!
# Legacy header texts

The legacy form escapes line feeds alone, so a backslash that was in the text before an `n` or a
line feed is taken for an escape when it is read. Texts in which such backslashes come in pairs are
read back, and no others (`evenRuns_iff`). `Clean` says in either form which texts survive on a
line.
-/

namespace Stomp.Escape

/-- Each run of backslashes that ends before an `n` or a line feed has an even length. -/
def EvenRuns (s : List Char) : Prop :=
  ∀ before k after, s = before ++ List.replicate k '\\' ++ after → before.getLast? ≠ some '\\' →
    after.head? = some 'n' ∨ after.head? = some '\n' → Even k

/-- The text has no carriage returns and no odd runs, where the form needs that. -/
structure Clean (legacy : Bool) (s : List Char) : Prop where
  no_return : legacy = true → '\r' ∉ s
  even_runs : legacy = true → EvenRuns s

theorem clean_false (s : List Char) : Clean false s := ⟨nofun, nofun⟩

theorem EvenRuns.of_cons {c : Char} {s : List Char} (h : EvenRuns (c :: s)) (hc : c ≠ '\\') :
    EvenRuns s := by
  intro before k after hs hbefore hafter
  apply h (c :: before) k after (by rw [hs]; simp) ?_ hafter
  cases before with
  | nil => simpa using hc
  | cons d before => simpa using hbefore

theorem EvenRuns.of_pair {s : List Char} (h : EvenRuns ('\\' :: '\\' :: s)) : EvenRuns s := by
  intro before k after hs hbefore hafter
  cases before with
  | nil =>
      have hlonger : Even (k + 2) := by
        apply h [] (k + 2) after _ (by simp) hafter
        rw [hs, List.replicate_succ, List.replicate_succ]
        simp
      exact (Nat.even_add.1 hlonger).2 (by decide)
  | cons d before =>
      apply h ('\\' :: '\\' :: d :: before) k after (by rw [hs]; simp) ?_ hafter
      simpa using hbefore

theorem EvenRuns.of_single {c : Char} {s : List Char} (h : EvenRuns ('\\' :: c :: s))
    (hc : c ≠ '\\') : c ≠ 'n' ∧ c ≠ '\n' ∧ EvenRuns s := by
  have hrun : ¬ (c = 'n' ∨ c = '\n') := by
    intro hn
    have hone : Even 1 := h [] 1 (c :: s) (by simp) (by simp) (by simpa using hn)
    exact absurd hone (by decide)
  rw [not_or] at hrun
  refine ⟨hrun.1, hrun.2, ?_⟩
  intro before k after hs hbefore hafter
  apply h ('\\' :: c :: before) k after (by rw [hs]; simp) ?_ hafter
  cases before with
  | nil => simpa using hc
  | cons d before => simpa using hbefore

theorem evenRuns_of_not_mem {s : List Char} (h : '\\' ∉ s) : EvenRuns s := by
  intro before k after hs _ _
  cases k with
  | zero => exact Even.zero
  | succ k =>
      rw [hs] at h
      simp [List.replicate_succ] at h

theorem clean_of_not_mem (legacy : Bool) {s : List Char} (h : ∀ c ∈ s, c ≠ '\\' ∧ c ≠ '\r') :
    Clean legacy s :=
  ⟨fun _ hr => (h '\r' hr).2 rfl, fun _ => evenRuns_of_not_mem fun hb => (h '\\' hb).1 rfl⟩

/-! ## Writing -/

theorem encode_legacy_cons (c : Char) (s : List Char) :
    encode true (c :: s) = (if c = '\n' then ['\\', 'n'] else [c]) ++ encode true s := rfl

theorem not_mem_encode_legacy (s : List Char) :
    ∀ x ∈ encode true s, x ≠ '\n' ∧ (x = '\\' ∨ x = 'n' ∨ x ∈ s) := by
  induction s with
  | nil => simp [encode, replacements, replace]
  | cons c s ih =>
      intro x hx
      rw [encode_legacy_cons, List.mem_append] at hx
      rcases hx with hx | hx
      · by_cases hc : c = '\n'
        · simp only [hc, if_true, List.mem_cons, List.not_mem_nil, or_false] at hx
          rcases hx with rfl | rfl
          · exact ⟨by decide, Or.inl rfl⟩
          · exact ⟨by decide, Or.inr (Or.inl rfl)⟩
        · rw [if_neg hc, List.mem_singleton] at hx
          subst hx
          exact ⟨hc, Or.inr (Or.inr (by simp))⟩
      · obtain ⟨hlf, hx⟩ := ih x hx
        exact ⟨hlf, hx.imp id (Or.imp id (List.mem_cons_of_mem c))⟩

theorem encode_eq_nil (legacy : Bool) {s : List Char} (h : encode legacy s = []) : s = [] := by
  cases legacy with
  | false => exact (encode_eq_nil_iff s).1 h
  | true =>
      cases s with
      | nil => rfl
      | cons c s =>
          rw [encode_legacy_cons] at h
          split at h <;> cases h

/-! ## Runs of backslashes -/

theorem getLast?_ne_of_cons {c d : Char} {before : List Char}
    (h : (d :: before).getLast? ≠ some c) : before.getLast? ≠ some c := by
  cases before with
  | nil => simp
  | cons e before => simpa using h

theorem EvenRuns.cons {c : Char} {s : List Char} (h : EvenRuns s) (hc : c ≠ '\\') :
    EvenRuns (c :: s) := by
  intro before k after hs hbefore hafter
  cases before with
  | nil =>
      cases k with
      | zero => exact Even.zero
      | succ k =>
          rw [List.replicate_succ] at hs
          exact absurd (List.cons.inj hs).1 hc
  | cons d before =>
      exact h before k after (List.cons.inj hs).2 (getLast?_ne_of_cons hbefore) hafter

theorem EvenRuns.pair {s : List Char} (h : EvenRuns s) : EvenRuns ('\\' :: '\\' :: s) := by
  intro before k after hs hbefore hafter
  match before, k with
  | [], 0 => exact Even.zero
  | [], 1 =>
      obtain rfl : '\\' :: s = after := (List.cons.inj hs).2
      simp at hafter
  | [], k + 2 =>
      have hrun : s = [] ++ List.replicate k '\\' ++ after := by
        simpa [List.replicate_succ] using hs
      exact (h [] k after hrun (by simp) hafter).add (by decide)
  | [d], k =>
      obtain rfl : '\\' = d := (List.cons.inj hs).1
      simp at hbefore
  | d :: e :: before, k =>
      have hrun : s = before ++ List.replicate k '\\' ++ after :=
        (List.cons.inj (List.cons.inj hs).2).2
      exact h before k after hrun (getLast?_ne_of_cons (getLast?_ne_of_cons hbefore)) hafter

theorem EvenRuns.single {c : Char} {s : List Char} (h : EvenRuns s) (hc : c ≠ '\\')
    (hn : c ≠ 'n') (hlf : c ≠ '\n') : EvenRuns ('\\' :: c :: s) := by
  intro before k after hs hbefore hafter
  match before, k with
  | [], 0 => exact Even.zero
  | [], 1 =>
      obtain rfl : c :: s = after := (List.cons.inj hs).2
      simp [hn, hlf] at hafter
  | [], k + 2 => exact absurd (List.cons.inj (List.cons.inj hs).2).1 hc
  | d :: before, k =>
      have hrun : c :: s = before ++ List.replicate k '\\' ++ after := (List.cons.inj hs).2
      exact h.cons hc before k after hrun (getLast?_ne_of_cons hbefore) hafter

theorem evenRuns_singleton (c : Char) : EvenRuns [c] := by
  intro before k after hs _ hafter
  have hlength := congrArg List.length hs
  have hne : after ≠ [] := by
    rintro rfl
    simp at hafter
  have hpos := List.length_pos_iff.2 hne
  simp only [List.length_append, List.length_replicate, List.length_singleton] at hlength
  obtain rfl : k = 0 := by omega
  exact Even.zero

theorem evenRuns_cons_iff {c : Char} (hc : c ≠ '\\') {s : List Char} :
    EvenRuns (c :: s) ↔ EvenRuns s :=
  ⟨fun h => h.of_cons hc, fun h => h.cons hc⟩

theorem evenRuns_pair_iff {c : Char} {s : List Char} :
    EvenRuns ('\\' :: c :: s) ↔ c ≠ 'n' ∧ c ≠ '\n' ∧ EvenRuns s := by
  by_cases hc : c = '\\'
  · subst hc
    exact ⟨fun h => ⟨by decide, by decide, h.of_pair⟩, fun h => h.2.2.pair⟩
  · exact ⟨fun h => h.of_single hc, fun h => h.2.2.single hc h.1 h.2.1⟩

/-! ## Reading back -/

theorem decode_encode_cons_iff {c : Char} (hc : c ≠ '\\') {s : List Char} :
    decode true (encode true (c :: s)) = c :: s ↔ decode true (encode true s) = s := by
  rw [encode_legacy_cons]
  by_cases hlf : c = '\n'
  · subst hlf
    exact List.cons_inj_right '\n'
  · rw [if_neg hlf, List.singleton_append, decode_plain true hc, List.cons_inj_right]

theorem decode_encode_pair_iff {c : Char} {s : List Char} :
    decode true (encode true ('\\' :: c :: s)) = '\\' :: c :: s ↔
      c ≠ 'n' ∧ c ≠ '\n' ∧ decode true (encode true s) = s := by
  rw [encode_legacy_cons, if_neg (by decide), List.singleton_append, encode_legacy_cons]
  by_cases hlf : c = '\n'
  · subst hlf
    refine iff_of_false (fun h => ?_) (fun h => h.2.1 rfl)
    exact absurd (List.cons.inj (List.cons.inj h).2).1 (by decide)
  by_cases hn : c = 'n'
  · subst hn
    refine iff_of_false (fun h => ?_) (fun h => h.1 rfl)
    exact absurd (List.cons.inj h).1 (by decide)
  · have hmeaning : meaning? true c = none := by simp [meaning?, hn]
    rw [if_neg hlf, List.singleton_append, decode, hmeaning]
    simp [hn, hlf]

/-- The texts with even runs are the ones that the legacy form reads back. -/
theorem evenRuns_iff {s : List Char} : EvenRuns s ↔ decode true (encode true s) = s := by
  induction s using pairs_induction with
  | nil => exact iff_of_true (evenRuns_of_not_mem List.not_mem_nil) rfl
  | lone => exact iff_of_true (evenRuns_singleton '\\') rfl
  | pair c s ih => rw [evenRuns_pair_iff, decode_encode_pair_iff, ih]
  | plain c s hc ih => rw [evenRuns_cons_iff hc, decode_encode_cons_iff hc, ih]

instance (s : List Char) : Decidable (EvenRuns s) := decidable_of_iff _ evenRuns_iff.symm

/-! ## In either form -/

instance (legacy : Bool) (s : List Char) : Decidable (Clean legacy s) :=
  decidable_of_iff ((legacy = true → '\r' ∉ s) ∧ (legacy = true → EvenRuns s))
    ⟨fun h => ⟨h.1, h.2⟩, fun h => ⟨h.no_return, h.even_runs⟩⟩

theorem Clean.decode_encode {legacy : Bool} {s : List Char} (h : Clean legacy s) :
    decode legacy (encode legacy s) = s := by
  cases legacy with
  | false => exact Escape.decode_encode s
  | true => exact evenRuns_iff.1 (h.even_runs rfl)

theorem Clean.not_lineEnd {legacy : Bool} {s : List Char} (h : Clean legacy s) :
    ∀ c ∈ encode legacy s, c ≠ '\r' ∧ c ≠ '\n' := by
  intro c hc
  cases legacy with
  | false => exact ⟨(not_mem_encode s c hc).1, (not_mem_encode s c hc).2.1⟩
  | true =>
      obtain ⟨hlf, hfrom⟩ := not_mem_encode_legacy s c hc
      refine ⟨?_, hlf⟩
      rintro rfl
      rcases hfrom with hfrom | hfrom | hfrom
      · exact absurd hfrom (by decide)
      · exact absurd hfrom (by decide)
      · exact h.no_return rfl hfrom

theorem colon_not_mem_encode {legacy : Bool} {s : List Char} (h : legacy = true → ':' ∉ s) :
    ':' ∉ encode legacy s := by
  intro hc
  cases legacy with
  | false => exact (not_mem_encode s ':' hc).2.2 rfl
  | true =>
      rcases (not_mem_encode_legacy s ':' hc).2 with hfrom | hfrom | hfrom
      · exact absurd hfrom (by decide)
      · exact absurd hfrom (by decide)
      · exact h rfl hfrom

end Stomp.Escape
