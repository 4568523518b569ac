import Mathlib.Tactic
import Stomp.Header.Escape

/-!
# Escaped header texts

Outside the legacy form, the replacements made one after another write each character on its own
(`encode_eq_flatMap`). What is written has no line ends and no colons (`not_mem_encode`), and reads
back as it was (`decode_encode`).
-/

namespace Stomp.Escape

def written (c : Char) : List Char :=
  if c = '\\' then ['\\', '\\']
  else if c = '\r' then ['\\', 'r']
  else if c = '\n' then ['\\', 'n']
  else if c = ':' then ['\\', 'c']
  else [c]

theorem written_plain {c : Char} (hc : c ≠ '\\' ∧ c ≠ '\r' ∧ c ≠ '\n' ∧ c ≠ ':') :
    written c = [c] := by
  obtain ⟨h1, h2, h3, h4⟩ := hc
  rw [written, if_neg h1, if_neg h2, if_neg h3, if_neg h4]

theorem replace_append (c : Char) (w s t : List Char) :
    replace c w (s ++ t) = replace c w s ++ replace c w t := by
  simp [replace]

theorem encode_append (legacy : Bool) (s t : List Char) :
    encode legacy (s ++ t) = encode legacy s ++ encode legacy t := by
  cases legacy <;> simp [encode, replacements, replace_append]

theorem encode_singleton (c : Char) : encode false [c] = written c := by
  unfold written
  split_ifs with h1 h2 h3 h4
  · subst h1
    decide
  · subst h2
    decide
  · subst h3
    decide
  · subst h4
    decide
  · simp [encode, replacements, replace, h1, h2, h3, h4]

theorem encode_cons (c : Char) (s : List Char) :
    encode false (c :: s) = written c ++ encode false s := by
  rw [← encode_singleton, ← encode_append, List.singleton_append]

theorem encode_eq_flatMap (s : List Char) : encode false s = s.flatMap written := by
  induction s with
  | nil => rfl
  | cons c s ih => rw [encode_cons, ih, List.flatMap_cons]

/-- A text is read from the left, a backslash with the character after it. -/
theorem pairs_induction {motive : List Char → Prop} (nil : motive []) (lone : motive ['\\'])
    (pair : ∀ c s, motive s → motive ('\\' :: c :: s))
    (plain : ∀ c s, c ≠ '\\' → motive s → motive (c :: s)) : ∀ s, motive s
  | [] => nil
  | [c] => by
      by_cases hc : c = '\\'
      · exact hc ▸ lone
      · exact plain c [] hc nil
  | c :: d :: s => by
      by_cases hc : c = '\\'
      · exact hc ▸ pair d s (pairs_induction nil lone pair plain s)
      · exact plain c (d :: s) hc (pairs_induction nil lone pair plain (d :: s))

theorem decode_plain (legacy : Bool) {c : Char} (hc : c ≠ '\\') (s : List Char) :
    decode legacy (c :: s) = c :: decode legacy s := by
  rw [decode]
  exact fun d t h => absurd h hc

theorem decode_written (c : Char) (s : List Char) :
    decode false (written c ++ s) = c :: decode false s := by
  unfold written
  split_ifs with h1 h2 h3 h4
  · subst h1
    rfl
  · subst h2
    rfl
  · subst h3
    rfl
  · subst h4
    rfl
  · exact decode_plain false h1 s

theorem decode_encode (s : List Char) : decode false (encode false s) = s := by
  induction s with
  | nil => rfl
  | cons c s ih => rw [encode_cons, decode_written, ih]

theorem encode_injective : Function.Injective (encode false) := by
  intro s t h
  rw [← decode_encode s, h, decode_encode]

theorem not_mem_written (c : Char) : ∀ x ∈ written c, x ≠ '\r' ∧ x ≠ '\n' ∧ x ≠ ':' := by
  intro x hx
  unfold written at hx
  split_ifs at hx with h1 h2 h3 h4
  · simp only [List.mem_cons, List.not_mem_nil, or_false, or_self] at hx
    subst hx
    decide
  · simp only [List.mem_cons, List.not_mem_nil, or_false] at hx
    rcases hx with rfl | rfl <;> decide
  · simp only [List.mem_cons, List.not_mem_nil, or_false] at hx
    rcases hx with rfl | rfl <;> decide
  · simp only [List.mem_cons, List.not_mem_nil, or_false] at hx
    rcases hx with rfl | rfl <;> decide
  · rw [List.mem_singleton] at hx
    subst hx
    exact ⟨h2, h3, h4⟩

theorem not_mem_encode (s : List Char) : ∀ x ∈ encode false s, x ≠ '\r' ∧ x ≠ '\n' ∧ x ≠ ':' := by
  intro x hx
  rw [encode_eq_flatMap, List.mem_flatMap] at hx
  obtain ⟨c, -, hx⟩ := hx
  exact not_mem_written c x hx

theorem encode_eq_nil_iff (s : List Char) : encode false s = [] ↔ s = [] := by
  constructor
  · intro h
    rw [← decode_encode s, h]
    rfl
  · rintro rfl
    rfl

theorem encode_eq_self {s : List Char}
    (h : ∀ c ∈ s, c ≠ '\\' ∧ c ≠ '\r' ∧ c ≠ '\n' ∧ c ≠ ':') : encode false s = s := by
  induction s with
  | nil => rfl
  | cons c s ih =>
      rw [List.forall_mem_cons] at h
      rw [encode_cons, written_plain h.1, ih h.2, List.singleton_append]

end Stomp.Escape
