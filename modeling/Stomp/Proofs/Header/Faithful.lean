import Stomp.Proofs.Header.LegacyEscape

/-!
# Escaping as a code

Escaping loses nothing, and what it writes are just the texts without line ends and colons in which
each backslash, taken in pairs from the left, has a meaning (`encode_decode_iff`, `faithful`). The
legacy form loses nothing of the texts with even runs, and of no others (`survives_iff`).
-/

namespace Stomp.Escape

/-- There are no line ends and no colons in the text. -/
def Unbroken (s : List Char) : Prop := ∀ c ∈ s, c ≠ '\r' ∧ c ≠ '\n' ∧ c ≠ ':'

instance (s : List Char) : Decidable (Unbroken s) :=
  inferInstanceAs (Decidable (∀ c ∈ s, c ≠ '\r' ∧ c ≠ '\n' ∧ c ≠ ':'))

/-- Each backslash, taken from the left in pairs with the character after it, stands before a
backslash, an `r`, an `n` or a `c`. -/
def paired : List Char → Bool
  | '\\' :: c :: s => decide (c ∈ ['\\', 'r', 'n', 'c']) && paired s
  | ['\\'] => false
  | _ :: s => paired s
  | [] => true

theorem paired_plain {c : Char} (hc : c ≠ '\\') (s : List Char) : paired (c :: s) = paired s := by
  rw [paired]
  · exact fun d t h => absurd h hc
  · exact fun h => absurd h hc

theorem paired_written (c : Char) (s : List Char) : paired (written c ++ s) = paired s := by
  unfold written
  split_ifs with h1 h2 h3 h4
  · rfl
  · rfl
  · rfl
  · rfl
  · exact paired_plain h1 s

theorem paired_encode (s : List Char) : paired (encode false s) = true := by
  induction s with
  | nil => rfl
  | cons c s ih => rw [encode_cons, paired_written, ih]

theorem exists_written_eq_pair {c : Char} (hc : c ∈ ['\\', 'r', 'n', 'c']) :
    ∃ x, written x = ['\\', c] := by
  simp only [List.mem_cons, List.not_mem_nil, or_false] at hc
  rcases hc with rfl | rfl | rfl | rfl
  · exact ⟨'\\', rfl⟩
  · exact ⟨'\r', rfl⟩
  · exact ⟨'\n', rfl⟩
  · exact ⟨':', rfl⟩

theorem encode_decode {w : List Char} (hbroken : Unbroken w) (hpaired : paired w = true) :
    encode false (decode false w) = w := by
  induction w using pairs_induction with
  | nil => rfl
  | lone => cases hpaired
  | pair c s ih =>
      rw [Unbroken, List.forall_mem_cons, List.forall_mem_cons] at hbroken
      obtain ⟨-, -, hbroken⟩ := hbroken
      rw [paired, Bool.and_eq_true, decide_eq_true_iff] at hpaired
      obtain ⟨hmeaning, hpaired⟩ := hpaired
      obtain ⟨x, hx⟩ := exists_written_eq_pair hmeaning
      have hpair : '\\' :: c :: s = written x ++ s := by rw [hx]; rfl
      rw [hpair, decode_written, encode_cons, ih hbroken hpaired]
  | plain c s hc ih =>
      rw [Unbroken, List.forall_mem_cons] at hbroken
      obtain ⟨hplain, hbroken⟩ := hbroken
      rw [paired_plain hc] at hpaired
      rw [decode_plain false hc, encode_cons, written_plain ⟨hc, hplain⟩, ih hbroken hpaired,
        List.singleton_append]

theorem encode_decode_iff {w : List Char} :
    encode false (decode false w) = w ↔ Unbroken w ∧ paired w = true := by
  refine ⟨fun h => ?_, fun h => encode_decode h.1 h.2⟩
  rw [← h]
  exact ⟨not_mem_encode _, paired_encode _⟩

/-! ## Texts as strings -/

section Strings

variable (legacy : Bool) (s t w : String)

theorem toList_encodeString : (encodeString legacy s).toList = encode legacy s.toList :=
  String.toList_ofList

theorem toList_decodeString : (decodeString legacy s).toList = decode legacy s.toList :=
  String.toList_ofList

theorem encodeString_inj : encodeString false s = encodeString false t ↔ s = t := by
  rw [← String.toList_inj, toList_encodeString, toList_encodeString, encode_injective.eq_iff,
    String.toList_inj]

/-- What is written for a text is free of line ends and colons, is written character by character,
and is read as the text, so that each text has a written form of its own, and the form of two texts
in a row is that of the one before that of the other. A text is written again as it was read if and
only if it is free of line ends and colons and its backslashes come in pairs that have a meaning. -/
theorem faithful :
    Unbroken (encodeString false s).toList ∧
      (encodeString false s).toList = s.toList.flatMap written ∧
      decodeString false (encodeString false s) = s ∧
      encodeString false (s ++ t) = encodeString false s ++ encodeString false t ∧
      (encodeString false s = encodeString false t ↔ s = t) ∧
      (encodeString false (decodeString false w) = w ↔
        Unbroken w.toList ∧ paired w.toList = true) := by
  refine ⟨?_, ?_, ?_, ?_, encodeString_inj s t, ?_⟩
  · rw [toList_encodeString]
    exact not_mem_encode s.toList
  · rw [toList_encodeString, encode_eq_flatMap]
  · rw [← String.toList_inj, toList_decodeString, toList_encodeString, decode_encode]
  · simp only [← String.toList_inj, String.toList_append, toList_encodeString, encode_append]
  · rw [← String.toList_inj, toList_encodeString, toList_decodeString, encode_decode_iff]

/-- In the legacy form a text is read as it was if and only if each run of backslashes before an `n`
or a line feed has an even length. -/
theorem survives_iff : decodeString true (encodeString true s) = s ↔ EvenRuns s.toList := by
  rw [← String.toList_inj, toList_decodeString, toList_encodeString, evenRuns_iff]

end Strings

end Stomp.Escape
