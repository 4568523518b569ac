import Stomp.Json.Reader
import Stomp.Json.Writer
import Stomp.Proofs.Text.Numeral

/-!
# Integers in JSON

An integer that does not have too many digits is read back, if what follows it is the end of the
text or closes a value (`readNumber_write`). With more digits it is refused (`readNumber_overlong`).
-/

namespace Stomp

namespace Numeral

theorem head?_digits_ne {n : Nat} (h : 0 < n) : (digits n).head? ≠ some '0' := by
  induction n using Nat.strong_induction_on with
  | _ n ih =>
      by_cases hn : n < 10
      · have hdigit : digits n = [n.digitChar] := Nat.toDigits_of_lt_base hn
        have hall : ∀ d < 10, 0 < d → [Nat.digitChar d].head? ≠ some '0' := by decide
        rw [hdigit]
        exact hall n hn h
      · have hstep : digits n = digits (n / 10) ++ [(n % 10).digitChar] :=
          Nat.toDigits_of_base_le (by omega) (by omega)
        rw [hstep, List.head?_append_of_ne_nil _ (digits_ne_nil _)]
        exact ih (n / 10) (by omega) (by omega)

end Numeral

namespace Json

/-- What can stand after a value: the end of the text, a comma, or a closing bracket or brace. -/
def Closes (rest : List Char) : Prop := ∀ c ∈ rest.head?, c = ',' ∨ c = ']' ∨ c = '\x7d'

theorem closes_nil : Closes [] := by simp [Closes]

theorem Closes.not_isDigit {rest : List Char} (h : Closes rest) :
    ∀ c ∈ rest.head?, isDigit c = false := by
  intro c hc
  rcases h c hc with rfl | rfl | rfl <;> decide

theorem isDigit_of_mem_digits {n : Nat} {c : Char} (h : c ∈ Numeral.digits n) :
    isDigit c = true := by
  have hc := Numeral.toNat_of_isDigit (Numeral.isDigit_of_mem_digits h)
  simp [isDigit, hc]

theorem span_digits {cs rest : List Char} (hcs : ∀ c ∈ cs, isDigit c = true)
    (hrest : ∀ c ∈ rest.head?, isDigit c = false) :
    (cs ++ rest).span isDigit = (cs, rest) := by
  rw [List.span_eq_takeWhile_dropWhile, List.takeWhile_append_of_pos hcs,
    List.dropWhile_append_of_pos hcs]
  cases rest with
  | nil => simp
  | cons c rest =>
      have hc : isDigit c = false := hrest c (by simp)
      simp [hc]

theorem splitWhole_digits (n : Nat) {rest : List Char} (h : Closes rest) :
    splitWhole (Numeral.digits n ++ rest) = (Numeral.digits n, rest) := by
  by_cases hn : n = 0
  · subst hn
    rfl
  · have hhead := Numeral.head?_digits_ne (Nat.pos_of_ne_zero hn)
    have hspan := span_digits (fun c => isDigit_of_mem_digits (n := n)) h.not_isDigit
    obtain ⟨c, cs, hcs⟩ := List.exists_cons_of_ne_nil (Numeral.digits_ne_nil n)
    rw [hcs] at hhead hspan ⊢
    rw [List.cons_append] at hspan ⊢
    rw [splitWhole]
    · exact hspan
    · intro r hc
      injection hc with hc
      subst hc
      exact hhead rfl

theorem splitFraction_of_closes {rest : List Char} (h : Closes rest) :
    splitFraction rest = (none, rest) := by
  cases rest with
  | nil => rfl
  | cons c rest => rcases h c (by simp) with rfl | rfl | rfl <;> rfl

theorem splitExponent_of_closes {rest : List Char} (h : Closes rest) :
    splitExponent rest = (none, rest) := by
  cases rest with
  | nil => rfl
  | cons c rest => rcases h c (by simp) with rfl | rfl | rfl <;> rfl

theorem ofDigits_digitsOf (n : Nat) : Numeral.ofDigits (digitsOf (Numeral.digits n)) = n := by
  rw [digitsOf, Numeral.ofDigits_map]
  exact Nat.ofDigitChars_ten_toDigits

theorem readNumber_digits (n : Nat) {rest : List Char} (hrest : Closes rest) :
    readNumber (Numeral.digits n ++ rest) =
        (if Numeral.digitLimit < (Numeral.digits n).length then
          .error (.tooManyDigits (Numeral.digits n).length)
        else .ok (.int n, rest)) ∧
      readNumber ('-' :: (Numeral.digits n ++ rest)) =
        (if Numeral.digitLimit < (Numeral.digits n).length then
          .error (.tooManyDigits (Numeral.digits n).length)
        else .ok (.int (-n), rest)) := by
  have hwhole := splitWhole_digits n hrest
  have hsign : ∀ r, Numeral.digits n ++ rest ≠ '-' :: r := by
    intro r hr
    obtain ⟨c, cs, hcs⟩ := List.exists_cons_of_ne_nil (Numeral.digits_ne_nil n)
    have hc : isDigit c = true := isDigit_of_mem_digits (n := n) (by simp [hcs])
    rw [hcs, List.cons_append] at hr
    rw [(List.cons.inj hr).1] at hc
    exact absurd hc (by decide)
  have hvalue := ofDigits_digitsOf n
  obtain ⟨c, cs, hcs⟩ := List.exists_cons_of_ne_nil (Numeral.digits_ne_nil n)
  rw [hcs] at hwhole hvalue hsign ⊢
  constructor
  · rw [readNumber]
    · simp only [hwhole, splitFraction_of_closes hrest, splitExponent_of_closes hrest,
        hvalue, Bool.false_eq_true, if_false]
    · exact hsign
  · rw [readNumber]
    simp only [hwhole, splitFraction_of_closes hrest, splitExponent_of_closes hrest,
      hvalue, if_true]

theorem readNumber_write {n : Int} (h : n.natAbs < 10 ^ Numeral.digitLimit) {rest : List Char}
    (hrest : Closes rest) : readNumber (Numeral.write n ++ rest) = .ok (.int n, rest) := by
  obtain ⟨hplus, hminus⟩ := readNumber_digits n.natAbs hrest
  have hlimit : ¬ Numeral.digitLimit < (Numeral.digits n.natAbs).length := by
    have := Numeral.length_digits_le h
    omega
  rw [if_neg hlimit] at hplus hminus
  rw [Numeral.write]
  split
  · have hn : -(n.natAbs : Int) = n := by omega
    rw [List.cons_append, hminus, hn]
  · have hn : (n.natAbs : Int) = n := by omega
    rw [hplus, hn]

theorem readNumber_overlong {n : Int} (h : 10 ^ Numeral.digitLimit ≤ n.natAbs) {rest : List Char}
    (hrest : Closes rest) :
    readNumber (Numeral.write n ++ rest) =
      .error (.tooManyDigits (Numeral.digits n.natAbs).length) := by
  obtain ⟨hplus, hminus⟩ := readNumber_digits n.natAbs hrest
  have hlimit := Numeral.lt_length_digits h
  rw [if_pos hlimit] at hplus hminus
  rw [Numeral.write]
  split
  · rw [List.cons_append, hminus]
  · rw [hplus]

end Json

end Stomp
