import Mathlib.Data.List.TakeWhile
import Mathlib.Tactic
import Stomp.Text.Numeral

/-!
# Decimal digits

The digits of a number read back as the number, as long as there are not too many of them
(`read_digits`), and different numbers have different digits (`digits_injective`).
-/

namespace Stomp.Numeral

theorem isDigit_of_mem_digits {n : Nat} {c : Char} (h : c ∈ digits n) : c.isDigit = true :=
  Nat.isDigit_of_mem_toDigits (by omega) (by omega) h

theorem digits_ne_nil (n : Nat) : digits n ≠ [] := Nat.toDigits_ne_nil

theorem digits_ne_empty (n : Nat) : String.ofList (digits n) ≠ "" :=
  fun h => digits_ne_nil n (String.ofList_eq_empty_iff.1 h)

theorem ofList_write_ne_empty (n : Int) : String.ofList (write n) ≠ "" := by
  unfold write
  split
  · exact fun h => List.cons_ne_nil _ _ (String.ofList_eq_empty_iff.1 h)
  · exact digits_ne_empty _

theorem digits_injective : Function.Injective digits := by
  intro m n h
  have hm : Nat.ofDigitChars 10 (digits m) 0 = m := Nat.ofDigitChars_ten_toDigits
  have hn : Nat.ofDigitChars 10 (digits n) 0 = n := Nat.ofDigitChars_ten_toDigits
  rw [← hm, h, hn]

theorem length_digits_le {n : Nat} (h : n < 10 ^ digitLimit) :
    (digits n).length ≤ digitLimit :=
  (Nat.length_toDigits_le_iff (by omega) (by decide)).2 h

theorem lt_length_digits {n : Nat} (h : 10 ^ digitLimit ≤ n) :
    digitLimit < (digits n).length := by
  rw [← Nat.not_le]
  exact fun hle => h.not_gt ((Nat.length_toDigits_le_iff (by omega) (by decide)).1 hle)

theorem toNat_of_isDigit {c : Char} (h : c.isDigit = true) : 48 ≤ c.toNat ∧ c.toNat ≤ 57 := by
  simp only [Char.isDigit, Bool.and_eq_true, decide_eq_true_eq] at h
  exact ⟨h.1, h.2⟩

theorem asciiDigit?_of_isDigit {c : Char} (h : c.isDigit = true) :
    asciiDigit? c = some (c.toNat - 48) := by
  have hc := toNat_of_isDigit h
  rw [asciiDigit?, if_pos hc]

theorem not_isBlank_of_isDigit {c : Char} (h : c.isDigit = true) :
    Alphabet.ascii.isBlank c = false := by
  have hc := toNat_of_isDigit h
  have hspace : c ≠ ' ' := by
    rintro rfl
    exact absurd hc.1 (by decide)
  simp only [Alphabet.ascii, Bool.or_eq_false_iff, decide_eq_false_iff_not, beq_eq_false_iff_ne]
  exact ⟨by omega, hspace⟩

theorem separated_true_of_isDigit {cs : List Char} (h : ∀ c ∈ cs, c.isDigit = true) :
    separated true cs = true := by
  induction cs with
  | nil => rfl
  | cons c cs ih =>
      have hc : c ≠ '_' := by
        rintro rfl
        exact absurd (h '_' (by simp)) (by decide)
      rw [separated]
      · exact ih fun d hd => h d (by simp [hd])
      · exact hc

theorem separated_false_of_isDigit {cs : List Char} (hne : cs ≠ [])
    (h : ∀ c ∈ cs, c.isDigit = true) : separated false cs = true := by
  obtain ⟨c, cs, rfl⟩ := List.exists_cons_of_ne_nil hne
  have hc : c ≠ '_' := by
    rintro rfl
    exact absurd (h '_' (by simp)) (by decide)
  rw [separated]
  · exact separated_true_of_isDigit fun d hd => h d (by simp [hd])
  · exact hc

theorem splitSign_of_isDigit {cs : List Char} (h : ∀ c ∈ cs, c.isDigit = true) :
    splitSign cs = (false, cs) := by
  cases cs with
  | nil => rfl
  | cons c cs =>
      have hc := h c (by simp)
      rw [splitSign]
      · rintro _ h
        injection h with h
        subst h
        exact absurd hc (by decide)
      · rintro _ h
        injection h with h
        subst h
        exact absurd hc (by decide)

theorem filterMap_asciiDigit? {cs : List Char} (h : ∀ c ∈ cs, c.isDigit = true) :
    cs.filterMap asciiDigit? = cs.map fun c => c.toNat - 48 := by
  induction cs with
  | nil => rfl
  | cons c cs ih =>
      rw [List.filterMap_cons_some (asciiDigit?_of_isDigit (h c (by simp))), List.map_cons,
        ih fun d hd => h d (by simp [hd])]

theorem ofDigits_map (cs : List Char) :
    ofDigits (cs.map fun c => c.toNat - 48) = Nat.ofDigitChars 10 cs 0 := by
  rw [ofDigits, List.foldl_map, Nat.ofDigitChars_eq_foldl]
  rfl

theorem read_digits {n : Nat} (h : n < 10 ^ digitLimit) :
    read .ascii (digits n) = .ok (n : Int) := by
  have hd : ∀ c ∈ digits n, c.isDigit = true := fun c => isDigit_of_mem_digits
  have hdrop : (digits n).dropWhile Alphabet.ascii.isBlank = digits n := by
    obtain ⟨c, cs, hcs⟩ := List.exists_cons_of_ne_nil (digits_ne_nil n)
    rw [hcs] at hd ⊢
    exact List.dropWhile_cons_of_neg (by simp [not_isBlank_of_isDigit (hd c (by simp))])
  have hspan : (digits n).span (fun c => (Alphabet.ascii.digit? c).isSome || c == '_') =
      (digits n, []) := by
    rw [List.span_eq_takeWhile_dropWhile, Prod.mk.injEq, List.takeWhile_eq_self_iff,
      List.dropWhile_eq_nil_iff, and_self]
    intro c hc
    simp [Alphabet.ascii, asciiDigit?_of_isDigit (hd c hc)]
  have hvalues : (digits n).filterMap Alphabet.ascii.digit? =
      (digits n).map fun c => c.toNat - 48 := filterMap_asciiDigit? hd
  have hlimit : ¬ digitLimit < (digits n).length := by
    have := length_digits_le h
    omega
  have hvalue : ofDigits ((digits n).map fun c => c.toNat - 48) = n := by
    rw [ofDigits_map]
    exact Nat.ofDigitChars_ten_toDigits
  simp only [read, hdrop, splitSign_of_isDigit hd, hspan, hvalues, List.length_map,
    separated_false_of_isDigit (digits_ne_nil n) hd, hlimit, hvalue, Bool.not_true, if_false,
    List.all_nil, Bool.false_eq_true]

end Stomp.Numeral
