import Mathlib.Data.List.TakeWhile
import Mathlib.Tactic
import Stomp.Text.Numeral

/-!
# Numerals in different alphabets

A text is read alike in two alphabets that agree on its characters (`read_congr`). The characters of
a numeral are blanks, signs, figures and underscores (`mark_of_read`), so a numeral in ASCII is one
of any script, with the same value (`read_unicode_of_ascii`).
-/

namespace Stomp.Numeral

theorem span_congr {α : Type} {p q : α → Bool} {l : List α} (h : ∀ x ∈ l, p x = q x) :
    l.span p = l.span q := by
  simp only [List.span_eq_takeWhile_dropWhile]
  induction l with
  | nil => rfl
  | cons x l ih =>
      obtain ⟨hx, hl⟩ := List.forall_mem_cons.1 h
      obtain ⟨htake, hdrop⟩ := Prod.mk.inj (ih hl)
      rw [List.takeWhile_cons, List.takeWhile_cons, List.dropWhile_cons, List.dropWhile_cons, hx,
        htake, hdrop]

theorem mem_splitSign_iff {cs : List Char} {c : Char} (hc : c ≠ '-' ∧ c ≠ '+') :
    c ∈ (splitSign cs).2 ↔ c ∈ cs := by
  unfold splitSign
  split
  · simp [hc.1]
  · simp [hc.2]
  · rfl

theorem mem_of_mem_splitSign {cs : List Char} {c : Char} (h : c ∈ (splitSign cs).2) : c ∈ cs := by
  unfold splitSign at h
  split at h
  · exact List.mem_cons_of_mem _ h
  · exact List.mem_cons_of_mem _ h
  · exact h

def splitFigures (a : Alphabet) (text : List Char) : List Char × List Char :=
  (splitSign (text.dropWhile a.isBlank)).2.span fun c => (a.digit? c).isSome || c == '_'

theorem splitFigures_append (a : Alphabet) (text : List Char) :
    (splitFigures a text).1 ++ (splitFigures a text).2 =
      (splitSign (text.dropWhile a.isBlank)).2 := by
  rw [splitFigures, List.span_eq_takeWhile_dropWhile]
  exact List.takeWhile_append_dropWhile

theorem mem_of_mem_splitFigures {a : Alphabet} {text : List Char} {c : Char}
    (h : c ∈ (splitFigures a text).1 ∨ c ∈ (splitFigures a text).2) : c ∈ text := by
  rw [← List.mem_append, splitFigures_append] at h
  exact (List.dropWhile_sublist _).subset (mem_of_mem_splitSign h)

theorem read_congr {a b : Alphabet} {text : List Char}
    (h : ∀ c ∈ text, a.isBlank c = b.isBlank c ∧ a.digit? c = b.digit? c) :
    read a text = read b text := by
  have hblank : text.dropWhile a.isBlank = text.dropWhile b.isBlank := by
    have hspan := span_congr fun c hc => (h c hc).1
    rw [List.span_eq_takeWhile_dropWhile, List.span_eq_takeWhile_dropWhile] at hspan
    exact (Prod.mk.inj hspan).2
  have hsplit : splitFigures a text = splitFigures b text := by
    rw [splitFigures, splitFigures, hblank]
    apply span_congr
    intro c hc
    rw [(h c ((List.dropWhile_sublist _).subset (mem_of_mem_splitSign hc))).2]
  have hfigures : (splitFigures b text).1.filterMap a.digit? =
      (splitFigures b text).1.filterMap b.digit? :=
    List.filterMap_congr fun c hc => (h c (mem_of_mem_splitFigures (Or.inl hc))).2
  have hrest : (splitFigures b text).2.all a.isBlank = (splitFigures b text).2.all b.isBlank := by
    rw [Bool.eq_iff_iff, List.all_eq_true, List.all_eq_true]
    refine forall₂_congr fun c hc => ?_
    rw [(h c (mem_of_mem_splitFigures (Or.inr hc))).1]
  unfold splitFigures at hsplit hfigures hrest
  simp only [read, hblank] at hsplit ⊢
  simp only [hsplit, hfigures, hrest]

def Mark (a : Alphabet) (c : Char) : Prop :=
  a.isBlank c = true ∨ (c = '-' ∨ c = '+') ∨ (a.digit? c).isSome = true ∨ c = '_'

theorem blank_of_read {a : Alphabet} {text : List Char} {n : Int} (h : read a text = .ok n) :
    ∀ c ∈ (splitFigures a text).2, a.isBlank c = true := by
  unfold read at h
  dsimp only at h
  rw [← splitFigures] at h
  split_ifs at h with hseparated hlimit hrest
  all_goals simpa using hrest

theorem mark_of_read {a : Alphabet} {text : List Char} {n : Int} (h : read a text = .ok n) :
    ∀ c ∈ text, Mark a c := by
  intro c hc
  rw [← List.takeWhile_append_dropWhile (p := a.isBlank) (l := text), List.mem_append] at hc
  rcases hc with hc | hc
  · exact Or.inl (List.mem_takeWhile_imp hc)
  by_cases hsign : c = '-' ∨ c = '+'
  · exact Or.inr (Or.inl hsign)
  rw [← mem_splitSign_iff (not_or.1 hsign), ← splitFigures_append, List.mem_append] at hc
  rcases hc with hc | hc
  · rw [splitFigures, List.span_eq_takeWhile_dropWhile] at hc
    have hfigure := List.mem_takeWhile_imp hc
    rw [Bool.or_eq_true, beq_iff_eq] at hfigure
    exact Or.inr (Or.inr hfigure)
  · exact Or.inl (blank_of_read h c hc)

theorem find?_zeros {n : Nat} (hn : n < 0x80) :
    zeros.find? (fun z => decide (z ≤ n ∧ n < z + 10)) =
      if 0x30 ≤ n ∧ n ≤ 0x39 then some 0x30 else none := by
  have hothers : ∀ z ∈ zeros.tail, 0x80 ≤ z := by decide
  have hnone : zeros.tail.find? (fun z => decide (z ≤ n ∧ n < z + 10)) = none := by
    rw [List.find?_eq_none]
    intro z hz
    have hle := hothers z hz
    rw [decide_eq_true_iff]
    omega
  have hcons : zeros = 0x30 :: zeros.tail := rfl
  rw [hcons, List.find?_cons, hnone]
  by_cases hdigit : 0x30 ≤ n ∧ n ≤ 0x39
  · rw [if_pos hdigit, decide_eq_true (by omega)]
  · rw [if_neg hdigit, decide_eq_false (by omega)]

theorem unicode_eq_ascii {c : Char} (hc : c.toNat < 0x80) :
    Alphabet.ascii.isBlank c = Alphabet.unicode.isBlank c ∧
      Alphabet.ascii.digit? c = Alphabet.unicode.digit? c := by
  have hwide : ∀ n ∈ wideBlanks, 0x80 ≤ n := by decide
  have hblank : wideBlanks.contains c.toNat = false := by
    rw [List.contains_eq_mem, decide_eq_false_iff_not]
    exact fun hmem => absurd (hwide _ hmem) (by omega)
  constructor
  · simp only [Alphabet.unicode, hblank, Bool.or_false]
  · simp only [Alphabet.ascii, Alphabet.unicode, asciiDigit?, find?_zeros hc]
    split_ifs <;> rfl

theorem ascii_of_mark {c : Char} (h : Mark .ascii c) : c.toNat < 0x80 ∧ c ≠ '\\' := by
  have hblank (hc : Alphabet.ascii.isBlank c = true) : c.toNat ≤ 0x20 := by
    simp only [Alphabet.ascii, Bool.or_eq_true, decide_eq_true_eq, beq_iff_eq] at hc
    rcases hc with hc | rfl
    · omega
    · decide
  have hdigit (hc : (asciiDigit? c).isSome = true) : c.toNat ≤ 0x39 := by
    unfold asciiDigit? at hc
    split at hc
    · omega
    · cases hc
  have hne (hc : c.toNat ≤ 0x39) : c.toNat < 0x80 ∧ c ≠ '\\' := by
    refine ⟨by omega, ?_⟩
    rintro rfl
    exact absurd hc (by decide)
  rcases h with hc | (rfl | rfl) | hc | rfl
  · exact hne ((hblank hc).trans (by decide))
  · decide
  · decide
  · exact hne (hdigit hc)
  · decide

/-- A numeral in ASCII has its value in any script, and no character that is escaped. -/
theorem read_unicode_of_ascii {text : List Char} {n : Int} (h : read .ascii text = .ok n) :
    read .unicode text = .ok n ∧ ∀ c ∈ text, c.toNat < 0x80 ∧ c ≠ '\\' := by
  have hall : ∀ c ∈ text, c.toNat < 0x80 ∧ c ≠ '\\' := fun c hc =>
    ascii_of_mark (mark_of_read h c hc)
  rw [← read_congr fun c hc => unicode_eq_ascii (hall c hc).1]
  exact ⟨h, hall⟩

end Stomp.Numeral
