import Stomp.Proofs.Parser.Feeding

/-!
# Heads made of lines

A head ends at the first blank line after its lines (`splitHead?_block`). Its lines are parted at
the line feeds between them, and each but the last loses one carriage return at its end
(`splitLines_block`). So lines without line ends are read as they are written (`splitLines_lines`).
Lines whose names differ all count (`firstOfEachName_eq`).
-/

namespace Stomp

namespace Parser

/-- A line that does not read as blank. It may hold carriage returns, but is more than one. -/
structure Fills (line : Bytes) : Prop where
  ne_nil : line ≠ []
  ne_return : line ≠ [13]
  no_feed : 10 ∉ line

def IsLine (line : Bytes) : Prop := line ≠ [] ∧ ∀ b ∈ line, b ≠ 13 ∧ b ≠ 10

theorem IsLine.no_return {line : Bytes} (h : IsLine line) : 13 ∉ line :=
  fun hb => (h.2 13 hb).1 rfl

theorem IsLine.fills {line : Bytes} (h : IsLine line) : Fills line where
  ne_nil := h.1
  ne_return := by
    rintro rfl
    exact h.no_return List.mem_cons_self
  no_feed hb := (h.2 10 hb).2 rfl

def block (line : Bytes) (lines : List Bytes) : Bytes := line ++ lines.flatMap (10 :: ·)

theorem block_cons (line next : Bytes) (lines : List Bytes) :
    block line (next :: lines) = line ++ 10 :: block next lines := by
  simp [block]

theorem splitHead?_line {line : Bytes} (h : 10 ∉ line) {tail : Bytes}
    (htail : ∀ rest, tail ≠ 10 :: 13 :: 10 :: rest) :
    splitHead? (line ++ tail) = (splitHead? tail).map fun p => (line ++ p.1, p.2) := by
  induction line with
  | nil => simp
  | cons b line ih =>
      rw [List.mem_cons, not_or] at h
      have hcr : ∀ rest, b :: (line ++ tail) ≠ 13 :: 10 :: 13 :: 10 :: rest := by
        intro rest heq
        have hline := (List.cons.inj heq).2
        cases line with
        | nil => exact htail rest hline
        | cons c line =>
            have hc : c = 10 := (List.cons.inj hline).1
            exact h.2 (hc ▸ List.mem_cons_self)
      have hlf : ∀ rest, b :: (line ++ tail) ≠ 10 :: 10 :: rest :=
        fun rest heq => h.1 (List.cons.inj heq).1.symm
      rw [List.cons_append, splitHead?_cons hcr hlf, ih h.2, Option.map_map]
      rfl

theorem Fills.not_blank {line : Bytes} (h : Fills line) (tail rest : Bytes) :
    line ++ tail ≠ 13 :: 10 :: rest ∧ line ++ tail ≠ 10 :: rest := by
  obtain ⟨b, line, rfl⟩ := List.exists_cons_of_ne_nil h.ne_nil
  constructor
  · intro heq
    obtain ⟨rfl, hline⟩ := List.cons.inj heq
    cases line with
    | nil => exact h.ne_return rfl
    | cons c line =>
        have hc : c = 10 := (List.cons.inj hline).1
        exact h.no_feed (hc ▸ List.mem_cons_of_mem 13 List.mem_cons_self)
  · intro heq
    have hb : b = 10 := (List.cons.inj heq).1
    exact h.no_feed (hb ▸ List.mem_cons_self)

theorem Fills.block_not_blank {line : Bytes} (h : Fills line) (lines : List Bytes)
    (tail rest : Bytes) :
    block line lines ++ tail ≠ 13 :: 10 :: rest ∧ block line lines ++ tail ≠ 10 :: rest := by
  rw [block, List.append_assoc]
  exact h.not_blank _ rest

theorem splitHead?_block_append {line : Bytes} {lines : List Bytes} (h : 10 ∉ line)
    (hs : ∀ l ∈ lines, Fills l) {tail after : Bytes} (htail : ∀ rest, tail ≠ 10 :: 13 :: 10 :: rest)
    (hstop : splitHead? tail = some ([], after)) :
    splitHead? (block line lines ++ tail) = some (block line lines, after) := by
  induction lines generalizing line with
  | nil =>
      rw [block, List.flatMap_nil, List.append_nil, splitHead?_line h htail, hstop]
      simp
  | cons next lines ih =>
      obtain ⟨hnext, hlines⟩ := List.forall_mem_cons.1 hs
      have hblank := hnext.block_not_blank lines tail
      have hcr : ∀ r, 10 :: (block next lines ++ tail) ≠ 10 :: 13 :: 10 :: r :=
        fun r heq => (hblank r).1 (List.cons.inj heq).2
      have hlf : ∀ r, 10 :: (block next lines ++ tail) ≠ 10 :: 10 :: r :=
        fun r heq => (hblank r).2 (List.cons.inj heq).2
      rw [block_cons, List.append_assoc, List.cons_append, splitHead?_line h hcr,
        splitHead?_cons _ hlf, ih hnext.no_feed hlines]
      · simp
      · intro r heq
        exact absurd (List.cons.inj heq).1 (by decide)

/-- The head of lines ends at the blank line after them, whatever follows. -/
theorem splitHead?_block {line : Bytes} {lines : List Bytes} (h : 10 ∉ line)
    (hs : ∀ l ∈ lines, Fills l) (rest : Bytes) :
    splitHead? (block line lines ++ 10 :: 10 :: rest) = some (block line lines, rest) := by
  apply splitHead?_block_append h hs
  · intro r heq
    exact absurd (List.cons.inj (List.cons.inj heq).2).1 (by decide)
  · rw [splitHead?]

end Parser

namespace Head

open Stomp.Parser (IsLine Fills block block_cons)

/-- A line without the carriage return at its end, if it has one. -/
def chomp (line : Bytes) : Bytes := if line.getLast? = some 13 then line.dropLast else line

theorem chomp_eq_self {line : Bytes} (h : 13 ∉ line) : chomp line = line :=
  if_neg fun hlast => h (List.mem_of_getLast? hlast)

theorem chomp_cons {b : UInt8} {line : Bytes} (h : b :: line ≠ [13]) :
    chomp (b :: line) = b :: chomp line := by
  cases line with
  | nil =>
      have hb : 13 ∉ [b] := fun hmem => h (by rw [List.mem_singleton.1 hmem])
      rw [chomp_eq_self hb]
      rfl
  | cons c line =>
      unfold chomp
      rw [List.getLast?_cons_cons, List.dropLast_cons_cons]
      split <;> rfl

/-- The lines that are read of lines written one after the other. -/
def parted : List Bytes → List Bytes
  | [] => []
  | [line] => [line]
  | line :: next :: lines => chomp line :: parted (next :: lines)

theorem parted_eq_self {lines : List Bytes} (h : ∀ l ∈ lines, 13 ∉ l) : parted lines = lines := by
  fun_induction parted lines with
  | case1 => rfl
  | case2 line => rfl
  | case3 line next lines ih =>
      obtain ⟨hline, hlines⟩ := List.forall_mem_cons.1 h
      rw [chomp_eq_self hline, ih hlines]

theorem splitLines_cons {b : UInt8} {bs : Bytes} (hcr : ∀ rest, b :: bs ≠ 13 :: 10 :: rest)
    (hlf : b ≠ 10) {line : Bytes} {lines : List Bytes} (h : splitLines false bs = line :: lines) :
    splitLines false (b :: bs) = (b :: line) :: lines := by
  rw [splitLines]
  · rw [h]
  · intro rest hb hbs
    exact hcr rest (by rw [hb, hbs])
  · exact hlf

theorem splitLines_afterEnd {bs : Bytes} (hcr : ∀ rest, bs ≠ 13 :: 10 :: rest)
    (hlf : ∀ rest, bs ≠ 10 :: rest) : splitLines true bs = splitLines false bs := by
  cases bs with
  | nil => rfl
  | cons b bs =>
      have hcr' : ∀ rest, b = 13 → bs ≠ 10 :: rest :=
        fun rest hb hbs => hcr rest (by rw [hb, hbs])
      have hlf' : b ≠ 10 := fun hb => hlf bs (by rw [hb])
      rw [splitLines, splitLines]
      all_goals assumption

theorem splitLines_line {line : Bytes} (h : 10 ∉ line) : splitLines false line = [line] := by
  induction line with
  | nil => rfl
  | cons b line ih =>
      have hcr : ∀ rest, b :: line ≠ 13 :: 10 :: rest := by
        intro rest heq
        rw [heq] at h
        simp at h
      rw [List.mem_cons, not_or] at h
      exact splitLines_cons hcr (Ne.symm h.1) (ih h.2)

theorem splitLines_append {line : Bytes} (h : 10 ∉ line) (tail : Bytes) :
    splitLines false (line ++ 10 :: tail) = chomp line :: splitLines true tail := by
  induction line with
  | nil =>
      rw [List.nil_append, splitLines]
      rfl
  | cons b line ih =>
      by_cases hreturn : b :: line = [13]
      · rw [hreturn, List.singleton_append, splitLines]
        rfl
      · have hcr : ∀ rest, b :: (line ++ 10 :: tail) ≠ 13 :: 10 :: rest :=
          fun rest => ((Fills.mk (List.cons_ne_nil b line) hreturn h).not_blank _ rest).1
        rw [List.mem_cons, not_or] at h
        rw [List.cons_append, splitLines_cons hcr (Ne.symm h.1) (ih h.2), chomp_cons hreturn]

theorem splitLines_block {line : Bytes} {lines : List Bytes} (h : 10 ∉ line)
    (hs : ∀ l ∈ lines, Fills l) :
    splitLines false (block line lines) = parted (line :: lines) := by
  induction lines generalizing line with
  | nil =>
      rw [block, List.flatMap_nil, List.append_nil]
      exact splitLines_line h
  | cons next lines ih =>
      obtain ⟨hnext, hlines⟩ := List.forall_mem_cons.1 hs
      have hblank := hnext.block_not_blank lines []
      rw [List.append_nil] at hblank
      rw [block_cons, splitLines_append h,
        splitLines_afterEnd (fun rest => (hblank rest).1) (fun rest => (hblank rest).2),
        ih hnext.no_feed hlines]
      rfl

theorem splitLines_lines {line : Bytes} {lines : List Bytes} (h : IsLine line)
    (hs : ∀ l ∈ lines, IsLine l) : splitLines false (block line lines) = line :: lines := by
  rw [splitLines_block h.fills.no_feed fun l hl => (hs l hl).fills]
  exact parted_eq_self (List.forall_mem_cons.2 ⟨h.no_return, fun l hl => (hs l hl).no_return⟩)

/-! ## Names and values -/

theorem span_colon {name : Bytes} (h : 58 ∉ name) (tail : Bytes)
    (htail : ∀ b ∈ tail.head?, b = 58) :
    (name ++ tail).span (· ≠ 58) = (name, tail) := by
  have hname : ∀ b ∈ name, decide (b ≠ 58) = true := by
    intro b hb
    simp only [decide_eq_true_eq]
    rintro rfl
    exact h hb
  rw [List.span_eq_takeWhile_dropWhile, List.takeWhile_append_of_pos hname,
    List.dropWhile_append_of_pos hname]
  cases tail with
  | nil => simp
  | cons b tail =>
      obtain rfl : b = 58 := htail b (by simp)
      simp

theorem splitHeader_colon {name : Bytes} (h : 58 ∉ name) (value : Bytes) :
    splitHeader (name ++ 58 :: value) = (name, some value) := by
  rw [splitHeader, span_colon h _ (by simp)]

theorem splitHeader_bare {name : Bytes} (h : 58 ∉ name) : splitHeader name = (name, none) := by
  have hspan := span_colon h [] (by simp)
  rw [List.append_nil] at hspan
  rw [splitHeader, hspan]

theorem firstOfEachName_sublist (seen : List Bytes) (lines : List (Bytes × Option Bytes)) :
    (firstOfEachName seen lines).Sublist lines := by
  fun_induction firstOfEachName seen lines with
  | case1 => exact List.Sublist.refl _
  | case2 seen l rest hseen ih => exact ih.cons l
  | case3 seen l rest hseen ih => exact ih.cons_cons l

theorem firstOfEachName_eq {seen : List Bytes} {lines : List (Bytes × Option Bytes)}
    (hnodup : (lines.map Prod.fst).Nodup) (hseen : ∀ l ∈ lines, l.1 ∉ seen) :
    firstOfEachName seen lines = lines := by
  induction lines generalizing seen with
  | nil => rfl
  | cons l lines ih =>
      rw [List.map_cons, List.nodup_cons] at hnodup
      rw [firstOfEachName, if_neg (hseen l (by simp)), ih hnodup.2]
      intro m hm
      rw [List.mem_cons, not_or]
      refine ⟨?_, hseen m (by simp [hm])⟩
      intro heq
      exact hnodup.1 (heq ▸ List.mem_map_of_mem hm)

end Head

end Stomp
