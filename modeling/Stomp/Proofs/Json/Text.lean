import Mathlib.Tactic
import Stomp.Json.Reader
import Stomp.Json.Writer
import Stomp.Proofs.Text.Utf8

/-!
# Texts in JSON

A text is written character by character and read code by code: a character beyond U+FFFF makes two
halves of a pair, which are joined again (`joinHalves_codes`). So what is written of a text reads
back as the text, up to the closing quote (`readText_written`). It is printable ASCII.
-/

namespace Stomp

namespace Hex

theorem value?_digit {d : Nat} (h : d < 16) : value? (digit d) = some d := by
  revert d
  decide

theorem printable_digit {d : Nat} (h : d < 16) :
    0x20 ≤ (digit d).toNat ∧ (digit d).toNat ≤ 0x7E := by
  revert d
  decide

theorem digits_four (n : Nat) :
    digits 4 n =
      [digit (n / 4096 % 16), digit (n / 256 % 16), digit (n / 16 % 16), digit (n % 16)] := by
  simp [digits, Nat.div_div_eq_div_mul]

theorem value4?_digits {n : Nat} (h : n < 0x10000) :
    value4? (digit (n / 4096 % 16)) (digit (n / 256 % 16)) (digit (n / 16 % 16)) (digit (n % 16)) =
      some n := by
  have hlt : ∀ m, m % 16 < 16 := fun m => Nat.mod_lt m (by omega)
  simp only [value4?, value?_digit (hlt _), Option.some.injEq]
  omega

end Hex

namespace Json

def Printable (c : Char) : Prop := 0x20 ≤ c.toNat ∧ c.toNat ≤ 0x7E

instance (c : Char) : Decidable (Printable c) :=
  inferInstanceAs (Decidable (0x20 ≤ c.toNat ∧ c.toNat ≤ 0x7E))

theorem printable_of_all {cs : List Char} (h : cs.all (fun c => decide (Printable c)) = true) :
    ∀ c ∈ cs, Printable c :=
  fun c hc => of_decide_eq_true (List.all_eq_true.1 h c hc)

/-- The codes of a character: its number, or the two halves of a pair. -/
def codes (c : Char) : List Nat :=
  if c.toNat < 0x10000 then [c.toNat]
  else [0xD800 + (c.toNat - 0x10000) / 1024, 0xDC00 + (c.toNat - 0x10000) % 1024]

/-! ## Reading codes -/

theorem readCodes_codeUnit {n : Nat} (h : n < 0x10000) (start rest : List Char) :
    readCodes start (codeUnit n ++ rest) = consCode n (readCodes start rest) := by
  rw [codeUnit, Hex.digits_four]
  simp only [List.cons_append, List.nil_append]
  rw [readCodes, Hex.value4?_digits h]

theorem readCodes_escaped {c x : Char} (hu : c ≠ 'u') (hx : escaped? c = some x)
    (start rest : List Char) :
    readCodes start ('\\' :: c :: rest) = consCode x.toNat (readCodes start rest) := by
  rw [readCodes]
  · rw [hx]
  · intro a b d e rest hc
    exact absurd hc hu
  · exact fun hc => hu hc

theorem readCodes_plain {c : Char} (hquote : c ≠ '"') (hslash : c ≠ '\\') (h : 0x20 ≤ c.toNat)
    (start rest : List Char) :
    readCodes start (c :: rest) = consCode c.toNat (readCodes start rest) := by
  rw [readCodes]
  · rw [if_neg (by omega)]
  all_goals simp [hquote, hslash]

theorem readCodes_escapeChar (c : Char) (start rest : List Char) :
    readCodes start (escapeChar c ++ rest) = (codes c).foldr consCode (readCodes start rest) := by
  have hc := Utf8.toNat_lt_or c
  have hsmall : c.toNat < 0x10000 → codes c = [c.toNat] := fun h => if_pos h
  have hnamed : ∀ {d x : Char}, d ≠ 'u' → escaped? d = some x → x.toNat = c.toNat →
      c.toNat < 0x10000 →
      readCodes start (['\\', d] ++ rest) = (codes c).foldr consCode (readCodes start rest) := by
    intro d x hu hx hcode h
    rw [hsmall h, List.cons_append, List.cons_append, List.nil_append, readCodes_escaped hu hx,
      hcode]
    rfl
  unfold escapeChar
  dsimp only
  split_ifs with h1 h2 h3 h4 h5 h6 h7 h8
  · rcases h1 with rfl | rfl
    · exact hnamed (by decide) rfl rfl (by decide)
    · exact hnamed (by decide) rfl rfl (by decide)
  · exact hnamed (x := '\x08') (by decide) rfl h2.symm (by omega)
  · exact hnamed (x := '\t') (by decide) rfl h3.symm (by omega)
  · exact hnamed (x := '\n') (by decide) rfl h4.symm (by omega)
  · exact hnamed (x := '\x0c') (by decide) rfl h5.symm (by omega)
  · exact hnamed (x := '\r') (by decide) rfl h6.symm (by omega)
  · rw [not_or] at h1
    rw [hsmall (by omega), List.singleton_append, readCodes_plain h1.1 h1.2 h7.1]
    rfl
  · rw [hsmall h8, readCodes_codeUnit h8]
    rfl
  · rw [codes, if_neg h8, List.append_assoc, readCodes_codeUnit (by omega),
      readCodes_codeUnit (by omega)]
    rfl

theorem foldr_consCode (ns ms : List Nat) (rest : List Char) :
    ns.foldr consCode (.ok (ms, rest)) = .ok (ns ++ ms, rest) := by
  induction ns with
  | nil => rfl
  | cons n ns ih => rw [List.foldr_cons, ih, List.cons_append, consCode]

theorem readCodes_flatMap (cs : List Char) (start rest : List Char) :
    readCodes start (cs.flatMap escapeChar ++ '"' :: rest) = .ok (cs.flatMap codes, rest) := by
  induction cs with
  | nil => rw [List.flatMap_nil, List.nil_append, readCodes, List.flatMap_nil]
  | cons c cs ih =>
      rw [List.flatMap_cons, List.append_assoc, readCodes_escapeChar, ih, foldr_consCode,
        List.flatMap_cons]

/-! ## Joining halves -/

theorem joinHalves_single {n : Nat} (h : n < 0xD800 ∨ 0xDFFF < n) (ns : List Nat) :
    joinHalves (n :: ns) = Char.ofNat n :: joinHalves ns := by
  cases ns with
  | nil => simp only [joinHalves, if_neg (show ¬ (0xD800 ≤ n ∧ n ≤ 0xDFFF) by omega)]
  | cons m ns => rw [joinHalves, if_neg (by omega), if_neg (by omega)]

theorem joinHalves_pair {n : Nat} (hlow : 0x10000 ≤ n) (hhigh : n < 0x110000) (ns : List Nat) :
    joinHalves ((0xD800 + (n - 0x10000) / 1024) :: (0xDC00 + (n - 0x10000) % 1024) :: ns) =
      Char.ofNat n :: joinHalves ns := by
  have hjoined : 0x10000 + (0xD800 + (n - 0x10000) / 1024 - 0xD800) * 1024 +
      (0xDC00 + (n - 0x10000) % 1024 - 0xDC00) = n := by omega
  rw [joinHalves, if_pos (by omega), hjoined]

theorem joinHalves_codes (cs : List Char) : joinHalves (cs.flatMap codes) = cs := by
  induction cs with
  | nil => rfl
  | cons c cs ih =>
      have hc := Utf8.toNat_lt_or c
      rw [List.flatMap_cons, codes]
      split_ifs with h
      · rw [List.singleton_append, joinHalves_single (by omega), ih, Char.ofNat_toNat]
      · rw [List.cons_append, List.singleton_append, joinHalves_pair (by omega) (by omega), ih,
          Char.ofNat_toNat]

theorem readText_written (s : String) (start rest : List Char) :
    readText start (s.toList.flatMap escapeChar ++ '"' :: rest) = .ok (s, rest) := by
  rw [readText, readCodes_flatMap]
  simp only [joinHalves_codes, String.ofList_toList]

/-! ## What is written -/

theorem printable_codeUnit (n : Nat) : ∀ c ∈ codeUnit n, Printable c := by
  have hlt : ∀ m, m % 16 < 16 := fun m => Nat.mod_lt m (by omega)
  intro c hc
  rw [codeUnit, Hex.digits_four] at hc
  simp only [List.mem_cons, List.not_mem_nil, or_false] at hc
  rcases hc with rfl | rfl | rfl | rfl | rfl | rfl
  · decide
  · decide
  all_goals exact Hex.printable_digit (hlt _)

theorem printable_escapeChar (c : Char) : ∀ x ∈ escapeChar c, Printable x := by
  have hnamed : ∀ d : Char, Printable d → ∀ x ∈ ['\\', d], Printable x := by
    intro d hd x hx
    simp only [List.mem_cons, List.not_mem_nil, or_false] at hx
    rcases hx with rfl | rfl
    · decide
    · exact hd
  unfold escapeChar
  dsimp only
  split_ifs with h1 h2 h3 h4 h5 h6 h7 h8
  · refine hnamed c ?_
    rcases h1 with rfl | rfl <;> decide
  · exact hnamed 'b' (by decide)
  · exact hnamed 't' (by decide)
  · exact hnamed 'n' (by decide)
  · exact hnamed 'f' (by decide)
  · exact hnamed 'r' (by decide)
  · intro x hx
    obtain rfl := List.mem_singleton.1 hx
    exact h7
  · exact printable_codeUnit _
  · intro x hx
    exact (List.mem_append.1 hx).elim (printable_codeUnit _ x) (printable_codeUnit _ x)

theorem printable_writeText (s : String) : ∀ c ∈ writeText s, Printable c := by
  intro c hc
  rw [writeText, List.mem_append, List.mem_cons, List.mem_flatMap, List.mem_singleton] at hc
  rcases hc with (rfl | ⟨d, -, hd⟩) | rfl
  · decide
  · exact printable_escapeChar d c hd
  · decide

end Json

end Stomp
