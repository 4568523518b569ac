import Mathlib.Tactic
import Stomp.Text.Utf8

/-!
# Texts as bytes, and back

The bytes of a text read back as the text (`decode_encode`), so different texts have different
bytes. A byte below 0x80 stands for the character of that number and for nothing else
(`ofNat_mem_of_mem_encode`), which is why a text can be searched for line ends and colons after it
was encoded.
-/

namespace Stomp.Utf8

theorem toNat_octet {n : Nat} (h : n < 256) : (octet n).toNat = n := by
  rw [octet, UInt8.toNat_ofNat_of_lt' h]

theorem toNat_lt_or (c : Char) :
    c.toNat < 0xD800 ∨ 0xDFFF < c.toNat ∧ c.toNat < 0x110000 := by
  have h := c.valid
  simp only [UInt32.isValidChar, Nat.isValidChar] at h
  exact h

theorem lead_octet {n : Nat} (h : n < 256) : lead (octet n) =
    if n < 0x80 then .whole (Char.ofNat n)
    else if n < 0xC2 then .invalid
    else if n < 0xE0 then .unfinished ⟨1, 0x80, 0xBF, n - 0xC0⟩
    else if n < 0xF0 then
      .unfinished ⟨2, if n = 0xE0 then 0xA0 else 0x80, if n = 0xED then 0x9F else 0xBF, n - 0xE0⟩
    else if n < 0xF5 then
      .unfinished ⟨3, if n = 0xF0 then 0x90 else 0x80, if n = 0xF4 then 0x8F else 0xBF, n - 0xF0⟩
    else .invalid := by
  simp only [lead, toNat_octet h]

theorem accepts_octet (u : Unfinished) {n : Nat} (h : n < 256) :
    u.accepts (octet n) = decide (u.low ≤ n ∧ n ≤ u.high) := by
  rw [Unfinished.accepts, toNat_octet h]

theorem valueWith_octet (u : Unfinished) {n : Nat} (h : n < 256) :
    u.valueWith (octet n) = u.value * 64 + (n - 0x80) := by
  unfold Unfinished.valueWith
  rw [toNat_octet h]

theorem scan_last {u : Unfinished} {n : Nat} (c : Char) (seen rest : Bytes) (hn : n < 256)
    (hmissing : u.missing = 1) (hlow : u.low ≤ n) (hhigh : n ≤ u.high)
    (hvalue : u.value * 64 + (n - 0x80) = c.toNat) :
    scan (some (seen, u)) (octet n :: rest) = .char c :: scan none rest := by
  rw [scan, accepts_octet u hn, if_pos (by simp [hlow, hhigh]), if_pos (by omega),
    valueWith_octet u hn, hvalue, Char.ofNat_toNat]

theorem scan_middle {u : Unfinished} {n : Nat} (seen rest : Bytes) (hn : n < 256)
    (hmissing : 1 < u.missing) (hlow : u.low ≤ n) (hhigh : n ≤ u.high) :
    scan (some (seen, u)) (octet n :: rest) =
      scan (some (seen ++ [octet n],
        ⟨u.missing - 1, 0x80, 0xBF, u.value * 64 + (n - 0x80)⟩)) rest := by
  rw [scan, accepts_octet u hn, if_pos (by simp [hlow, hhigh]), if_neg (by omega),
    Unfinished.extend, valueWith_octet u hn]

theorem scan_first {n : Nat} {u : Unfinished} (rest : Bytes) (h : lead (octet n) = .unfinished u) :
    scan none (octet n :: rest) = scan (some ([octet n], u)) rest := by
  rw [scan, begin, h]

theorem scan_encodeChar (c : Char) (rest : Bytes) :
    scan none (encodeChar c ++ rest) = .char c :: scan none rest := by
  have hc := toNat_lt_or c
  unfold encodeChar
  simp only
  split_ifs with h1 h2 h3
  · rw [List.cons_append, List.nil_append, scan, begin, lead_octet (by omega), if_pos h1,
      Char.ofNat_toNat]
  · have hlead : lead (octet (0xC0 + c.toNat / 64)) =
        .unfinished ⟨1, 0x80, 0xBF, c.toNat / 64⟩ := by
      rw [lead_octet (by omega), if_neg (by omega), if_neg (by omega), if_pos (by omega),
        Nat.add_sub_cancel_left]
    simp only [List.cons_append, List.nil_append]
    rw [scan_first _ hlead]
    refine scan_last c _ _ (by omega) rfl ?_ ?_ ?_ <;> dsimp only <;> omega
  · have hlead : lead (octet (0xE0 + c.toNat / 4096)) =
        .unfinished ⟨2, if c.toNat / 4096 = 0 then 0xA0 else 0x80,
          if c.toNat / 4096 = 0xD then 0x9F else 0xBF, c.toNat / 4096⟩ := by
      rw [lead_octet (by omega), if_neg (by omega), if_neg (by omega), if_neg (by omega),
        if_pos (by omega), Nat.add_sub_cancel_left]
      congr 2 <;> congr 1 <;> simp only [eq_iff_iff] <;> omega
    simp only [List.cons_append, List.nil_append]
    rw [scan_first _ hlead, scan_middle _ _ (by omega) (by simp)]
    · refine scan_last c _ _ (by omega) rfl ?_ ?_ ?_ <;> dsimp only <;> omega
    · simp only
      split_ifs <;> omega
    · simp only
      split_ifs <;> omega
  · have hlead : lead (octet (0xF0 + c.toNat / 262144)) =
        .unfinished ⟨3, if c.toNat / 262144 = 0 then 0x90 else 0x80,
          if c.toNat / 262144 = 4 then 0x8F else 0xBF, c.toNat / 262144⟩ := by
      rw [lead_octet (by omega), if_neg (by omega), if_neg (by omega), if_neg (by omega),
        if_neg (by omega), if_pos (by omega), Nat.add_sub_cancel_left]
      congr 2 <;> congr 1 <;> simp only [eq_iff_iff] <;> omega
    simp only [List.cons_append, List.nil_append]
    rw [scan_first _ hlead, scan_middle _ _ (by omega) (by simp),
      scan_middle _ _ (by omega) (by simp)]
    · refine scan_last c _ _ (by omega) rfl ?_ ?_ ?_ <;> dsimp only <;> omega
    · simp only
      omega
    · simp only
      omega
    · simp only
      split_ifs <;> omega
    · simp only
      split_ifs <;> omega

theorem encode_cons (c : Char) (cs : List Char) : encode (c :: cs) = encodeChar c ++ encode cs := by
  simp [encode]

@[simp] theorem encode_nil : encode [] = [] := rfl

@[simp] theorem encode_append (cs ds : List Char) :
    encode (cs ++ ds) = encode cs ++ encode ds := by
  simp [encode]

theorem pieces_encode (cs : List Char) : pieces (encode cs) = cs.map .char := by
  unfold pieces
  induction cs with
  | nil => rfl
  | cons c cs ih => rw [encode_cons, scan_encodeChar, ih, List.map_cons]

theorem chars_map_char (position : Nat) (cs : List Char) :
    chars position (cs.map .char) = .ok cs := by
  induction cs generalizing position with
  | nil => rfl
  | cons c cs ih => rw [List.map_cons, chars, ih]

theorem decode_encode (cs : List Char) : decode (encode cs) = .ok cs := by
  rw [decode, pieces_encode, chars_map_char]

theorem encode_injective : Function.Injective encode := by
  intro cs ds h
  have hd : Except.ok (ε := Fault) cs = .ok ds := by rw [← decode_encode, h, decode_encode]
  exact Except.ok.inj hd

/-! ## Bytes of single characters -/

theorem encodeChar_of_lt {c : Char} (h : c.toNat < 0x80) : encodeChar c = [octet c.toNat] := by
  simp [encodeChar, h]

theorem le_toNat_octet {n : Nat} (h : n < 256) (hle : 0x80 ≤ n) : 0x80 ≤ (octet n).toNat := by
  rwa [toNat_octet h]

theorem le_of_mem_encodeChar {c : Char} {b : UInt8} (hc : 0x80 ≤ c.toNat)
    (hb : b ∈ encodeChar c) : 0x80 ≤ b.toNat := by
  have hv := toNat_lt_or c
  unfold encodeChar at hb
  simp only at hb
  rw [if_neg (by omega)] at hb
  split_ifs at hb <;> simp only [List.mem_cons, List.not_mem_nil, or_false] at hb
  · rcases hb with rfl | rfl <;> exact le_toNat_octet (by omega) (by omega)
  · rcases hb with rfl | rfl | rfl <;> exact le_toNat_octet (by omega) (by omega)
  · rcases hb with rfl | rfl | rfl | rfl <;> exact le_toNat_octet (by omega) (by omega)

theorem ofNat_mem_of_mem_encode {cs : List Char} {b : UInt8} (hb : b ∈ encode cs)
    (hlt : b.toNat < 0x80) : Char.ofNat b.toNat ∈ cs := by
  obtain ⟨c, hc, hbc⟩ := List.mem_flatMap.1 hb
  have hclt : c.toNat < 0x80 := by
    by_contra hge
    have := le_of_mem_encodeChar (by omega) hbc
    omega
  rw [encodeChar_of_lt hclt, List.mem_singleton] at hbc
  subst hbc
  rw [toNat_octet (by omega), Char.ofNat_toNat]
  exact hc

theorem encodeChar_ne_nil (c : Char) : encodeChar c ≠ [] := by
  unfold encodeChar
  simp only
  split_ifs <;> simp

theorem encode_eq_nil_iff (cs : List Char) : encode cs = [] ↔ cs = [] := by
  cases cs with
  | nil => simp
  | cons c cs => simp [encode_cons, encodeChar_ne_nil]

end Stomp.Utf8
