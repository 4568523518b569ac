import Stomp.Proofs.Text.Utf8

/-!
# Bytes as texts, and back

The bounds between which the bytes of a character lie leave only the bytes that are written for it
(`completes_of_lead`). So bytes that are read without a fault are the bytes of the text
(`encode_of_decode`), and no text has two spellings.
-/

namespace Stomp.Utf8

theorem octet_toNat (b : UInt8) : octet b.toNat = b := UInt8.ofNat_toNat

theorem toNat_ofNat {n : Nat} (h : n < 0xD800 ∨ 0xDFFF < n ∧ n < 0x110000) :
    (Char.ofNat n).toNat = n := by
  have hvalid : n.isValidChar := h
  rw [Char.ofNat, dif_pos hvalid]
  rfl

/-- The bytes seen of a character become all of its bytes with the ones that are accepted next. -/
inductive Completes : Bytes → Unfinished → Prop
  | last {seen : Bytes} {u : Unfinished} : u.missing ≤ 1 →
      (∀ b, u.accepts b = true → encodeChar (Char.ofNat (u.valueWith b)) = seen ++ [b]) →
      Completes seen u
  | more {seen : Bytes} {u : Unfinished} : 1 < u.missing →
      (∀ b, u.accepts b = true → Completes (seen ++ [b]) (u.extend b)) → Completes seen u

theorem accepts_iff {u : Unfinished} {b : UInt8} :
    u.accepts b = true ↔ u.low ≤ b.toNat ∧ b.toNat ≤ u.high := by
  rw [Unfinished.accepts, decide_eq_true_iff]

theorem encodeChar_two {v : Nat} (hlow : 0x80 ≤ v) (hhigh : v < 0x800) :
    encodeChar (Char.ofNat v) = [octet (0xC0 + v / 64), octet (0x80 + v % 64)] := by
  rw [encodeChar, toNat_ofNat (by omega), if_neg (by omega), if_pos hhigh]

theorem encodeChar_three {v : Nat} (hlow : 0x800 ≤ v) (hhigh : v < 0x10000)
    (hvalid : v < 0xD800 ∨ 0xDFFF < v) :
    encodeChar (Char.ofNat v) =
      [octet (0xE0 + v / 4096), octet (0x80 + v / 64 % 64), octet (0x80 + v % 64)] := by
  rw [encodeChar, toNat_ofNat (by omega), if_neg (by omega), if_neg (by omega), if_pos hhigh]

theorem encodeChar_four {v : Nat} (hlow : 0x10000 ≤ v) (hhigh : v < 0x110000) :
    encodeChar (Char.ofNat v) = [octet (0xF0 + v / 262144), octet (0x80 + v / 4096 % 64),
      octet (0x80 + v / 64 % 64), octet (0x80 + v % 64)] := by
  rw [encodeChar, toNat_ofNat (by omega), if_neg (by omega), if_neg (by omega),
    if_neg (by omega)]

theorem octet_eq {n : Nat} {b : UInt8} (h : n = b.toNat) : octet n = b := by
  rw [h, octet_toNat]

theorem completes_two {b : UInt8} (hlow : 0xC2 ≤ b.toNat) (hhigh : b.toNat < 0xE0) :
    Completes [b] ⟨1, 0x80, 0xBF, b.toNat - 0xC0⟩ := by
  apply Completes.last (Nat.le_refl 1)
  intro d hd
  have hd := accepts_iff.1 hd
  unfold Unfinished.valueWith
  dsimp only at hd ⊢
  rw [encodeChar_two (by omega) (by omega), octet_eq (b := b) (by omega),
    octet_eq (b := d) (by omega), List.singleton_append]

theorem completes_three {b : UInt8} {low high : Nat} (hb : 0xE0 ≤ b.toNat ∧ b.toNat < 0xF0)
    (hlow : 0x80 ≤ low ∧ (b.toNat = 0xE0 → 0xA0 ≤ low))
    (hhigh : high ≤ 0xBF ∧ (b.toNat = 0xED → high ≤ 0x9F)) :
    Completes [b] ⟨2, low, high, b.toNat - 0xE0⟩ := by
  apply Completes.more (Nat.lt_succ_self 1)
  intro d hd
  apply Completes.last (Nat.le_refl 1)
  intro e he
  have hd := accepts_iff.1 hd
  have he := accepts_iff.1 he
  unfold Unfinished.extend Unfinished.valueWith at he ⊢
  dsimp only at hd he ⊢
  rw [encodeChar_three (by omega) (by omega) (by omega), octet_eq (b := b) (by omega),
    octet_eq (b := d) (by omega), octet_eq (b := e) (by omega), List.singleton_append,
    List.cons_append, List.singleton_append]

theorem completes_four {b : UInt8} {low high : Nat} (hb : 0xF0 ≤ b.toNat ∧ b.toNat < 0xF5)
    (hlow : 0x80 ≤ low ∧ (b.toNat = 0xF0 → 0x90 ≤ low))
    (hhigh : high ≤ 0xBF ∧ (b.toNat = 0xF4 → high ≤ 0x8F)) :
    Completes [b] ⟨3, low, high, b.toNat - 0xF0⟩ := by
  apply Completes.more (Nat.lt_succ_of_lt (Nat.lt_succ_self 1))
  intro d hd
  apply Completes.more (Nat.lt_succ_self 1)
  intro e he
  apply Completes.last (Nat.le_refl 1)
  intro g hg
  have hd := accepts_iff.1 hd
  have he := accepts_iff.1 he
  have hg := accepts_iff.1 hg
  unfold Unfinished.extend Unfinished.valueWith at he hg ⊢
  dsimp only at hd he hg ⊢
  rw [encodeChar_four (by omega) (by omega), octet_eq (b := b) (by omega),
    octet_eq (b := d) (by omega), octet_eq (b := e) (by omega), octet_eq (b := g) (by omega)]
  rfl

theorem completes_of_lead {b : UInt8} {u : Unfinished} (h : lead b = .unfinished u) :
    Completes [b] u := by
  unfold lead at h
  dsimp only at h
  by_cases h1 : b.toNat < 0x80
  · rw [if_pos h1] at h
    cases h
  rw [if_neg h1] at h
  by_cases h2 : b.toNat < 0xC2
  · rw [if_pos h2] at h
    cases h
  rw [if_neg h2] at h
  by_cases h3 : b.toNat < 0xE0
  · rw [if_pos h3] at h
    obtain rfl := Lead.unfinished.inj h
    exact completes_two (by omega) h3
  rw [if_neg h3] at h
  by_cases h4 : b.toNat < 0xF0
  · rw [if_pos h4] at h
    obtain rfl := Lead.unfinished.inj h
    apply completes_three ⟨by omega, h4⟩ <;> split_ifs <;> omega
  rw [if_neg h4] at h
  by_cases h5 : b.toNat < 0xF5
  · rw [if_pos h5] at h
    obtain rfl := Lead.unfinished.inj h
    apply completes_four ⟨by omega, h5⟩ <;> split_ifs <;> omega
  · rw [if_neg h5] at h
    cases h

theorem encodeChar_of_lead {b : UInt8} {c : Char} (h : lead b = .whole c) : encodeChar c = [b] := by
  unfold lead at h
  dsimp only at h
  split_ifs at h with h1
  obtain rfl := Lead.whole.inj h
  rw [encodeChar_of_lt (by rw [toNat_ofNat (by omega)]; exact h1), toNat_ofNat (by omega),
    octet_toNat]

theorem exists_of_chars_char {position : Nat} {c : Char} {rest : List Piece} {cs : List Char}
    (h : chars position (.char c :: rest) = .ok cs) :
    ∃ later, cs = c :: later ∧ chars (position + (encodeChar c).length) rest = .ok later := by
  rw [chars] at h
  cases hrest : chars (position + (encodeChar c).length) rest with
  | error e =>
      rw [hrest] at h
      cases h
  | ok later =>
      rw [hrest] at h
      exact ⟨later, (Except.ok.inj h).symm, rfl⟩

theorem encode_of_scan {bs : Bytes} :
    (∀ {position cs}, chars position (scan none bs) = .ok cs → encode cs = bs) ∧
      (∀ {seen u position cs}, Completes seen u →
        chars position (scan (some (seen, u)) bs) = .ok cs → encode cs = seen ++ bs) := by
  induction bs with
  | nil =>
      constructor
      · intro position cs h
        cases h
        rfl
      · intro seen u position cs _ h
        cases h
  | cons b bs ih =>
      obtain ⟨ihnone, ihsome⟩ := ih
      constructor
      · intro position cs h
        rw [scan, begin] at h
        cases hlead : lead b with
        | whole c =>
            rw [hlead] at h
            obtain ⟨later, rfl, hlater⟩ := exists_of_chars_char h
            rw [encode_cons, encodeChar_of_lead hlead, ihnone hlater, List.singleton_append]
        | unfinished u =>
            rw [hlead] at h
            exact ihsome (completes_of_lead hlead) h
        | invalid =>
            rw [hlead] at h
            cases h
      · intro seen u position cs hu h
        rw [scan] at h
        by_cases haccepts : u.accepts b = true
        · rw [if_pos haccepts] at h
          cases hu with
          | last hmissing hall =>
              rw [if_pos hmissing] at h
              obtain ⟨later, rfl, hlater⟩ := exists_of_chars_char h
              rw [encode_cons, hall b haccepts, ihnone hlater, List.append_assoc,
                List.singleton_append]
          | more hmissing hall =>
              rw [if_neg (by omega)] at h
              rw [ihsome (hall b haccepts) h, List.append_assoc, List.singleton_append]
        · rw [if_neg haccepts] at h
          cases h

theorem encode_of_decode {bs : Bytes} {cs : List Char} (h : decode bs = .ok cs) :
    encode cs = bs := encode_of_scan.1 h

end Stomp.Utf8
