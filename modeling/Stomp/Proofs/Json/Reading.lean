import Stomp.Frame.Basic
import Stomp.Proofs.Json.RoundTrip

/-!
# What is read of JSON

Whatever the text, a value that is read from it is proper: its integers have no more digits than
are allowed, and an object holds each name once (`proper_of_read`).
-/

namespace Stomp

namespace Numeral

theorem ofDigits_lt {ds : List Nat} (h : ∀ d ∈ ds, d < 10) : ofDigits ds < 10 ^ ds.length := by
  induction ds using List.reverseRecOn with
  | nil => decide
  | append_singleton ds d ih =>
      have hlater := ih fun e he => h e (by simp [he])
      have hd := h d (by simp)
      have hstep : ofDigits (ds ++ [d]) = 10 * ofDigits ds + d := by
        rw [ofDigits, List.foldl_append]
        rfl
      rw [hstep, List.length_append, List.length_singleton, Nat.pow_succ]
      omega

end Numeral

namespace Assoc

variable {α : Type}

theorem nodup_names_ofList (pairs : List (String × α)) : (names (ofList pairs)).Nodup := by
  have hfold : ∀ acc : List (String × α), (names acc).Nodup →
      (names (pairs.foldl (fun entries p => insert entries p.1 p.2) acc)).Nodup := by
    induction pairs with
    | nil => exact fun _ h => h
    | cons p pairs ih => exact fun acc h => ih _ (nodup_names_insert h p.1 p.2)
  exact hfold [] List.nodup_nil

theorem mem_insert {entries : List (String × α)} {name : String} {value : α} {e : String × α}
    (h : e ∈ insert entries name value) : e ∈ entries ∨ e = (name, value) := by
  induction entries with
  | nil => exact Or.inr (List.mem_singleton.1 h)
  | cons d rest ih =>
      obtain ⟨n, v⟩ := d
      rw [insert] at h
      split at h
      · rename_i hn
        rcases List.mem_cons.1 h with rfl | h
        · exact Or.inr (by rw [hn])
        · exact Or.inl (List.mem_cons_of_mem _ h)
      · rcases List.mem_cons.1 h with rfl | h
        · exact Or.inl List.mem_cons_self
        · exact (ih h).imp_left (List.mem_cons_of_mem _)

theorem mem_of_mem_ofList {pairs : List (String × α)} {e : String × α} (h : e ∈ ofList pairs) :
    e ∈ pairs := by
  have hfold : ∀ acc : List (String × α),
      e ∈ pairs.foldl (fun entries p => insert entries p.1 p.2) acc → e ∈ acc ∨ e ∈ pairs := by
    clear h
    induction pairs with
    | nil => exact fun _ h => Or.inl h
    | cons p pairs ih =>
        intro acc h
        rcases ih _ h with h | h
        · rcases mem_insert h with h | rfl
          · exact Or.inl h
          · exact Or.inr List.mem_cons_self
        · exact Or.inr (List.mem_cons_of_mem _ h)
  exact (hfold [] h).resolve_left (List.not_mem_nil)

end Assoc

namespace Json

/-! ## Numbers -/

theorem digitsOf_lt {cs : List Char} (h : ∀ c ∈ cs, isDigit c = true) :
    ∀ d ∈ digitsOf cs, d < 10 := by
  intro d hd
  obtain ⟨c, hc, rfl⟩ := List.mem_map.1 hd
  have hdigit := h c hc
  rw [isDigit, decide_eq_true_iff] at hdigit
  omega

theorem isDigit_of_mem_splitWhole (input : List Char) :
    ∀ c ∈ (splitWhole input).1, isDigit c = true := by
  unfold splitWhole
  split
  · rw [List.forall_mem_singleton]
    decide
  · intro c hc
    rw [List.span_eq_takeWhile_dropWhile] at hc
    exact List.mem_takeWhile_imp hc

theorem proper_of_readNumber {input rest : List Char} {j : Json}
    (h : readNumber input = .ok (j, rest)) : j.Proper := by
  unfold readNumber at h
  split at h
  rename_i negative body _
  have hdigits := isDigit_of_mem_splitWhole body
  split at h
  · cases h
  · rename_i whole after _ hsplit
    have hwhole : ∀ c ∈ whole, isDigit c = true := by
      rw [hsplit] at hdigits
      exact hdigits
    split at h
    split at h
    split at h
    · split at h
      · cases h
      · rename_i hlimit
        cases h
        apply Proper.int
        have hlt := Numeral.ofDigits_lt (digitsOf_lt hwhole)
        have hpow : 10 ^ (digitsOf whole).length ≤ 10 ^ Numeral.digitLimit := by
          apply Nat.pow_le_pow_right (by decide)
          rw [digitsOf, List.length_map]
          omega
        split <;> omega
    · cases h
      exact .real _

/-! ## Values -/

/-- What is read in so many steps is proper. -/
structure ReadsProper (steps : Nat) : Prop where
  value {input rest : List Char} {j : Json} : readValue steps input = .ok (j, rest) → Proper j
  items {input rest : List Char} {xs : List Json} :
    readItems steps input = .ok (xs, rest) → ∀ x ∈ xs, Proper x
  members {input rest : List Char} {ms : List (String × Json)} :
    readMembers steps input = .ok (ms, rest) → ∀ m ∈ ms, Proper m.2

namespace ReadsProper

variable {steps : Nat} {input rest : List Char}

theorem readValue_succ (ih : ReadsProper steps) {j : Json}
    (h : readValue (steps + 1) input = .ok (j, rest)) : Proper j := by
  unfold readValue at h
  split at h
  · split at h
    · cases h
      exact .text _
    · cases h
  · split at h
    · cases h
      exact .list (List.forall_mem_nil _)
    · cases h
    · split at h
      · rename_i hitems
        cases h
        exact .list (ih.items hitems)
      · cases h
  · split at h
    · cases h
      exact .object List.nodup_nil (List.forall_mem_nil _)
    · split at h
      · rename_i hmembers
        cases h
        refine .object (Assoc.nodup_names_ofList _) fun m hm => ?_
        exact ih.members hmembers m (Assoc.mem_of_mem_ofList hm)
      · cases h
    · cases h
  · cases h
    exact .null
  · cases h
    exact .bool true
  · cases h
    exact .bool false
  · exact proper_of_readNumber h

theorem readItems_succ (ih : ReadsProper steps) {xs : List Json}
    (h : readItems (steps + 1) input = .ok (xs, rest)) : ∀ x ∈ xs, Proper x := by
  unfold readItems at h
  split at h
  · cases h
  · rename_i hvalue
    have hx := ih.value hvalue
    split at h
    · cases h
      exact List.forall_mem_singleton.2 hx
    · split at h
      · cases h
      · split at h
        · rename_i hitems
          cases h
          exact List.forall_mem_cons.2 ⟨hx, ih.items hitems⟩
        · cases h
    · cases h

theorem readMembers_succ (ih : ReadsProper steps) {ms : List (String × Json)}
    (h : readMembers (steps + 1) input = .ok (ms, rest)) : ∀ m ∈ ms, Proper m.2 := by
  unfold readMembers at h
  split at h
  · split at h
    · cases h
    · split at h
      · split at h
        · cases h
        · rename_i hvalue
          have hx := ih.value hvalue
          split at h
          · cases h
            exact List.forall_mem_singleton.2 hx
          · split at h
            · cases h
            · split at h
              · rename_i hmembers
                cases h
                exact List.forall_mem_cons.2 ⟨hx, ih.members hmembers⟩
              · cases h
          · cases h
      · cases h
  · cases h

end ReadsProper

theorem readsProper (steps : Nat) : ReadsProper steps := by
  induction steps with
  | zero =>
      constructor
      · intro input rest j h
        cases h
      · intro input rest xs h
        cases h
      · intro input rest ms h
        cases h
  | succ steps ih => exact ⟨ih.readValue_succ, ih.readItems_succ, ih.readMembers_succ⟩

theorem proper_of_read {input : List Char} {j : Json} (h : read input = .ok j) : j.Proper := by
  unfold read at h
  split at h
  · cases h
  · rename_i hvalue
    split at h
    · cases h
      exact (readsProper _).value hvalue
    · cases h

theorem proper_of_readMap {body : Bytes} {j : Json} (h : Frame.readMap body = .ok j) :
    j.Proper := by
  unfold Frame.readMap at h
  split at h
  · cases h
    exact .object List.nodup_nil nofun
  · split at h
    · cases h
    · split at h
      · cases h
      · rename_i hread
        cases h
        exact proper_of_read hread

end Json

end Stomp
