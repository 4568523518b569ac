import Mathlib.Tactic
import Stomp.Header.Table
import Stomp.Proofs.Text.Numeral

/-!
# Header tables as lists of entries

Where the entries of a table stand after a header was inserted (`entries_insert`), and the table
that is read from entries which are those of a table already (`ofList_given`).
-/

namespace Stomp

/-- A value that a header has when it is set: presence, or a text that is not empty. -/
def HeaderValue.Proper : HeaderValue → Prop
  | .text s => s ≠ ""
  | .bare => True
  | .number _ => False

instance : DecidablePred HeaderValue.Proper
  | .text s => inferInstanceAs (Decidable (s ≠ ""))
  | .bare => inferInstanceAs (Decidable True)
  | .number _ => inferInstanceAs (Decidable False)

namespace HeaderValue.Proper

variable {v : HeaderValue}

theorem of_ne (hempty : v ≠ .text "") (hnumber : v.number? = none) : v.Proper := by
  cases v with
  | text s => exact fun hs => hempty (congrArg text hs)
  | bare => trivial
  | number n => cases hnumber

theorem of_stored? {g : Given} (h : g.stored? = some v) : v.Proper := by
  cases g with
  | absent => cases h
  | text s =>
      rw [Given.stored?] at h
      split_ifs at h with hs
      cases h
      exact hs
  | number n hn =>
      cases h
      exact Numeral.ofList_write_ne_empty n
  | flag b =>
      cases b
      case false =>
        cases h
        exact show "False" ≠ "" by decide
      case true =>
        cases h
        trivial

theorem ne_empty (h : v.Proper) : v ≠ .text "" := by
  rintro rfl
  exact h rfl

theorem number? (h : v.Proper) : v.number? = none := by
  cases v with
  | number n => exact h.elim
  | _ => rfl

theorem stored?_given (h : v.Proper) : v.given.stored? = some v := by
  cases v with
  | text s => exact if_neg h
  | bare => rfl
  | number n => exact h.elim

theorem nonempty? (h : v.Proper) : HeaderValue.nonempty? (some v) = some v := by
  cases v with
  | text s => exact if_pos (decide_eq_true h)
  | bare => rfl
  | number n => exact h.elim

end HeaderValue.Proper

namespace Assoc

variable {α : Type}

theorem mem_of_get? {entries : List (String × α)} {name : String} {value : α}
    (h : get? entries name = some value) : (name, value) ∈ entries := by
  induction entries with
  | nil => simp [get?] at h
  | cons e rest ih =>
      obtain ⟨n, v⟩ := e
      by_cases hn : n = name
      · simp only [get?, hn, if_true, Option.some.injEq] at h
        simp [hn, h]
      · simp only [get?, hn, if_false] at h
        exact List.mem_cons_of_mem _ (ih h)

theorem mem_names_of_mem {entries : List (String × α)} {name : String} {value : α}
    (h : (name, value) ∈ entries) : name ∈ names entries :=
  List.mem_map.2 ⟨(name, value), h, rfl⟩

theorem get?_of_mem {entries : List (String × α)} (hnodup : (names entries).Nodup)
    {name : String} {value : α} (h : (name, value) ∈ entries) :
    get? entries name = some value := by
  induction entries with
  | nil => simp at h
  | cons e rest ih =>
      obtain ⟨n, v⟩ := e
      simp only [names, List.map_cons, List.nodup_cons] at hnodup
      by_cases hn : n = name
      · rcases List.mem_cons.1 h with heq | hmem
        · obtain ⟨rfl, rfl⟩ := Prod.mk.injEq .. ▸ heq
          simp [get?]
        · subst hn
          exact absurd (mem_names_of_mem hmem) hnodup.1
      · have hmem : (name, value) ∈ rest := by
          rcases List.mem_cons.1 h with heq | hmem
          · exact absurd (congrArg Prod.fst heq).symm hn
          · exact hmem
        simp only [get?, hn, if_false]
        exact ih hnodup.2 hmem

theorem insert_of_not_mem {entries : List (String × α)} {name : String} (value : α)
    (h : name ∉ names entries) : insert entries name value = entries ++ [(name, value)] := by
  induction entries with
  | nil => rfl
  | cons e rest ih =>
      obtain ⟨n, v⟩ := e
      simp only [names, List.map_cons, List.mem_cons, not_or] at h
      rw [insert, if_neg (Ne.symm h.1), ih h.2, List.cons_append]

theorem insert_of_mem {entries : List (String × α)} (hnodup : (names entries).Nodup)
    {name : String} (value : α) (h : name ∈ names entries) :
    insert entries name value =
      entries.map fun e => if e.1 = name then (name, value) else e := by
  induction entries with
  | nil => simp [names] at h
  | cons e rest ih =>
      obtain ⟨n, v⟩ := e
      simp only [names, List.map_cons, List.nodup_cons] at hnodup
      by_cases hn : n = name
      · subst hn
        have hrest : rest.map (fun e => if e.1 = n then (n, value) else e) = rest := by
          conv_rhs => rw [← List.map_id rest]
          apply List.map_congr_left
          intro e he
          rw [if_neg, id]
          rintro rfl
          exact hnodup.1 (List.mem_map_of_mem he)
        rw [insert, if_pos rfl, List.map_cons, if_pos rfl, hrest]
      · have hmem : name ∈ names rest := by
          simpa [names, Ne.symm hn] using h
        rw [insert, if_neg hn, List.map_cons, if_neg hn, ih hnodup.2 hmem]

end Assoc

namespace Headers

theorem ext_entries {hs ks : Headers} (h : hs.entries = ks.entries) : hs = ks := by
  cases hs
  cases ks
  subst h
  rfl

/-- An inserted header takes the place of the one of its name, or else comes last. -/
theorem entries_insert (hs : Headers) (name : String) (v : HeaderValue) :
    (hs.insert name v).entries =
      if name ∈ hs.names then hs.entries.map fun e => if e.1 = name then (name, v) else e
      else hs.entries ++ [(name, v)] := by
  split
  · exact Assoc.insert_of_mem hs.nodup_names v ‹_›
  · exact Assoc.insert_of_not_mem v ‹_›

theorem mem_insert {hs : Headers} {name : String} {v : HeaderValue} {e : String × HeaderValue}
    (h : e ∈ (hs.insert name v).entries) :
    e ∈ hs.entries ∧ e.1 ≠ name ∨ e = (name, v) := by
  rw [entries_insert] at h
  split at h
  · obtain ⟨d, hd, rfl⟩ := List.mem_map.1 h
    by_cases hname : d.1 = name
    · rw [if_pos hname]
      exact Or.inr rfl
    · rw [if_neg hname]
      exact Or.inl ⟨hd, hname⟩
  · rename_i hname
    rcases List.mem_append.1 h with he | he
    · refine Or.inl ⟨he, fun heq => hname ?_⟩
      exact heq ▸ List.mem_map_of_mem he
    · exact Or.inr (List.mem_singleton.1 he)

theorem mem_insert_of_ne {hs : Headers} {name : String} {e : String × HeaderValue}
    (he : e ∈ hs.entries) (hne : e.1 ≠ name) (v : HeaderValue) :
    e ∈ (hs.insert name v).entries := by
  rw [entries_insert]
  split
  · exact List.mem_map.2 ⟨e, he, if_neg hne⟩
  · exact List.mem_append_left _ he

theorem eq_of_mem (hs : Headers) {d e : String × HeaderValue} (hd : d ∈ hs.entries)
    (he : e ∈ hs.entries) (h : d.1 = e.1) : d = e := by
  have hvalue := Assoc.get?_of_mem hs.nodup_names hd
  rw [h, Assoc.get?_of_mem hs.nodup_names he] at hvalue
  exact Prod.ext h (Option.some.inj hvalue).symm

theorem entries_addAll {hs : Headers} {entries : List (String × HeaderValue)}
    (hnodup : (Assoc.names (hs.entries ++ entries)).Nodup)
    (hvalues : ∀ e ∈ entries, e.2.Proper) :
    (hs.addAll (entries.map fun e => (e.1, e.2.given))).entries = hs.entries ++ entries := by
  induction entries generalizing hs with
  | nil => simp [addAll]
  | cons e rest ih =>
      obtain ⟨n, v⟩ := e
      have hn : n ∉ hs.names := by
        simp only [Assoc.names, List.map_append, List.map_cons, List.nodup_append] at hnodup
        intro hmem
        exact hnodup.2.2 n hmem n (by simp) rfl
      have hadd : (hs.add n v.given).entries = hs.entries ++ [(n, v)] := by
        rw [add, if_neg hn, set, (hvalues (n, v) (by simp)).stored?_given]
        exact Assoc.insert_of_not_mem v hn
      have hnodup' : (Assoc.names ((hs.add n v.given).entries ++ rest)).Nodup := by
        rw [hadd, List.append_assoc, List.singleton_append]
        exact hnodup
      have := ih hnodup' fun e he => hvalues e (by simp [he])
      rw [hadd, List.append_assoc, List.singleton_append] at this
      exact this

theorem ofList_given {hs : Headers} (hvalues : ∀ e ∈ hs.entries, e.2.Proper) :
    ofList (hs.entries.map fun e => (e.1, e.2.given)) = hs := by
  have hnodup : (Assoc.names (empty.entries ++ hs.entries)).Nodup := hs.nodup_names
  apply ext_entries
  exact entries_addAll hnodup hvalues

theorem mem_set {hs : Headers} {name : String} {g : Given} {e : String × HeaderValue}
    (h : e ∈ (hs.set name g).entries) :
    e ∈ hs.entries ∨ e.1 = name ∧ g.stored? = some e.2 := by
  unfold set at h
  split at h
  · rename_i v hv
    rcases mem_insert h with ⟨h, -⟩ | rfl
    · exact Or.inl h
    · exact Or.inr ⟨rfl, hv⟩
  · exact Or.inl (List.mem_of_mem_filter h)

theorem mem_add {hs : Headers} {name : String} {g : Given} {e : String × HeaderValue}
    (h : e ∈ (hs.add name g).entries) :
    e ∈ hs.entries ∨ e.1 = name ∧ g.stored? = some e.2 := by
  unfold add at h
  split at h
  · exact Or.inl h
  · exact mem_set h

theorem proper_of_mem_addAll {hs : Headers} {pairs : List (String × Given)}
    (hhs : ∀ e ∈ hs.entries, e.2.Proper) : ∀ e ∈ (hs.addAll pairs).entries, e.2.Proper := by
  induction pairs generalizing hs with
  | nil => exact hhs
  | cons p pairs ih =>
      have hadd : ∀ e ∈ (hs.add p.1 p.2).entries, e.2.Proper := fun e he =>
        (mem_add he).elim (hhs e) fun h => .of_stored? h.2
      exact ih hadd

theorem proper_of_mem_ofList (pairs : List (String × Given)) :
    ∀ e ∈ (ofList pairs).entries, e.2.Proper :=
  proper_of_mem_addAll (by simp [empty])

end Headers

end Stomp
