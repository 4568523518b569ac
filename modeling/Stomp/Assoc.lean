/-!
# Ordered tables

Lists of named entries in order of arrival. Writing a name that is already there keeps its place
and takes the new value.
-/

namespace Stomp.Assoc

variable {α : Type}

def names (entries : List (String × α)) : List String := entries.map Prod.fst

def get? (entries : List (String × α)) (name : String) : Option α :=
  match entries with
  | [] => none
  | (n, v) :: rest => if n = name then some v else get? rest name

def insert (entries : List (String × α)) (name : String) (value : α) : List (String × α) :=
  match entries with
  | [] => [(name, value)]
  | (n, v) :: rest => if n = name then (n, value) :: rest else (n, v) :: insert rest name value

def erase (entries : List (String × α)) (name : String) : List (String × α) :=
  entries.filter fun e => e.1 ≠ name

def ofList (pairs : List (String × α)) : List (String × α) :=
  pairs.foldl (fun entries p => insert entries p.1 p.2) []

theorem names_insert (entries : List (String × α)) (name : String) (value : α) :
    names (insert entries name value) =
      if name ∈ names entries then names entries else names entries ++ [name] := by
  induction entries with
  | nil => rfl
  | cons e rest ih =>
    obtain ⟨n, v⟩ := e
    by_cases h : n = name
    · simp [insert, names, h]
    · have h' : ¬ name = n := fun h'' => h h''.symm
      simp only [insert, h, if_false, names, List.map_cons, List.mem_cons, h', false_or]
      simp only [names] at ih
      rw [ih]
      split <;> simp [*]

theorem nodup_names_insert {entries : List (String × α)} (h : (names entries).Nodup)
    (name : String) (value : α) : (names (insert entries name value)).Nodup := by
  rw [names_insert]
  split
  · exact h
  · rename_i hn
    rw [List.nodup_append]
    refine ⟨h, by simp, ?_⟩
    intro a ha b hb
    simp only [List.mem_singleton] at hb
    subst hb
    exact fun hab => hn (hab ▸ ha)

theorem nodup_names_erase {entries : List (String × α)} (h : (names entries).Nodup)
    (name : String) : (names (erase entries name)).Nodup :=
  h.sublist (List.filter_sublist.map Prod.fst)

theorem get?_insert (entries : List (String × α)) (name key : String) (value : α) :
    get? (insert entries name value) key =
      if name = key then some value else get? entries key := by
  induction entries with
  | nil => rfl
  | cons e rest ih =>
    obtain ⟨n, v⟩ := e
    by_cases h : n = name
    · subst h
      simp only [insert, if_true, get?]
      split <;> rfl
    · simp only [insert, h, if_false, get?, ih]
      by_cases hk : n = key
      · have hn : ¬ name = key := fun h' => h (hk.trans h'.symm)
        simp [hk, hn]
      · simp [hk]

theorem get?_erase (entries : List (String × α)) (name key : String) :
    get? (erase entries name) key = if name = key then none else get? entries key := by
  induction entries with
  | nil => simp [erase, get?]
  | cons e rest ih =>
    obtain ⟨n, v⟩ := e
    simp only [erase] at ih
    by_cases h : n = name
    · subst h
      simp only [erase, ne_eq, not_true, decide_false, Bool.false_eq_true, not_false_eq_true,
        List.filter_cons_of_neg, ih, get?]
      split <;> rfl
    · simp only [erase, ne_eq, h, not_false_eq_true, decide_true, List.filter_cons_of_pos, get?, ih]
      by_cases hk : n = key
      · have hn : ¬ name = key := fun h' => h (hk.trans h'.symm)
        simp [hk, hn]
      · simp [hk]

theorem mem_names_iff (entries : List (String × α)) (key : String) :
    key ∈ names entries ↔ (get? entries key).isSome := by
  induction entries with
  | nil => simp [names, get?]
  | cons e rest ih =>
    obtain ⟨n, v⟩ := e
    simp only [names] at ih
    by_cases h : n = key
    · simp [names, get?, h]
    · have h' : ¬ key = n := fun h'' => h h''.symm
      simp [names, get?, h, h', ih]

end Stomp.Assoc
