import Stomp.Json.Equality
import Stomp.Proofs.Json.Reading

/-!
# When JSON values are equal

Values without reals are equal by what they hold: booleans and integers by their amounts, lists item
by item and objects name by name, in any order (`same_list_iff`, `same_object_iff`). So equality is
an equivalence (`same_refl`, `same_symm`, `same_trans`), as long as the names in an object differ.
-/

namespace Stomp

/-- The values in the same places are related, and there are values in the same places. -/
def Pointwise {ι α : Type} (R : α → α → Prop) (f g : ι → Option α) : Prop :=
  ∀ i, Option.Rel R (f i) (g i)

namespace Pointwise

variable {ι α : Type} {R : α → α → Prop} {f g h : ι → Option α}

theorem refl (hr : ∀ i, ∀ x ∈ f i, R x x) : Pointwise R f f := by
  intro i
  cases hf : f i with
  | none => exact .none
  | some x => exact .some (hr i x hf)

theorem symm (hr : ∀ i, ∀ x ∈ f i, ∀ y ∈ g i, R x y → R y x) (hfg : Pointwise R f g) :
    Pointwise R g f := by
  intro i
  have hi := hfg i
  have hri := hr i
  generalize f i = o, g i = p at hi hri
  cases hi with
  | none => exact .none
  | some hxy => exact .some (hri _ rfl _ rfl hxy)

theorem trans (hr : ∀ i, ∀ x ∈ f i, ∀ y ∈ g i, ∀ z ∈ h i, R x y → R y z → R x z)
    (hfg : Pointwise R f g) (hgh : Pointwise R g h) : Pointwise R f h := by
  intro i
  have hi := hfg i
  have hj := hgh i
  have hri := hr i
  generalize f i = o, g i = p, h i = q at hi hj hri
  cases hi with
  | none =>
      cases hj
      exact .none
  | some hxy =>
      cases hj with
      | some hyz => exact .some (hri _ rfl _ rfl _ rfl hxy hyz)

theorem isSome_eq (hfg : Pointwise R f g) (i : ι) : (f i).isSome = (g i).isSome := by
  have hi := hfg i
  generalize f i = o, g i = p at hi
  cases hi <;> rfl

theorem exists_of_eq_some (hfg : Pointwise R f g) {i : ι} {x : α} (hx : f i = some x) :
    ∃ y, g i = some y ∧ R x y := by
  have hi := hfg i
  rw [hx] at hi
  generalize g i = p at hi
  cases hi with
  | some hxy => exact ⟨_, rfl, hxy⟩

end Pointwise

namespace Assoc

variable {α : Type} {R : α → α → Prop} {xs ys : List (String × α)}

/-- Two tables of one length, of which the second has a related value for each entry of the first,
are related name by name. -/
theorem pointwise_iff (hx : (names xs).Nodup) (hy : (names ys).Nodup) :
    (xs.length = ys.length ∧ ∀ e ∈ xs, ∃ y, get? ys e.1 = some y ∧ R e.2 y) ↔
      Pointwise R (get? xs) (get? ys) := by
  constructor
  · rintro ⟨hlength, hrelated⟩ name
    have hsubset : names xs ⊆ names ys := by
      intro n hn
      obtain ⟨e, he, rfl⟩ := List.mem_map.1 hn
      obtain ⟨y, hget, -⟩ := hrelated e he
      exact mem_names_of_mem (mem_of_get? hget)
    -- As many different names as there are in the other table are all of its names.
    have hperm : (names xs).Perm (names ys) := by
      apply (List.subperm_of_subset hx hsubset).perm_of_length_le
      rw [names, names, List.length_map, List.length_map, hlength]
    cases hget : get? xs name with
    | some x =>
        obtain ⟨y, hy, hxy⟩ := hrelated (name, x) (mem_of_get? hget)
        rw [hy]
        exact .some hxy
    | none =>
        have hname : name ∉ names ys := by
          rw [← hperm.mem_iff, mem_names_iff, hget]
          exact Bool.false_ne_true
        rw [mem_names_iff, Option.not_isSome_iff_eq_none] at hname
        rw [hname]
        exact .none
  · intro h
    have hperm : (names xs).Perm (names ys) := by
      rw [List.perm_ext_iff_of_nodup hx hy]
      intro name
      rw [mem_names_iff, mem_names_iff, h.isSome_eq]
    refine ⟨?_, fun e he => h.exists_of_eq_some (get?_of_mem hx he)⟩
    have hlength := hperm.length_eq
    rwa [names, names, List.length_map, List.length_map] at hlength

end Assoc

namespace Json

/-- There is no real in the value, and the names in an object differ. -/
inductive Comparable : Json → Prop
  | null : Comparable .null
  | bool (b : Bool) : Comparable (.bool b)
  | int (n : Int) : Comparable (.int n)
  | text (s : String) : Comparable (.text s)
  | list {xs : List Json} : (∀ x ∈ xs, Comparable x) → Comparable (.list xs)
  | object {ms : List (String × Json)} : (Assoc.names ms).Nodup → (∀ m ∈ ms, Comparable m.2) →
      Comparable (.object ms)

theorem Proper.comparable {j : Json} (hj : j.Proper) (hreals : j.RealFree) : j.Comparable := by
  induction hj with
  | null => exact .null
  | bool b => exact .bool b
  | @int n _ => exact .int n
  | real x => cases hreals
  | text s => exact .text s
  | list _ ih =>
      cases hreals with
      | list hxs => exact .list fun x hx => ih x hx (hxs x hx)
  | object hnames _ ih =>
      cases hreals with
      | object hms => exact .object hnames fun m hm => ih m hm (hms m hm)

/-- The amount of a number; a boolean counts as one or zero. -/
def amount? : Json → Option Int
  | .bool b => some (if b then 1 else 0)
  | .int n => some n
  | _ => none

/-! ## What a value is equal to -/

abbrev Equals (x y : Json) : Prop := x.same y = true

section Same

variable {y : Json}

theorem same_null_iff : same .null y = true ↔ y = .null := by
  cases y <;> simp [same, magnitude?]

theorem same_text_iff {s : String} : same (.text s) y = true ↔ .text s = y := by
  cases y <;> simp [same, magnitude?]

theorem same_number_iff {x : Json} (hx : x.amount?.isSome = true) (hy : y.Comparable) :
    x.same y = true ↔ x.amount? = y.amount? := by
  cases x with
  | bool b => cases hy <;> simp [same, magnitude?, Magnitude.same, amount?]
  | int n => cases hy <;> simp [same, magnitude?, Magnitude.same, amount?]
  | _ => cases hx

theorem same_number_symm {x : Json} (hx : x.Comparable) (hy : y.Comparable)
    (hnumber : x.amount?.isSome = true) (h : x.same y = true) : y.same x = true := by
  rw [same_number_iff hnumber hy] at h
  rw [same_number_iff (h ▸ hnumber) hx, h]

theorem same_number_trans {x z : Json} (hy : y.Comparable) (hz : z.Comparable)
    (hnumber : x.amount?.isSome = true) (hxy : x.same y = true) (hyz : y.same z = true) :
    x.same z = true := by
  rw [same_number_iff hnumber hy] at hxy
  rw [same_number_iff (hxy ▸ hnumber) hz] at hyz
  rw [same_number_iff hnumber hz, hxy, hyz]

theorem pointwise_cons_iff {R : Json → Json → Prop} {x : Json} {xs ys : List Json} :
    Pointwise R (fun i : Nat => (x :: xs)[i]?) (fun i => ys[i]?) ↔
      ∃ z zs, ys = z :: zs ∧ R x z ∧ Pointwise R (fun i : Nat => xs[i]?) fun i => zs[i]? := by
  constructor
  · intro h
    obtain ⟨z, hz, hxz⟩ := h.exists_of_eq_some (i := 0) rfl
    cases ys with
    | nil => cases hz
    | cons z zs =>
        cases hz
        exact ⟨z, zs, rfl, hxz, fun i => h (i + 1)⟩
  · rintro ⟨z, zs, rfl, hxz, h⟩ i
    cases i with
    | zero => exact .some hxz
    | succ i => exact h i

theorem sameItems_iff {xs ys : List Json} :
    sameItems xs ys = true ↔
      Pointwise Equals (fun i : Nat => xs[i]?) fun i => ys[i]? := by
  induction xs generalizing ys with
  | nil =>
      cases ys with
      | nil => exact iff_of_true rfl fun i => .none
      | cons y ys => exact iff_of_false nofun fun h => Option.not_rel_none_some (h 0)
  | cons x xs ih =>
      rw [pointwise_cons_iff]
      cases ys <;> simp [sameItems, ih]

theorem sameMembers_iff {ms ns : List (String × Json)} :
    sameMembers ms ns = true ↔
      ∀ m ∈ ms, ∃ y, Assoc.get? ns m.1 = some y ∧ m.2.same y = true := by
  induction ms with
  | nil => simp [sameMembers]
  | cons m ms ih =>
      obtain ⟨name, x⟩ := m
      rw [sameMembers, Bool.and_eq_true, ih, List.forall_mem_cons]
      cases Assoc.get? ns name <;> simp

theorem same_list_iff {xs : List Json} :
    same (.list xs) y = true ↔
      ∃ ys, y = .list ys ∧
        Pointwise Equals (fun i : Nat => xs[i]?) fun i => ys[i]? := by
  cases y <;> simp [same, magnitude?, sameItems_iff]

theorem same_object_iff {ms : List (String × Json)} (hms : (Assoc.names ms).Nodup)
    (hy : y.Comparable) :
    same (.object ms) y = true ↔
      ∃ ns, y = .object ns ∧
        Pointwise Equals (Assoc.get? ms) (Assoc.get? ns) := by
  cases hy with
  | object hns _ => simp [same, sameMembers_iff, ← Assoc.pointwise_iff hms hns]
  | _ => simp [same, magnitude?]

end Same

/-! ## Equality as an equivalence -/

theorem same_refl {x : Json} (hx : x.Comparable) : x.same x = true := by
  induction hx with
  | null => rfl
  | bool b => exact (same_number_iff rfl (.bool b)).2 rfl
  | int n => exact (same_number_iff rfl (.int n)).2 rfl
  | text s => exact same_text_iff.2 rfl
  | @list xs _ ih =>
      refine same_list_iff.2 ⟨xs, rfl, .refl ?_⟩
      exact fun i x hx => ih x (List.mem_of_getElem? hx)
  | @object ms hnames hms ih =>
      refine (same_object_iff hnames (.object hnames hms)).2 ⟨ms, rfl, .refl ?_⟩
      exact fun name x hx => ih (name, x) (Assoc.mem_of_get? hx)

theorem same_symm {x y : Json} (hx : x.Comparable) (hy : y.Comparable) (h : x.same y = true) :
    y.same x = true := by
  induction hx generalizing y with
  | null =>
      rw [same_null_iff] at h
      rw [h]
      rfl
  | text s =>
      rw [same_text_iff] at h
      rw [← h]
      exact same_text_iff.2 rfl
  | bool b => exact same_number_symm (.bool b) hy rfl h
  | int n => exact same_number_symm (.int n) hy rfl h
  | list hxs ih =>
      obtain ⟨ys, rfl, hitems⟩ := same_list_iff.1 h
      cases hy with
      | list hys =>
          refine same_list_iff.2 ⟨_, rfl, hitems.symm ?_⟩
          intro i x hx y hy
          exact ih x (List.mem_of_getElem? hx) (hys y (List.mem_of_getElem? hy))
  | object hnames hms ih =>
      obtain ⟨ns, rfl, hmembers⟩ := (same_object_iff hnames hy).1 h
      cases hy with
      | object hnames' hns =>
          refine (same_object_iff hnames' (.object hnames hms)).2 ⟨_, rfl, hmembers.symm ?_⟩
          intro name x hx y hy
          exact ih (name, x) (Assoc.mem_of_get? hx) (hns (name, y) (Assoc.mem_of_get? hy))

theorem same_trans {x y z : Json} (hx : x.Comparable) (hy : y.Comparable) (hz : z.Comparable)
    (hxy : x.same y = true) (hyz : y.same z = true) : x.same z = true := by
  induction hx generalizing y z with
  | null =>
      rw [same_null_iff] at hxy
      rwa [hxy] at hyz
  | text s =>
      rw [same_text_iff] at hxy
      rwa [← hxy] at hyz
  | bool b => exact same_number_trans hy hz rfl hxy hyz
  | int n => exact same_number_trans hy hz rfl hxy hyz
  | list hxs ih =>
      obtain ⟨ys, rfl, hxys⟩ := same_list_iff.1 hxy
      obtain ⟨zs, rfl, hyzs⟩ := same_list_iff.1 hyz
      cases hy with
      | list hys =>
          cases hz with
          | list hzs =>
              refine same_list_iff.2 ⟨zs, rfl, hxys.trans ?_ hyzs⟩
              intro i x hx y hy z hz
              exact ih x (List.mem_of_getElem? hx) (hys y (List.mem_of_getElem? hy))
                (hzs z (List.mem_of_getElem? hz))
  | object hnames hms ih =>
      obtain ⟨ns, rfl, hxys⟩ := (same_object_iff hnames hy).1 hxy
      cases hy with
      | object hnames' hns =>
          obtain ⟨ps, rfl, hyzs⟩ := (same_object_iff hnames' hz).1 hyz
          refine (same_object_iff hnames hz).2 ⟨ps, rfl, hxys.trans ?_ hyzs⟩
          cases hz with
          | object _ hps =>
              intro name x hx y hy z hz
              exact ih (name, x) (Assoc.mem_of_get? hx) (hns (name, y) (Assoc.mem_of_get? hy))
                (hps (name, z) (Assoc.mem_of_get? hz))

end Json

end Stomp
