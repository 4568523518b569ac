import Stomp.Frame.Wire
import Stomp.Proofs.Header.Table
import Stomp.Proofs.Text.Numeral

/-!
# The headers of a frame

What a header of a frame is after headers are set or added, which leaves the rest of the frame
alone.
-/

namespace Stomp

/-! ## Tables -/

namespace Headers

/-- The first value for the name that is one to be stored. -/
def offered? (pairs : List (String × Given)) (name : String) : Option HeaderValue :=
  pairs.findSome? fun p => if p.1 = name then p.2.stored? else none

theorem offered?_eq_none {pairs : List (String × Given)} {name : String}
    (h : ∀ p ∈ pairs, p.1 ≠ name) : offered? pairs name = none := by
  rw [offered?, List.findSome?_eq_none_iff]
  exact fun p hp => if_neg (h p hp)

/-- Added headers do not replace one that is there, and the first one for a name counts. -/
theorem get?_addAll (hs : Headers) (pairs : List (String × Given)) (name : String) :
    (hs.addAll pairs).get? name = (hs.get? name).or (offered? pairs name) := by
  induction pairs generalizing hs with
  | nil => simp [addAll, offered?]
  | cons p rest ih =>
      have hcons : hs.addAll (p :: rest) = (hs.add p.1 p.2).addAll rest := rfl
      rw [hcons, ih, get?_add]
      unfold offered?
      rw [List.findSome?_cons]
      by_cases hp : p.1 = name
      · simp only [if_pos hp]
        cases p.2.stored? with
        | none => simp
        | some v => simp
      · simp only [if_neg hp]

theorem offered?_insert (pairs : List (String × Given)) (name : String) {g : Given}
    (hg : g.stored?.isSome) : offered? (Assoc.insert pairs name g) name = g.stored? := by
  obtain ⟨v, hv⟩ := Option.isSome_iff_exists.1 hg
  induction pairs with
  | nil => simp [Assoc.insert, offered?, hv]
  | cons p rest ih =>
      obtain ⟨n, w⟩ := p
      unfold offered? at ih ⊢
      rw [Assoc.insert]
      by_cases hn : n = name
      · rw [if_pos hn, List.findSome?_cons]
        simp [hn, hv]
      · rw [if_neg hn, List.findSome?_cons, if_neg hn]
        exact ih

end Headers

theorem Given.stored?_text {s : String} (h : s ≠ "") : (Given.text s).stored? = some (.text s) :=
  if_neg h

/-! ## Ids -/

namespace IdSupply

theorem next_injective {i j : IdSupply} (h : i.next.1 = j.next.1) : i.issued = j.issued := by
  unfold next at h
  have hlist := congrArg String.toList h
  simp only [String.toList_append, String.toList_ofList, List.append_cancel_left_eq] at hlist
  have := Numeral.digits_injective hlist
  omega

theorem next_ne_empty (i : IdSupply) : i.next.1 ≠ "" := by
  intro h
  have hlist := congrArg String.toList h
  simp [next, String.toList_append] at hlist

end IdSupply

/-! ## Frames -/

namespace Frame

theorem get?_set (f : Frame) (name key : String) (g : Given) :
    (f.set name g).get? key = if name = key then g.stored? else f.get? key :=
  f.headers.get?_set name key g

theorem get?_set_self (f : Frame) (name : String) (g : Given) :
    (f.set name g).get? name = g.stored? := by
  rw [get?_set, if_pos rfl]

theorem get?_set_of_ne (f : Frame) {name key : String} (h : name ≠ key) (g : Given) :
    (f.set name g).get? key = f.get? key := by
  rw [get?_set, if_neg h]

theorem get?_add (f : Frame) (pairs : List (String × Given)) (name : String) :
    (f.add pairs).get? name = (f.get? name).or (Headers.offered? pairs name) :=
  f.headers.get?_addAll pairs name

theorem headers_of_filled {f g : Frame} (h : f.filled = .ok g) : g.headers = f.headers := by
  unfold filled at h
  split at h
  · cases h
    rfl
  · split at h
    · cases h
      rfl
    · cases h

theorem rendered_eq_ok_iff {f g : Frame} :
    f.rendered = .ok g ↔ f.filled = .ok g ∧ g.number? = none := by
  unfold rendered
  cases f.filled with
  | error x => simp
  | ok h => cases hnumber : h.number? <;> aesop

theorem headers_of_rendered {f g : Frame} (h : f.rendered = .ok g) : g.headers = f.headers :=
  headers_of_filled (rendered_eq_ok_iff.1 h).1

theorem mem_wireHeaders_set {f : Frame} {name : String} {g : Given} {e : String × HeaderValue}
    (h : e ∈ (f.set name g).wireHeaders.entries) :
    e ∈ f.wireHeaders.entries ∨ e.2.number? = none := by
  have hlength : (f.set name g).announcesLength = f.announcesLength := rfl
  unfold wireHeaders at h ⊢
  rw [hlength] at h
  split at h
  · rename_i hannounces
    rw [if_pos hannounces]
    rcases Headers.mem_insert h with ⟨h, hne⟩ | rfl
    · rcases Headers.mem_set h with h | ⟨-, hv⟩
      · exact Or.inl (Headers.mem_insert_of_ne h hne _)
      · exact Or.inr (HeaderValue.Proper.of_stored? hv).number?
    · exact Or.inr rfl
  · rename_i hannounces
    rw [if_neg hannounces]
    exact (Headers.mem_set h).imp_right fun h => (HeaderValue.Proper.of_stored? h.2).number?

theorem filled_set (f : Frame) (name : String) (v : Given) :
    (f.set name v).filled = f.filled.map (·.set name v) := by
  have hmap : (f.set name v).map? = f.map? := rfl
  unfold filled
  rw [hmap]
  cases f.map? with
  | none => rfl
  | some j => cases hchars : j.writeChars <;> simp only [hchars] <;> rfl

theorem exists_rendered_set {f : Frame} (hf : ∃ g, f.rendered = .ok g) (name : String)
    (v : Given) : ∃ g, (f.set name v).rendered = .ok g := by
  obtain ⟨g, hg⟩ := hf
  obtain ⟨hfilled, hnumber⟩ := rendered_eq_ok_iff.1 hg
  refine ⟨g.set name v, rendered_eq_ok_iff.2 ⟨by rw [filled_set, hfilled]; rfl, ?_⟩⟩
  rw [number?, List.findSome?_eq_none_iff] at hnumber ⊢
  exact fun e he => (mem_wireHeaders_set he).elim (hnumber e) id

theorem get?_of_rendered {f g : Frame} (h : f.rendered = .ok g) (name : String) :
    g.get? name = f.get? name := by
  rw [get?, headers_of_rendered h, get?]

end Frame

end Stomp
