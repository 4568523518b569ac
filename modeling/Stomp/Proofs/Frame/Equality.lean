import Stomp.Frame.Equality
import Stomp.Proofs.Json.Equality
import Stomp.Proofs.Parser.MapRoundTrip

/-!
# When frames are equal

Equality of frames without reals is reflexive and symmetric, whatever kinds of frames are compared.
It is transitive but for one gap: a plain frame counts as a map frame with a null, so that plain
frames of different bodies are both equal to a map frame that holds a null (`Bridged`,
`equivalence_unless_bridged`).
-/

namespace Stomp

theorem pointwise_iff_map_eq {ι α β : Type} {φ : α → β} {f g : ι → Option α} :
    Pointwise (fun x y => φ y = φ x) f g ↔ ∀ i, (f i).map φ = (g i).map φ := by
  refine forall_congr' fun i => ?_
  generalize f i = o, g i = p
  cases o <;> cases p <;> simp [eq_comm]

namespace Headers

def norm? (hs : Headers) (name : String) : Option HeaderValue := (hs.get? name).map HeaderValue.norm

theorem same_iff {hs ks : Headers} : hs.same ks = true ↔ hs.norm? = ks.norm? := by
  have hpointwise := Assoc.pointwise_iff (R := fun v w => w.norm = v.norm) hs.nodup_names
    ks.nodup_names
  rw [pointwise_iff_map_eq] at hpointwise
  rw [funext_iff]
  refine Iff.trans ?_ hpointwise
  simp [same, get?]

end Headers

namespace Frame

variable {f g h : Frame}

/-- There are no reals in the structure of the frame, and the names in its objects differ. -/
def Comparable (f : Frame) : Prop := f.content.Comparable

/-- Two plain frames of different bodies, and between them a map frame that holds a null. -/
structure Bridged (f g h : Frame) : Prop where
  plain_left : f.isMap = false
  holds_null : g.map? = some .null
  plain_right : h.isMap = false
  body_ne : f.body ≠ h.body

theorem comparable_of_withMapBody {body : Bytes} (hg : f.withMapBody body = .ok g)
    (hreals : g.content.RealFree) : g.Comparable := by
  unfold withMapBody at hg
  split at hg
  · rename_i hread
    cases hg
    exact (Json.proper_of_readMap hread).comparable hreals
  · cases hg

theorem content_of_plain (hf : f.isMap = false) : f.content = .null := by
  rw [isMap, Option.isSome_eq_false_iff, Option.isNone_iff_eq_none] at hf
  rw [content, hf]
  rfl

theorem map?_of_content (hf : f.isMap = true) : f.map? = some f.content := by
  obtain ⟨j, hj⟩ := Option.isSome_iff_exists.1 hf
  rw [content, hj]
  rfl

theorem same_iff :
    f.same g = true ↔ f.command = g.command ∧ f.headers.norm? = g.headers.norm? ∧
      if f.isMap || g.isMap then f.content.same g.content = true else f.body = g.body := by
  rw [same, Bool.and_eq_true, Bool.and_eq_true, beq_iff_eq, Headers.same_iff, and_assoc]
  split
  · rfl
  · rw [beq_iff_eq]

theorem same_content (hfg : f.same g = true) : f.content.same g.content = true := by
  obtain ⟨-, -, hbodies⟩ := same_iff.1 hfg
  split at hbodies
  · exact hbodies
  · rename_i hplain
    rw [Bool.not_eq_true, Bool.or_eq_false_iff] at hplain
    rw [content_of_plain hplain.1, content_of_plain hplain.2]
    rfl

theorem same_self (hf : f.Comparable) : f.same f = true := by
  refine same_iff.2 ⟨rfl, rfl, ?_⟩
  split
  · exact Json.same_refl hf
  · rfl

theorem same_swap (hf : f.Comparable) (hg : g.Comparable) (hfg : f.same g = true) :
    g.same f = true := by
  obtain ⟨hcommand, hheaders, hbodies⟩ := same_iff.1 hfg
  refine same_iff.2 ⟨hcommand.symm, hheaders.symm, ?_⟩
  rw [Bool.or_comm]
  split at hbodies
  · rw [if_pos ‹_›]
    exact Json.same_symm hf hg hbodies
  · rw [if_neg ‹_›, hbodies]

theorem body_eq_of_same (hf : f.isMap = false) (hg : g.isMap = false) (hfg : f.same g = true) :
    f.body = g.body := by
  obtain ⟨-, -, hbodies⟩ := same_iff.1 hfg
  rwa [hf, hg, Bool.or_self, if_neg Bool.false_ne_true] at hbodies

theorem same_of_not_bridged (hf : f.Comparable) (hg : g.Comparable) (hh : h.Comparable)
    (hfg : f.same g = true) (hgh : g.same h = true) (hbridged : ¬ Bridged f g h) :
    f.same h = true := by
  have hcontent := Json.same_trans hf hg hh (same_content hfg) (same_content hgh)
  obtain ⟨hcommand, hheaders, -⟩ := same_iff.1 hfg
  obtain ⟨hcommand', hheaders', -⟩ := same_iff.1 hgh
  refine same_iff.2 ⟨hcommand.trans hcommand', hheaders.trans hheaders', ?_⟩
  split
  · exact hcontent
  · rename_i hplain
    rw [Bool.not_eq_true, Bool.or_eq_false_iff] at hplain
    obtain ⟨hplain, hplain'⟩ := hplain
    cases hmap : g.isMap with
    | false => exact (body_eq_of_same hplain hmap hfg).trans (body_eq_of_same hmap hplain' hgh)
    | true =>
        have hnull := same_content hfg
        rw [content_of_plain hplain, Json.same_null_iff] at hnull
        by_contra hbody
        exact hbridged ⟨hplain, by rw [map?_of_content hmap, hnull], hplain', hbody⟩

theorem not_same_of_bridged (hbridged : Bridged f g h) : f.same h = false := by
  rw [Bool.eq_false_iff]
  intro hfh
  exact hbridged.body_ne (body_eq_of_same hbridged.plain_left hbridged.plain_right hfh)

/-- Each frame is equal to itself, and it does not matter on which side a frame stands. Of three
frames of which the first two and the last two are equal, the first and the last are equal too,
unless they are plain frames of different bodies, and a map frame that holds a null stands between
them. -/
theorem equivalence_unless_bridged (hf : f.Comparable) (hg : g.Comparable) (hh : h.Comparable) :
    f.same f = true ∧ f.same g = g.same f ∧
      (f.same g = true → g.same h = true → (f.same h = true ↔ ¬ Bridged f g h)) := by
  refine ⟨same_self hf, ?_, fun hfg hgh => ⟨?_, same_of_not_bridged hf hg hh hfg hgh⟩⟩
  · rw [Bool.eq_iff_iff]
    exact ⟨same_swap hf hg, same_swap hg hf⟩
  · intro hfh hbridged
    rw [not_same_of_bridged hbridged] at hfh
    cases hfh

def stock (one : Json) : Frame where
  command := Verb.send
  headers := { entries := [("destination", .text "/q"), ("urgent", .bare)] }
  map? := some (.object [("n", one), ("on", .list [one, .null])])

def ordered : Frame where
  command := Verb.send
  headers := { entries := [("urgent", .bare), ("destination", .text "/q")] }

def restocked : Bytes := Bytes.ofString "\x7b\"on\": [true, null], \"n\": true\x7d"

theorem written_restocked :
    Json.Written (.object [("on", .list [.bool true, .null]), ("n", .bool true)])
      "\x7b\"on\": [true, null], \"n\": true\x7d".toList :=
  Json.written_object (by decide)
    (Json.written_list Json.written_true (Json.writtenItems_cons Json.written_null
      Json.writtenItems_nil))
    (Json.writtenMembers_cons Json.written_true Json.writtenMembers_nil)

theorem comparable_stock {one : Json} (hone : one.Comparable) : (stock one).Comparable := by
  have hitems : (Json.list [one, .null]).Comparable := by
    apply Json.Comparable.list
    simp only [List.forall_mem_cons]
    exact ⟨hone, .null, List.forall_mem_nil _⟩
  apply Json.Comparable.object
  · show ["n", "on"].Nodup
    decide
  · simp only [List.forall_mem_cons]
    exact ⟨hone, hitems, List.forall_mem_nil _⟩

theorem equivalence_unless_bridged_stock :
    let number := stock (.int 1)
    let flag := stock (.bool true)
    ∃ g, ordered.withMapBody restocked = .ok g ∧
      number.same number = true ∧ number.same g = g.same number ∧
      number.same g = true ∧ g.same flag = true ∧
      (number.same flag = true ↔ ¬ Bridged number g flag) := by
  intro number flag
  let members : List (String × Json) := [("on", .list [.bool true, .null]), ("n", .bool true)]
  let g : Frame := { ordered with body := restocked, map? := some (.object members) }
  have hread : ordered.withMapBody restocked = .ok g := by
    have hmap : readMap restocked = .ok (.object members) := written_restocked.readMap_encode
    rw [withMapBody, hmap]
  have hitems : (Json.list [.bool true, .null]).RealFree := by
    apply Json.RealFree.list
    simp only [List.forall_mem_cons]
    exact ⟨.bool true, .null, List.forall_mem_nil _⟩
  have hreals : g.content.RealFree := by
    apply Json.RealFree.object
    simp only [members, List.forall_mem_cons]
    exact ⟨hitems, .bool true, List.forall_mem_nil _⟩
  have hg := comparable_of_withMapBody hread hreals
  obtain ⟨hself, hswap, hmiddle⟩ :=
    equivalence_unless_bridged (comparable_stock (.int 1)) hg (comparable_stock (.bool true))
  have hleft : number.same g = true := by decide +kernel
  have hright : g.same flag = true := by decide +kernel
  exact ⟨g, hread, hself, hswap, hleft, hright, hmiddle hleft hright⟩

/-- Two messages with nothing in common but their command are both equal to a map frame, which is
read of a body that spells a null. -/
theorem not_transitive_null :
    let hello : Frame := { command := Verb.send, body := Bytes.ofString "hello" }
    let bye : Frame := { command := Verb.send, body := Bytes.ofString "bye" }
    let nothing : Frame :=
      { command := Verb.send, body := Bytes.ofString "null", map? := some .null }
    withMapBody { command := Verb.send } (Bytes.ofString "null") = .ok nothing ∧
      hello.Comparable ∧ nothing.Comparable ∧ bye.Comparable ∧
      hello.same nothing = true ∧ nothing.same bye = true ∧ hello.same bye = false := by
  refine ⟨?_, .null, .null, .null, ?_, ?_, ?_⟩
  · rfl
  · decide +kernel
  · decide +kernel
  · decide +kernel

end Frame

end Stomp
