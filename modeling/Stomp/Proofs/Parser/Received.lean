import Stomp.Proofs.Action.Outcome
import Stomp.Proofs.Frame.Headers
import Stomp.Proofs.Frame.Wire
import Stomp.Proofs.Parser.Framing
import Stomp.Proofs.Parser.Giving
import Stomp.Proofs.Text.Decoding

/-!
# Frames that were received

What is known of a frame that a parser made of a head and a body: its command is that of the head
and can stand on a line again, no header has an empty value, and a map frame says that it is one.
-/

namespace Stomp

section Forall₂

variable {α β : Type} {R : α → β → Prop} {as : List α} {bs : List β}

theorem exists_of_mem_right (h : List.Forall₂ R as bs) {b : β} (hb : b ∈ bs) :
    ∃ a ∈ as, R a b := by
  induction h with
  | nil => cases hb
  | cons hr _ ih =>
      rcases List.mem_cons.1 hb with rfl | hb
      · exact ⟨_, List.mem_cons_self, hr⟩
      · obtain ⟨a, ha, hr⟩ := ih hb
        exact ⟨a, List.mem_cons_of_mem _ ha, hr⟩

theorem exists_of_mem_left (h : List.Forall₂ R as bs) {a : α} (ha : a ∈ as) : ∃ b ∈ bs, R a b :=
  exists_of_mem_right (List.Forall₂.flip h) ha

end Forall₂

namespace Escape

variable {legacy : Bool}

theorem eq_of_meaning? {c x : Char} (h : meaning? legacy c = some x) :
    x = '\n' ∨ x = '\\' ∨ x = '\r' ∨ x = ':' := by
  unfold meaning? at h
  split_ifs at h <;> cases h <;> simp_all

theorem eq_of_decode {s t : List Char} (h : decode legacy s = t)
    (ht : ∀ c ∈ t, c ≠ '\\' ∧ c ≠ '\r' ∧ c ≠ '\n' ∧ c ≠ ':') : s = t := by
  fun_induction decode legacy s generalizing t with
  | case1 c rest x hx ih =>
      subst h
      have hmem := ht x List.mem_cons_self
      rcases eq_of_meaning? hx with rfl | rfl | rfl | rfl
      · exact absurd rfl hmem.2.2.1
      · exact absurd rfl hmem.1
      · exact absurd rfl hmem.2.1
      · exact absurd rfl hmem.2.2.2
  | case2 c rest hx ih =>
      subst h
      exact absurd rfl (ht '\\' List.mem_cons_self).1
  | case3 c rest hc ih =>
      subst h
      rw [← ih rfl fun d hd => ht d (List.mem_cons_of_mem c hd)]
  | case4 => exact h

end Escape

namespace Headers

theorem get?_ofList {pairs : List (String × Given)} {name : String} {g : Given} {v : HeaderValue}
    (hmem : (name, g) ∈ pairs) (hall : ∀ p ∈ pairs, p.1 = name → p.2 = g)
    (hv : g.stored? = some v) : (ofList pairs).get? name = some v := by
  have hnone : empty.get? name = none := rfl
  rw [ofList, get?_addAll, hnone, Option.none_or]
  induction pairs with
  | nil => cases hmem
  | cons p pairs ih =>
      obtain ⟨hp, hpairs⟩ := List.forall_mem_cons.1 hall
      rw [offered?, List.findSome?_cons]
      by_cases hname : p.1 = name
      · rw [if_pos hname, hp hname, hv]
      · rw [if_neg hname]
        rcases List.mem_cons.1 hmem with rfl | hmem
        · exact absurd rfl hname
        · exact ih hmem hpairs

theorem get?_ofList_eq_none {pairs : List (String × Given)} {name : String}
    (h : ∀ p ∈ pairs, p.1 ≠ name) : (ofList pairs).get? name = none := by
  have hnone : empty.get? name = none := rfl
  rw [ofList, get?_addAll, hnone, Option.none_or, offered?_eq_none h]

end Headers

namespace Head

open Stomp.Action (exists_of_bind_eq_ok)

variable {legacy : Bool} {h : Head} {body : Bytes} {g : Frame}

/-- The head was read as the command and these pairs, of which the frame was made. -/
structure ReadAs (h : Head) (legacy : Bool) (body : Bytes) (pairs : List (String × HeaderValue))
    (g : Frame) : Prop where
  command : Bytes.toString? h.command = .ok g.command
  decoded : decodeHeaders legacy h.headers = .ok pairs
  headers : g.headers = Headers.ofList (pairs.map fun p => (p.1, p.2.given))
  map (j : Json) : g.map? = some j → asksForMap pairs = true ∧ Frame.readMap body = .ok j
  body : g.body = body
  legacy : g.legacy = legacy
  lengthHint : g.lengthHint = false

theorem exists_readAs (hg : h.frame legacy body = .ok g) :
    ∃ pairs, h.ReadAs legacy body pairs g := by
  unfold frame at hg
  split at hg
  · cases hg
  rename_i command hcommand
  split at hg
  · cases hg
  rename_i pairs hpairs
  dsimp only at hg
  split at hg
  · rename_i hasks
    unfold Frame.withMapBody at hg
    cases hread : Frame.readMap body with
    | error e =>
        rw [hread] at hg
        cases hg
    | ok j =>
        rw [hread] at hg
        cases hg
        refine ⟨pairs, hcommand, hpairs, rfl, fun k hk => ?_, rfl, rfl, rfl⟩
        cases hk
        exact ⟨hasks, hread⟩
  · cases hg
    exact ⟨pairs, hcommand, hpairs, rfl, nofun, rfl, rfl, rfl⟩

theorem map_fst_headers (h : Head) : h.headers.map Prod.fst = h.lines.map Prod.fst := by
  unfold headers
  split
  · rw [List.map_map]
    apply List.map_congr_left
    intro l _
    dsimp only [Function.comp_apply]
    split <;> rfl
  · rfl

/-- The header that is read from a line. -/
inductive Decoded (legacy : Bool) : Bytes × Option Bytes → String × HeaderValue → Prop
  | bare {raw : Bytes} {name : String} (h : decodePart legacy raw = .ok name) :
      Decoded legacy (raw, none) (name, .bare)
  | text {raw value : Bytes} {name s : String} (h : decodePart legacy raw = .ok name)
      (hvalue : decodePart legacy value = .ok s) :
      Decoded legacy (raw, some value) (name, .text s)

theorem Decoded.name {l : Bytes × Option Bytes} {p : String × HeaderValue}
    (h : Decoded legacy l p) : decodePart legacy l.1 = .ok p.1 := by
  cases h with
  | bare h => exact h
  | text h => exact h

theorem exists_of_decodeHeaders_cons {l : Bytes × Option Bytes}
    {lines : List (Bytes × Option Bytes)} {pairs : List (String × HeaderValue)}
    (h : decodeHeaders legacy (l :: lines) = .ok pairs) :
    ∃ p rest, pairs = p :: rest ∧ Decoded legacy l p ∧ decodeHeaders legacy lines = .ok rest := by
  obtain ⟨raw, value?⟩ := l
  rw [decodeHeaders] at h
  obtain ⟨name, hname, h⟩ := exists_of_bind_eq_ok h
  have hvalue : ∃ value : HeaderValue, Decoded legacy (raw, value?) (name, value) ∧ (do
      let rest ← decodeHeaders legacy lines
      pure ((name, value) :: rest)) = Except.ok pairs := by
    cases value? with
    | none => exact ⟨_, .bare hname, h⟩
    | some text =>
        obtain ⟨value, hmap, h⟩ := exists_of_bind_eq_ok h
        cases htext : decodePart legacy text with
        | error e =>
            rw [htext] at hmap
            cases hmap
        | ok s =>
            rw [htext] at hmap
            cases hmap
            exact ⟨_, .text hname htext, h⟩
  obtain ⟨value, hdecoded, h⟩ := hvalue
  obtain ⟨rest, hrest, h⟩ := exists_of_bind_eq_ok h
  exact ⟨(name, value), rest, (Except.ok.inj h).symm, hdecoded, hrest⟩

theorem forall₂_of_decodeHeaders {lines : List (Bytes × Option Bytes)}
    {pairs : List (String × HeaderValue)} (h : decodeHeaders legacy lines = .ok pairs) :
    List.Forall₂ (Decoded legacy) lines pairs := by
  induction lines generalizing pairs with
  | nil =>
      cases h
      exact .nil
  | cons l lines ih =>
      obtain ⟨p, rest, rfl, hdecoded, hrest⟩ := exists_of_decodeHeaders_cons h
      exact .cons hdecoded (ih hrest)

theorem decodeHeaders_cons {l : Bytes × Option Bytes} {p : String × HeaderValue}
    (h : Decoded legacy l p) {lines : List (Bytes × Option Bytes)}
    {pairs : List (String × HeaderValue)} (hrest : decodeHeaders legacy lines = .ok pairs) :
    decodeHeaders legacy (l :: lines) = .ok (p :: pairs) := by
  cases h with
  | bare hname =>
      simp only [decodeHeaders, hname, hrest]
      rfl
  | text hname hvalue =>
      simp only [decodeHeaders, hname, hvalue, hrest]
      rfl

theorem decodeHeaders_of_forall₂ {lines : List (Bytes × Option Bytes)}
    {pairs : List (String × HeaderValue)} (h : List.Forall₂ (Decoded legacy) lines pairs) :
    decodeHeaders legacy lines = .ok pairs := by
  induction h with
  | nil => rfl
  | cons hdecoded _ ih => exact decodeHeaders_cons hdecoded ih

/-- Where the lines have different names and one of them is spelled in one way only, there is one
header of that name. -/
theorem eq_of_mem_of_forall₂ {lines : List (Bytes × Option Bytes)}
    {pairs : List (String × HeaderValue)} (h : List.Forall₂ (Decoded legacy) lines pairs)
    (hnodup : (lines.map Prod.fst).Nodup) {name : String} {spelled : Bytes}
    (hspelled : ∀ raw, decodePart legacy raw = .ok name → raw = spelled)
    {p q : String × HeaderValue} (hp : p ∈ pairs) (hq : q ∈ pairs) (hpname : p.1 = name)
    (hqname : q.1 = name) : p = q := by
  induction h with
  | nil => cases hp
  | @cons l r lines rest hdecoded hrest ih =>
      rw [List.map_cons, List.nodup_cons] at hnodup
      have hlater : ∀ s ∈ rest, s.1 = name → r.1 ≠ name := by
        intro s hs hsname hrname
        obtain ⟨m, hm, hlast⟩ := exists_of_mem_right hrest hs
        have hsame : m.1 = l.1 := (hspelled _ (hsname ▸ hlast.name)).trans
          (hspelled _ (hrname ▸ hdecoded.name)).symm
        exact hnodup.1 (hsame ▸ List.mem_map_of_mem hm)
      rcases List.mem_cons.1 hp with rfl | hprest
      · rcases List.mem_cons.1 hq with rfl | hqrest
        · rfl
        · exact absurd hpname (hlater q hqrest hqname)
      · rcases List.mem_cons.1 hq with rfl | hqrest
        · exact absurd hqname (hlater p hprest hpname)
        · exact ih hnodup.2 hprest hqrest

theorem eq_of_decodePart {name : String}
    (hname : ∀ c ∈ name.toList, c ≠ '\\' ∧ c ≠ '\r' ∧ c ≠ '\n' ∧ c ≠ ':') {raw : Bytes}
    (h : decodePart legacy raw = .ok name) : raw = Bytes.ofString name := by
  rw [decodePart] at h
  split at h
  · rename_i cs hcs
    have hchars : Escape.decode legacy cs = name.toList := by
      rw [← Except.ok.inj h, String.toList_ofList]
    rw [Bytes.ofString, ← Escape.eq_of_decode hchars hname, Utf8.encode_of_decode hcs]
  · cases h

namespace ReadAs

variable {pairs : List (String × HeaderValue)}

theorem encode_command (hr : h.ReadAs legacy body pairs g) :
    Utf8.encode g.command.toList = h.command := by
  have hcommand := hr.command
  rw [Bytes.toString?] at hcommand
  split at hcommand
  · rename_i cs hcs
    rw [← Except.ok.inj hcommand, String.toList_ofList, Utf8.encode_of_decode hcs]
  · cases hcommand

theorem proper (hr : h.ReadAs legacy body pairs g) : ∀ e ∈ g.headers.entries, e.2.Proper := by
  rw [hr.headers]
  exact Headers.proper_of_mem_ofList _

theorem forall₂ (hr : h.ReadAs legacy body pairs g) :
    List.Forall₂ (Decoded legacy) h.headers pairs :=
  forall₂_of_decodeHeaders hr.decoded

theorem get?_of_mem (hr : h.ReadAs legacy body pairs g) (ht : h.Taken legacy) {name : String}
    (hname : ∀ c ∈ name.toList, c ≠ '\\' ∧ c ≠ '\r' ∧ c ≠ '\n' ∧ c ≠ ':') {v : HeaderValue}
    (hmem : (name, v) ∈ pairs) (hv : v.Proper) : g.get? name = some v := by
  have hnodup : (h.headers.map Prod.fst).Nodup := by
    rw [map_fst_headers]
    exact ht.nodup_lines
  rw [Frame.get?, hr.headers]
  apply Headers.get?_ofList (g := v.given) _ _ hv.stored?_given
  · exact List.mem_map.2 ⟨_, hmem, rfl⟩
  · intro p hp hpname
    obtain ⟨q, hq, rfl⟩ := List.mem_map.1 hp
    have heq := eq_of_mem_of_forall₂ hr.forall₂ hnodup
      (fun raw => eq_of_decodePart hname) hq hmem hpname rfl
    rw [heq]

theorem get?_transformation (hr : h.ReadAs false body pairs g) (ht : h.Taken false)
    (hasks : asksForMap pairs = true) :
    g.get? Name.transformation = some (.text mapTransformation) := by
  rw [asksForMap, decide_eq_true_iff] at hasks
  have hmem : (Name.transformation, .text mapTransformation) ∈ pairs :=
    List.mem_reverse.1 (Assoc.mem_of_get? hasks)
  exact hr.get?_of_mem ht (by rw [← List.forall_iff_forall_mem]; decide) hmem nofun

theorem command_ne (hr : h.ReadAs legacy body pairs g) (ht : h.Taken legacy) :
    g.command ≠ "" := by
  obtain ⟨-, b, rest, hcons, -⟩ := ht.command
  have hencode := hr.encode_command
  intro hempty
  rw [hempty, hcons] at hencode
  cases hencode

theorem lineFeed_not_mem_command (hr : h.ReadAs legacy body pairs g) (ht : h.Taken legacy) :
    '\n' ∉ g.command.toList := by
  intro hmem
  apply ht.command.1
  rw [← hr.encode_command]
  exact List.mem_flatMap.2 ⟨'\n', hmem, by decide⟩

theorem head?_command_ne (hr : h.ReadAs legacy body pairs g) (ht : h.Taken legacy) {c : Char}
    {b : UInt8} (hc : Utf8.encodeChar c = [b]) (hb : Parser.isSkipped legacy b = true) :
    g.command.toList.head? ≠ some c := by
  obtain ⟨-, first, rest, hcons, hfirst⟩ := ht.command
  have hencode := hr.encode_command
  intro hhead
  obtain ⟨cs, hchars⟩ := List.head?_eq_some_iff.1 hhead
  rw [hchars, Utf8.encode_cons, hc, hcons] at hencode
  obtain rfl : b = first := (List.cons.inj hencode).1
  rw [hb] at hfirst
  cases hfirst

/-- The frame is legible again, but for what the current form of a line allows and its reader did
not: carriage returns in the command, and names that are empty. -/
theorem legible (hr : h.ReadAs false body pairs g) (ht : h.Taken false)
    (hcommand : '\r' ∉ g.command.toList) (hnames : "" ∉ g.headers.names) : g.Legible := by
  constructor
  case command_ne => exact hr.command_ne ht
  case command_line =>
    intro c hc
    exact ⟨fun hcr => hcommand (hcr ▸ hc), fun hlf => hr.lineFeed_not_mem_command ht (hlf ▸ hc)⟩
  case command_head =>
    exact fun _ => hr.head?_command_ne ht (show Utf8.encodeChar '\x00' = [0] by decide) rfl
  case headers =>
    intro e he
    rw [hr.legacy]
    refine Frame.legibleHeader_false (hr.proper e he) ?_
    rintro rfl
    exact hnames (List.mem_map_of_mem he)

end ReadAs

end Head

theorem Parser.exists_readAs_of_next {p : Parser} {f : Frame}
    (h : p.next.1.result? = some (.ok f)) :
    ∃ (head : Head) (body : Bytes) (pairs : List (String × HeaderValue)),
      head.ReadAs p.legacy body pairs f := by
  rw [result?_next] at h
  obtain ⟨head, body, after, -, -, hframe, -⟩ := takeFrame_of_some h
  rw [legacy_ready] at hframe
  exact ⟨head, body, Head.exists_readAs hframe.symm⟩

theorem Parser.Gives.proper {p q : Parser} {data : Bytes} {f : Frame}
    {results : List (Except Malformed Frame)} (h : p.Gives data (.ok f :: results) q)
    {name : String} : ∀ v ∈ f.get? name, v.Proper := by
  obtain ⟨head, body, pairs, hread⟩ := exists_readAs_of_next h.first
  exact fun v hv => hread.proper (name, v) (Assoc.mem_of_get? hv)

theorem Parser.legacy_of_next {p : Parser} {f : Frame} (h : p.next.1.result? = some (.ok f)) :
    f.legacy = p.legacy := by
  obtain ⟨head, body, pairs, hread⟩ := exists_readAs_of_next h
  exact hread.legacy

end Stomp
