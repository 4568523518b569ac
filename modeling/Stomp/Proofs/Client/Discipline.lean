import Mathlib.Logic.Function.Basic
import Stomp.Proofs.Client.Posting

/-!
# Receipts over many sends

An application sends bodies, and frames of its own, which it may send again as the earlier call left
them. A frame that was to be sent with a receipt keeps the id. If it is written again with one, the
id is a new one; if it is written without, the old one goes out with it, and nobody waits for it.
This is the only way in which a receipt is asked for that nobody waits for (`disciplined_iff`).
-/

namespace Stomp.Client

open Stomp.Action

open Link (Wrote)

variable {κ R : Type}

/-- A call that sends. The frames of the application are numbered. -/
inductive Dispatch where
  | frame (k : Nat) (sync? : Option Bool)
  | prepared (k : Nat) (destination : Given) (headers : List (String × Given))
    (sync? : Option Bool)
  | body (destination : Given) (text : Bytes) (headers : List (String × Given))
    (sync? : Option Bool)

/-- What came of a call: the frame that was announced, and the bytes that were written. -/
structure Posting where
  number? : Option Nat
  sync : Bool
  returned : Bool
  offered : List Frame
  written : List Bytes

namespace Dispatch

def number? : Dispatch → Option Nat
  | .frame k _ | .prepared k _ _ _ => some k
  | .body _ _ _ _ => none

def sync? : Dispatch → Option Bool
  | .frame _ sync? | .prepared _ _ _ sync? | .body _ _ _ sync? => sync?

def headers : Dispatch → List (String × Given)
  | .frame _ _ => []
  | .prepared _ _ headers _ | .body _ _ headers _ => headers

def message (frames : Nat → Frame) (p : Protocol) : Dispatch → Frame
  | .frame k _ => frames k
  | .prepared k destination headers _ =>
    ((frames k).add headers).set Name.destination destination
  | .body destination text headers _ => p.send destination text headers .absent

variable [Scale R] [Channel κ R]

def call : Dispatch → InHand (Error R) (Client κ R) Unit
  | .frame _ sync? => sendFrame sync?
  | .prepared _ destination headers sync? => sendPrepared destination headers sync?
  | .body destination text headers sync? =>
    Action.beside (sendBody destination text headers sync?)

def held (d : Dispatch) (frames : Nat → Frame) : Frame :=
  d.number?.elim { headers := .empty } frames

/-- The frames of the application and the client after the call, whether it returns or fails. -/
def perform (d : Dispatch) (frames : Nat → Frame) (c : Client κ R) :
    (Nat → Frame) × Client κ R :=
  let (f, c) := Action.after d.call (d.held frames, c)
  (d.number?.elim frames fun k => Function.update frames k f, c)

def posting (d : Dispatch) (frames : Nat → Frame) (c : Client κ R) : Posting :=
  let before := c.transport.link
  let after := (d.perform frames c).2.transport.link
  { number? := d.number?
    sync := d.sync?.getD c.config.sync
    returned := (Action.result d.call (d.held frames, c)).isOk
    offered := after.offered.drop before.offered.length
    written := after.written.drop before.written.length }

end Dispatch

def postings [Scale R] [Channel κ R] (frames : Nat → Frame) (c : Client κ R) :
    List Dispatch → List Posting
  | [] => []
  | d :: ds => d.posting frames c :: postings (d.perform frames c).1 (d.perform frames c).2 ds

namespace Posting

/-- The frame that was announced was written, once; or nothing was, and the call failed. -/
def Exact (a : Posting) : Prop :=
  (a.returned = false ∧ a.written = []) ∨
    ∃ f g, a.offered = [f] ∧ f.rendered = .ok g ∧ a.written = [g.wire]

def receipt? (a : Posting) : Option HeaderValue :=
  if a.written = [] then none else a.offered.head?.bind fun f => f.get? Name.receipt

theorem written_ne_nil {a : Posting} {v : HeaderValue} (h : a.receipt? = some v) :
    a.written ≠ [] := by
  intro hnone
  rw [receipt?, if_pos hnone] at h
  cases h

/-- A frame was written, and no receipt is waited for. -/
def Plain (a : Posting) : Prop := a.written ≠ [] ∧ a.sync = false

/-- It is not so that a frame was to be sent with a receipt, and then is written without. -/
def Compatible (a b : Posting) : Prop :=
  ∀ k, a.number? = some k → b.number? = some k → a.sync = true → ¬ b.Plain

end Posting

/-- Of the frames that are written, those ask for a receipt for which the call waits, each for
another one. -/
structure Disciplined (postings : List Posting) : Prop where
  receipt_iff : ∀ a ∈ postings, a.written ≠ [] → (a.receipt?.isSome ↔ a.sync = true)
  nodup : (postings.filterMap Posting.receipt?).Nodup

/-! ## One call -/

/-- The frame of the application has the id of a receipt. -/
def Marked (frames : Nat → Frame) (k : Nat) : Prop := ((frames k).get? Name.receipt).isSome

theorem get?_message {d : Dispatch} (hd : ∀ q ∈ d.headers, q.1 ≠ Name.receipt)
    (frames : Nat → Frame) (p : Protocol) :
    (d.message frames p).get? Name.receipt =
      d.number?.bind fun k => (frames k).get? Name.receipt := by
  have hdestination : Name.destination ≠ Name.receipt := by decide
  have htransaction : Name.transaction ≠ Name.receipt := by decide
  have hoffered := Headers.offered?_eq_none hd
  cases d with
  | frame k sync? => rfl
  | prepared k destination headers sync? =>
      rw [Dispatch.message, Frame.get?_set_of_ne _ hdestination, Frame.get?_add]
      exact (congrArg _ hoffered).trans Option.or_none
  | body destination text headers sync? =>
      rw [Dispatch.message, Protocol.send, Command.send, Frame.get?_set_of_ne _ htransaction,
        Frame.get?_set_of_ne _ hdestination, Frame.get?_add]
      exact (congrArg _ hoffered).trans Option.or_none

section Call

variable [Scale R] [Channel κ R] {c : Client κ R} {p : Protocol} {frames : Nat → Frame}
  {d : Dispatch}

theorem keeps_call (d : Dispatch) :
    Keeps (Beside SameProtocol) (d.call : InHand (Error R) (Client κ R) Unit) := by
  cases d with
  | frame k sync? => exact keeps_sendFrame SameProtocol sync?
  | prepared k destination headers sync? =>
      exact keeps_sendPrepared SameProtocol destination headers sync?
  | body destination text headers sync? =>
      exact (keeps_sendBody SameProtocol destination text headers sync?).on fun _ _ h => h

theorem isSome_protocol?_perform (hc : c.protocol?.isSome) (d : Dispatch) (frames : Nat → Frame) :
    (d.perform frames c).2.protocol?.isSome := by
  have hsame : c.SameProtocol (d.perform frames c).2 := (keeps_call d).after (d.held frames, c)
  rw [hsame]
  exact hc

def Leaving (d : Dispatch) (f : Frame) (c : Client κ R) (returned : Bool)
    (q : Frame × Client κ R) : Prop :=
  ∃ g, Posted f d.sync? c returned (g, q.2) ∧ (d.number?.isSome → q.1 = g)

theorem leaving_call (hp : c.protocol? = some p) (d : Dispatch) (frames : Nat → Frame) :
    Outcome (fun _ => Leaving d (d.message frames p) c true)
      (fun _ => Leaving d (d.message frames p) c false)
      ((d.call : InHand (Error R) (Client κ R) Unit) (d.held frames, c)) := by
  have hc : c.protocol?.isSome := Option.isSome_iff_exists.2 ⟨p, hp⟩
  cases d with
  | frame k sync? =>
      have hsend := posted_sendFrame hc (frames k) sync?
      exact hsend.mono (fun _ q h => ⟨q.1, h, fun _ => rfl⟩) (fun _ q h => ⟨q.1, h, fun _ => rfl⟩)
  | prepared k destination headers sync? =>
      have hsend := posted_sendPrepared hc (frames k) destination headers sync?
      exact hsend.mono (fun _ q h => ⟨q.1, h, fun _ => rfl⟩) (fun _ q h => ⟨q.1, h, fun _ => rfl⟩)
  | body destination text headers sync? =>
      have hsend := posted_sendBody hp destination text headers sync?
      exact (Outcome.beside (p := (_, c)) hsend).mono
        (fun _ _ ⟨⟨g, hposted⟩, _⟩ => ⟨g, hposted, nofun⟩)
        (fun _ _ ⟨⟨g, hposted⟩, _⟩ => ⟨g, hposted, nofun⟩)

theorem exists_posted (hp : c.protocol? = some p) (d : Dispatch) (frames : Nat → Frame) :
    ∃ g, Posted (d.message frames p) d.sync? c (d.posting frames c).returned
        (g, (d.perform frames c).2) ∧
      ∀ j, (d.perform frames c).1 j = if d.number? = some j then g else frames j := by
  have hcall := leaving_call hp d frames
  obtain ⟨g, hposted, hg⟩ :=
    outcome_result (P := fun r => Leaving d (d.message frames p) c r.isOk) hcall
  refine ⟨g, hposted, fun j => ?_⟩
  unfold Dispatch.perform
  dsimp only
  cases hk : d.number? with
  | none => rw [if_neg nofun, Option.elim_none]
  | some k =>
      rw [Option.elim_some, Function.update_apply, hg (by rw [hk]; rfl)]
      simp only [Option.some.injEq, eq_comm]

theorem of_wrote {f : Frame} (h : Wrote f c.transport.link (d.perform frames c).2.transport.link) :
    ∃ g, (d.posting frames c).offered = [f] ∧ f.rendered = .ok g ∧
      (d.posting frames c).written = [g.wire] := by
  obtain ⟨g, hg, hoffered, hwritten⟩ := h
  refine ⟨g, ?_, hg, ?_⟩
  · dsimp only [Dispatch.posting]
    rw [hoffered, List.drop_left]
  · dsimp only [Dispatch.posting]
    rw [hwritten, List.drop_left]

theorem written_posting (hp : c.protocol? = some p) (d : Dispatch) (frames : Nat → Frame) :
    ((d.posting frames c).returned = false ∧ (d.posting frames c).written = []) ∨
      ∃ g, (d.posting frames c).offered = [c.stamped (d.message frames p) d.sync?] ∧
        (c.stamped (d.message frames p) d.sync?).rendered = .ok g ∧
        (d.posting frames c).written = [g.wire] := by
  obtain ⟨_, hposted, -⟩ := exists_posted hp d frames
  cases hreturned : (d.posting frames c).returned with
  | true => exact Or.inr (of_wrote (hposted.wrote hreturned))
  | false =>
      rcases hposted.sends with hsame | ⟨_, rfl, hwrote⟩
      · refine Or.inl ⟨rfl, ?_⟩
        dsimp only [Dispatch.posting] at hsame ⊢
        rw [hsame, List.drop_length]
      · exact Or.inr (of_wrote hwrote)

theorem exact_posting (hc : c.protocol?.isSome) (d : Dispatch) (frames : Nat → Frame) :
    (d.posting frames c).Exact := by
  obtain ⟨p, hp⟩ := Option.isSome_iff_exists.1 hc
  exact (written_posting hp d frames).imp_right fun ⟨g, h⟩ => ⟨_, g, h⟩

theorem receipt?_posting (hc : c.protocol?.isSome) (hd : ∀ q ∈ d.headers, q.1 ≠ Name.receipt)
    (hwritten : (d.posting frames c).written ≠ []) :
    (d.posting frames c).receipt? =
      if (d.posting frames c).sync = true then some (.text c.ids.next.1)
      else d.number?.bind fun k => (frames k).get? Name.receipt := by
  obtain ⟨p, hp⟩ := Option.isSome_iff_exists.1 hc
  rcases written_posting hp d frames with ⟨-, hnone⟩ | ⟨g, hoffered, -, -⟩
  · exact absurd hnone hwritten
  · rw [Posting.receipt?, if_neg hwritten, hoffered, List.head?_cons, Option.bind_some,
      get?_stamped, get?_message hd]
    rfl

theorem marked_perform (hc : c.protocol?.isSome) (hd : ∀ q ∈ d.headers, q.1 ≠ Name.receipt)
    (j : Nat) :
    Marked (d.perform frames c).1 j ↔
      Marked frames j ∨ d.number? = some j ∧ (d.posting frames c).sync = true := by
  obtain ⟨p, hp⟩ := Option.isSome_iff_exists.1 hc
  obtain ⟨g, hposted, hframes⟩ := exists_posted hp d frames
  unfold Marked
  rw [hframes j]
  by_cases hj : d.number? = some j
  · have hg : g.get? Name.receipt = (c.stamped (d.message frames p) d.sync?).get? Name.receipt :=
      congrArg (fun hs : Headers => hs.get? Name.receipt) hposted.headers
    rw [if_pos hj, hg, get?_stamped, get?_message hd, hj, Option.bind_some]
    have hsync : (d.posting frames c).sync = d.sync?.getD c.config.sync := rfl
    rw [hsync]
    split_ifs with h <;> simp [h]
  · rw [if_neg hj]
    simp [hj]

/-- A call breaks the rule only where it writes a frame with an id of an earlier one. -/
theorem receipt_iff_posting (hc : c.protocol?.isSome) (hd : ∀ q ∈ d.headers, q.1 ≠ Name.receipt) :
    ((d.posting frames c).written ≠ [] →
        ((d.posting frames c).receipt?.isSome ↔ (d.posting frames c).sync = true)) ↔
      ∀ k, (d.posting frames c).number? = some k → Marked frames k →
        ¬ (d.posting frames c).Plain := by
  have hnumber : (d.posting frames c).number? = d.number? := rfl
  rw [hnumber]
  constructor
  · rintro hrule k hk hmarked ⟨hwritten, hsync⟩
    have hreceipt := receipt?_posting hc hd hwritten
    rw [hsync, if_neg Bool.false_ne_true, hk, Option.bind_some] at hreceipt
    have hsome := (hrule hwritten).1 (by rw [hreceipt]; exact hmarked)
    rw [hsync] at hsome
    cases hsome
  · intro hplain hwritten
    rw [receipt?_posting hc hd hwritten]
    split_ifs with hsync
    · simp [hsync]
    · have hunmarked : (d.number?.bind fun k => (frames k).get? Name.receipt).isSome = false := by
        cases hk : d.number? with
        | none => rfl
        | some k =>
            refine Bool.eq_false_iff.2 fun hmarked => hplain k hk hmarked ⟨hwritten, ?_⟩
            exact Bool.eq_false_iff.2 hsync
      rw [hunmarked, Bool.eq_false_iff.2 hsync]

end Call

/-! ## Many calls -/

section Calls

variable [Scale R] [Channel κ R] {c : Client κ R} {frames : Nat → Frame} {ds : List Dispatch}

theorem exact_postings (hc : c.protocol?.isSome) (frames : Nat → Frame) (ds : List Dispatch) :
    ∀ a ∈ postings frames c ds, a.Exact := by
  induction ds generalizing c frames with
  | nil => exact List.forall_mem_nil _
  | cons d ds ih =>
      rw [postings, List.forall_mem_cons]
      exact ⟨exact_posting hc d frames, ih (isSome_protocol?_perform hc d frames) _⟩

theorem receipt_iff_postings (hc : c.protocol?.isSome) (frames : Nat → Frame)
    (hds : ∀ d ∈ ds, ∀ q ∈ d.headers, q.1 ≠ Name.receipt) :
    (∀ a ∈ postings frames c ds, a.written ≠ [] → (a.receipt?.isSome ↔ a.sync = true)) ↔
      (postings frames c ds).Pairwise Posting.Compatible ∧
        ∀ a ∈ postings frames c ds, ∀ k, a.number? = some k → Marked frames k → ¬ a.Plain := by
  induction ds generalizing c frames with
  | nil => simp [postings]
  | cons d ds ih =>
      obtain ⟨hd, hds⟩ := List.forall_mem_cons.1 hds
      rw [postings, List.forall_mem_cons, List.forall_mem_cons, List.pairwise_cons,
        receipt_iff_posting hc hd, ih (isSome_protocol?_perform hc d frames) _ hds]
      simp only [marked_perform hc hd]
      constructor
      · rintro ⟨hhead, hpairs, hrest⟩
        refine ⟨⟨fun b hb k ha hk hsync => hrest b hb k hk (Or.inr ⟨ha, hsync⟩), hpairs⟩, hhead,
          fun b hb k hk hmarked => hrest b hb k hk (Or.inl hmarked)⟩
      · rintro ⟨⟨hcompatible, hpairs⟩, hhead, hrest⟩
        refine ⟨hhead, hpairs, fun b hb k hk hmarked => ?_⟩
        rcases hmarked with hmarked | ⟨ha, hsync⟩
        · exact hrest b hb k hk hmarked
        · exact hcompatible b hb k ha hk hsync

theorem issued_perform (hc : c.protocol?.isSome) (d : Dispatch) (frames : Nat → Frame) :
    c.ids.issued + (if (d.posting frames c).sync = true then 1 else 0) ≤
      (d.perform frames c).2.ids.issued := by
  obtain ⟨p, hp⟩ := Option.isSome_iff_exists.1 hc
  obtain ⟨_, hposted, -⟩ := exists_posted hp d frames
  exact hposted.issued

theorem exists_id_of_mem (hc : c.protocol?.isSome)
    (hds : ∀ d ∈ ds, ∀ q ∈ d.headers, q.1 ≠ Name.receipt) :
    ∀ a ∈ postings frames c ds, a.sync = true → a.written ≠ [] →
      ∃ i : IdSupply, c.ids.issued ≤ i.issued ∧ a.receipt? = some (.text i.next.1) := by
  induction ds generalizing c frames with
  | nil => exact List.forall_mem_nil _
  | cons d ds ih =>
      obtain ⟨hd, hds⟩ := List.forall_mem_cons.1 hds
      rw [postings, List.forall_mem_cons]
      constructor
      · intro hsync hwritten
        refine ⟨c.ids, le_rfl, ?_⟩
        rw [receipt?_posting hc hd hwritten, if_pos hsync]
      · intro a ha hsync hwritten
        obtain ⟨i, hi, hreceipt⟩ :=
          ih (isSome_protocol?_perform hc d frames) hds a ha hsync hwritten
        have hissued := issued_perform hc d frames
        exact ⟨i, by omega, hreceipt⟩

theorem nodup_receipts (hc : c.protocol?.isSome)
    (hds : ∀ d ∈ ds, ∀ q ∈ d.headers, q.1 ≠ Name.receipt)
    (hrule : ∀ a ∈ postings frames c ds, a.written ≠ [] →
      (a.receipt?.isSome ↔ a.sync = true)) :
    ((postings frames c ds).filterMap Posting.receipt?).Nodup := by
  induction ds generalizing c frames with
  | nil => exact List.nodup_nil
  | cons d ds ih =>
      obtain ⟨hd, hlater⟩ := List.forall_mem_cons.1 hds
      rw [postings, List.forall_mem_cons] at hrule
      obtain ⟨hhead, hrest⟩ := hrule
      have hc' := isSome_protocol?_perform hc d frames
      have hnodup := ih hc' hlater hrest
      rw [postings, List.filterMap_cons]
      cases hreceipt : (d.posting frames c).receipt? with
      | none => exact hnodup
      | some v =>
          have hwritten := Posting.written_ne_nil hreceipt
          have hsync := (hhead hwritten).1 (by rw [hreceipt]; rfl)
          rw [receipt?_posting hc hd hwritten, if_pos hsync] at hreceipt
          refine List.nodup_cons.2 ⟨fun hmem => ?_, hnodup⟩
          obtain ⟨b, hb, hbv⟩ := List.mem_filterMap.1 hmem
          have hbwritten := Posting.written_ne_nil hbv
          have hbsync := (hrest b hb hbwritten).1 (by rw [hbv]; rfl)
          obtain ⟨i, hi, hid⟩ := exists_id_of_mem hc' hlater b hb hbsync hbwritten
          have hissued := issued_perform hc d frames
          rw [if_pos hsync] at hissued
          have htext := (Option.some.inj hreceipt).trans (Option.some.inj (hbv.symm.trans hid))
          have heq := IdSupply.next_injective (HeaderValue.text.inj htext)
          omega

/-- Each call of a connected client writes one frame, or fails and writes nothing. A receipt is
asked for where, and only where, the call waits for it, each time another one, if and only if no
frame that was to be sent with a receipt is written later without one. -/
theorem disciplined_iff (hc : c.protocol?.isSome)
    (hframes : ∀ k, (frames k).get? Name.receipt = none)
    (hds : ∀ d ∈ ds, ∀ q ∈ d.headers, q.1 ≠ Name.receipt) :
    (∀ a ∈ postings frames c ds, a.Exact) ∧
      (Disciplined (postings frames c ds) ↔
        (postings frames c ds).Pairwise Posting.Compatible) := by
  have hunmarked (k : Nat) : ¬ Marked frames k := by
    rw [Marked, hframes k]
    exact Bool.false_ne_true
  have hiff := receipt_iff_postings hc frames hds
  refine ⟨exact_postings hc frames ds, fun h => (hiff.1 h.receipt_iff).1, fun h => ?_⟩
  have hrule := hiff.2 ⟨h, fun a _ k _ hmarked => absurd hmarked (hunmarked k)⟩
  exact ⟨hrule, nodup_receipts hc hds hrule⟩

end Calls

def forwarded : Nat → Frame := fun _ =>
  { command := "MESSAGE"
    headers := Headers.ofList [("message-id", .text "1")]
    body := [104, 105] }

def confirming : Client (Script Rat) Rat :=
  hearing [Bytes.ofString "RECEIPT\nreceipt-id:uid-1\n\n\x00"]

/-- The frame is sent without a receipt, and then with one. -/
theorem disciplined_iff_forwarded :
    let ps := postings forwarded confirming
      [.frame 0 (some false), .prepared 0 (.text "/q") [] (some true)]
    ps.map Posting.written =
        [[Bytes.ofString "MESSAGE\nmessage-id:1\n\nhi\x00"],
          [Bytes.ofString "MESSAGE\nmessage-id:1\ndestination:/q\nreceipt:uid-1\n\nhi\x00"]] ∧
      ps.map Posting.returned = [true, true] ∧ (∀ a ∈ ps, a.Exact) ∧ Disciplined ps := by
  intro ps
  have hheaders : ∀ d ∈ ([.frame 0 (some false), .prepared 0 (.text "/q") [] (some true)] :
      List Dispatch), ∀ q ∈ d.headers, q.1 ≠ Name.receipt := by decide
  obtain ⟨hexact, hiff⟩ :
      (∀ a ∈ ps, a.Exact) ∧ (Disciplined ps ↔ ps.Pairwise Posting.Compatible) :=
    disciplined_iff rfl (fun _ => rfl) hheaders
  refine ⟨by decide +kernel, by decide +kernel, hexact, hiff.2 (List.pairwise_pair.2 ?_)⟩
  intro k _ _ hsync
  cases hsync

/-- With a receipt, and then without: the second frame asks again for the receipt that has come. -/
theorem not_disciplined_forwarded :
    let ps := postings forwarded confirming [.frame 0 (some true), .frame 0 (some false)]
    ps.map Posting.written =
        [[Bytes.ofString "MESSAGE\nmessage-id:1\nreceipt:uid-1\n\nhi\x00"],
          [Bytes.ofString "MESSAGE\nmessage-id:1\nreceipt:uid-1\n\nhi\x00"]] ∧
      ps.map Posting.sync = [true, false] ∧
      ps.map Posting.receipt? = [some (.text "uid-1"), some (.text "uid-1")] ∧
      ¬ Disciplined ps := by
  intro ps
  have hwritten : ps.map Posting.written =
      [[Bytes.ofString "MESSAGE\nmessage-id:1\nreceipt:uid-1\n\nhi\x00"],
        [Bytes.ofString "MESSAGE\nmessage-id:1\nreceipt:uid-1\n\nhi\x00"]] := by decide +kernel
  have hreceipts : ps.map Posting.receipt? = [some (.text "uid-1"), some (.text "uid-1")] := by
    decide +kernel
  refine ⟨hwritten, rfl, hreceipts, fun h => ?_⟩
  have hnodup := h.nodup
  have hrepeated : ps.filterMap Posting.receipt? = [.text "uid-1", .text "uid-1"] := by
    decide +kernel
  rw [hrepeated] at hnodup
  exact absurd hnodup (by decide)

end Stomp.Client
