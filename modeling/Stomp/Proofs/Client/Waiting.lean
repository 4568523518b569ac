import Stomp.Proofs.Channel.Orderly
import Stomp.Proofs.Client.Quiet

/-!
# Waits for receipts

A wait for a receipt reads frame by frame: it ends with a RECEIPT frame or an error, and otherwise
it lets time pass and tries again. What holds after each attempt therefore holds of the whole wait,
if one counts the steps (`Vigil.outcome`) or not (`Wait.outcome`).
-/

namespace Stomp.Client

open Stomp.Action

variable {κ R : Type} [Channel κ R]

section Vigil

variable [Scale R]

/-- `before` holds before an attempt at a frame, with so many steps left, and `between` after one
that did not end the wait. -/
structure Vigil (id : String) (limit : R) (before between : Nat → Client κ R → Prop)
    (ok : Unit → Client κ R → Prop) (failed : Error R → Client κ R → Prop) : Prop where
  unwatched {n c} : before n c → c.transport.Unwatched
  stalled {c} : before 0 c → failed .stalled c
  receipt {n steps c f t} : before (n + 1) c → c.transport.Search steps (.ok (some f)) t →
    f.command = Verb.receipt → f.get? Name.receiptId = some (.text id) →
    ok () { c with transport := t }
  unexpected {n steps c f t} : before (n + 1) c → c.transport.Search steps (.ok (some f)) t →
    f.command = Verb.receipt → f.get? Name.receiptId ≠ some (.text id) →
    failed (.command (.unexpectedFrame s!"Expected receipt id {id}." f)) { c with transport := t }
  other {n steps c f t} : before (n + 1) c → c.transport.Search steps (.ok (some f)) t →
    f.command ≠ Verb.receipt → between n { c with transport := t, queue := c.queue ++ [f] }
  nothing {n steps c t} : before (n + 1) c → c.transport.Search steps (.ok none) t →
    between n { c with transport := t }
  fails {n e c t} : before (n + 1) c →
    c.transport.Search (Channel.patience c.transport.link.channel + 2) (.error e) t →
    failed e { c with transport := t }
  tooLate {n c} : between n c → Channel.Late limit c.transport.link.channel →
    failed (.missingReceipt id) c
  waited {n ready c t} : between n c → ¬ Channel.Late limit c.transport.link.channel →
    Channel.canRead (some (.real (limit - Channel.now c.transport.link.channel)))
      c.transport.link.channel = .ok ready t.link.channel →
    c.transport.Brings [] t → before n { c with transport := t }
  cut {n e c t} : between n c → e.isConnection = true → c.transport.Brings [] t →
    failed e { c with transport := t }

theorem Vigil.outcome {id : String} {limit : R} {before between : Nat → Client κ R → Prop}
    {ok : Unit → Client κ R → Prop} {failed : Error R → Client κ R → Prop}
    (h : Vigil id limit before between ok failed) {steps : Nat} {c : Client κ R}
    (hc : before steps c) :
    Outcome ok failed ((awaitReceipt id limit steps : ClientAction κ R Unit) c) := by
  induction steps generalizing c with
  | zero => exact h.stalled hc
  | succ steps ih =>
      have hagain : ∀ d, between steps d → Outcome ok failed
          ((do
            waitForData limit (.missingReceipt id)
            awaitReceipt id limit steps : ClientAction κ R Unit) d) := by
        intro d hd
        apply (outcome_waitForData limit (.missingReceipt id) d).bind
        · rintro e d (⟨hlate, rfl, rfl⟩ | ⟨he, t, ht, rfl⟩)
          · exact h.tooLate hd hlate
          · exact h.cut hd he ht
        · rintro - d ⟨hearly, ready, t, hwait, ht, rfl⟩
          have hnot : ¬ Channel.Late limit _ := fun hlate =>
            Bool.false_ne_true (hearly.symm.trans hlate)
          exact ih (h.waited hd hnot hwait ht)
      unfold awaitReceipt
      apply (search_receive (h.unwatched hc)).bind
      · rintro e d ⟨t, hsearch, rfl⟩
        exact h.fails hc hsearch
      rintro f? d ⟨t, hsearch, rfl⟩
      match f? with
      | none => exact hagain _ (h.nothing hc hsearch)
      | some f =>
          dsimp only
          split
          next hreceipt =>
            split
            next hid => exact h.receipt hc hsearch hreceipt hid
            next hid => exact h.unexpected hc hsearch hreceipt hid
          next hother =>
            have hbetween := h.other hc hsearch hother
            exact hagain _ hbetween

end Vigil

/-- `before` holds before each attempt at a frame, and `between` after one that did not end the
wait. -/
structure Wait (id : String) (before between : Client κ R → Prop)
    (ok : Unit → Client κ R → Prop) (failed : Error R → Client κ R → Prop) : Prop where
  unwatched {c} : before c → c.transport.Unwatched
  receipt {c f t} : before c → c.transport.Delivers (some f) t → f.command = Verb.receipt →
    f.get? Name.receiptId = some (.text id) → ok () { c with transport := t }
  unexpected {c f t} : before c → c.transport.Delivers (some f) t → f.command = Verb.receipt →
    f.get? Name.receiptId ≠ some (.text id) →
    failed (.command (.unexpectedFrame s!"Expected receipt id {id}." f)) { c with transport := t }
  other {c f t} : before c → c.transport.Delivers (some f) t → f.command ≠ Verb.receipt →
    between { c with transport := t, queue := c.queue ++ [f] }
  nothing {c t} : before c → c.transport.Delivers none t → between { c with transport := t }
  fails {c e t} : before c → c.transport.Fails e t → failed e { c with transport := t }
  stalled {c} : before c → failed .stalled c
  again {c d} : between c → c.Quiet d → before d
  ends {c d e} : between c → c.Quiet d → e = .missingReceipt id ∨ e.isSending = true → failed e d

variable [Scale R] {id : String} {before between : Client κ R → Prop}
  {ok : Unit → Client κ R → Prop} {failed : Error R → Client κ R → Prop}

theorem Wait.vigil (h : Wait id before between ok failed) (limit : R) :
    Vigil id limit (fun _ => before) (fun _ => between) ok failed where
  unwatched := h.unwatched
  stalled := h.stalled
  receipt hc hsearch := h.receipt hc hsearch.delivers
  unexpected hc hsearch := h.unexpected hc hsearch.delivers
  other hc hsearch := h.other hc hsearch.delivers
  nothing hc hsearch := h.nothing hc hsearch.delivers
  fails hc hsearch := h.fails hc hsearch.fails
  tooLate hc _ := h.ends hc (.refl _) (Or.inl rfl)
  waited hc _ _ ht := h.again hc ⟨ht, rfl, rfl⟩
  cut hc he ht := h.ends hc ⟨ht, rfl, rfl⟩ (Or.inr (Error.isSending_of_isConnection he))

theorem Wait.outcome (h : Wait id before between ok failed) {c : Client κ R} (hc : before c)
    (limit : R) (steps : Nat) :
    Outcome ok failed ((awaitReceipt id limit steps : ClientAction κ R Unit) c) :=
  (h.vigil limit).outcome hc

end Stomp.Client
