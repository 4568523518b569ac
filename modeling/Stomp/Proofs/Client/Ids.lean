import Stomp.Channel.Script
import Stomp.Proofs.Client.Routine
import Stomp.Proofs.Session.Laws
import Stomp.Session.Connected

/-!
# The ids of a client

Whatever a client does, its supply of ids only moves on, so that no id is made up twice.
-/

namespace Stomp.Client

open Stomp.Action

variable {κ R α : Type}

/-- The later client has made up the ids of the earlier one, and maybe more. -/
def Later (c d : Client κ R) : Prop := c.ids.issued ≤ d.ids.issued

instance : Routine (Later : Client κ R → Client κ R → Prop) where
  refl _ := Nat.le_refl _
  trans hcd hde := Nat.le_trans hcd hde
  onTransport _ _ := Nat.le_refl _
  onIds _ := Nat.le_succ _
  onQueue _ _ := Nat.le_refl _

instance [Scale R] [Channel κ R] : Session.Client.NewIds (Client κ R) where
  setIds _ _ := rfl
  logNotice _ _ := rfl
  protocol c := (keeps_protocol Later).after c
  readFrame c := (keeps_readFrame Later).after c
  sendFrame sync? f c := (keeps_sendFrame Later sync?).after (f, c)
  sendBody destination body headers sync? c :=
    (keeps_sendBody Later destination body headers sync?).after c
  sendPrepared destination headers sync? f c :=
    (keeps_sendPrepared Later destination headers sync?).after (f, c)

def unanswered : Client (Script Rat) Rat where
  config := { connectTimeout := .whole 1, receiptTimeout := .whole 2, sync := false }
  transport :=
    { link :=
        { channel := { clock := 0, step := 0, readTimeout := (.whole 0, .whole 0) } } }
  protocol? := some
    { clientId := .absent, version := .v12, server := none, dialect := .generic }

end Stomp.Client
