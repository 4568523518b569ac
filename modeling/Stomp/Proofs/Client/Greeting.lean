import Stomp.Proofs.Channel.Orderly
import Stomp.Proofs.Client.Quiet
import Stomp.Proofs.Command.Handshake

/-!
# Connecting

A client that connects writes one frame, waits for the answer, and takes up the protocol that the
answer tells. The wait reads frame by frame until there is one or the deadline has passed
(`Greeting.outcome`). What it comes to decides on how the attempt ends (`outcome_connect`).
-/

namespace Stomp

open Stomp.Action

variable {κ R α : Type}

namespace Client

/-! ## The wait -/

section Wait

variable [Channel κ R] [Scale R]

/-- `before` holds before an attempt at a frame, with so many steps left, and `between` after one
that found nothing. -/
structure Greeting (limit : R) (late : Error R) (before between : Nat → Transport κ R → Prop)
    (ok : Frame → Transport κ R → Prop) (failed : Error R → Transport κ R → Prop) : Prop where
  unwatched {n t} : before n t → t.Unwatched
  stalled {t} : before 0 t → failed .stalled t
  connected {n steps t f u} : before (n + 1) t → t.Search steps (.ok (some f)) u →
    f.command = Verb.connected → ok f u
  unexpected {n steps t f u} : before (n + 1) t → t.Search steps (.ok (some f)) u →
    failed (.command (.unexpectedFrame s!"Expected a {Verb.connected} frame." f)) u
  nothing {n steps t u} : before (n + 1) t → t.Search steps (.ok none) u → between n u
  fails {n e t u} : before (n + 1) t →
    t.Search (Channel.patience t.link.channel + 2) (.error e) u → failed e u
  tooLate {n t} : between n t → Channel.Late limit t.link.channel → failed late t
  waited {n ready t u} : between n t → ¬ Channel.Late limit t.link.channel →
    Channel.canRead (some (.real (limit - Channel.now t.link.channel))) t.link.channel =
      .ok ready u.link.channel → t.Brings [] u → before n u
  cut {n e t u} : between n t → e.isConnection = true → t.Brings [] u → failed e u

variable {limit : R} {late : Error R} {before between : Nat → Transport κ R → Prop}
  {ok : Frame → Transport κ R → Prop} {failed : Error R → Transport κ R → Prop}

theorem Greeting.outcome (h : Greeting limit late before between ok failed) {steps : Nat}
    {c : Client κ R} (hc : before steps c.transport) :
    Outcome (fun f d => f.command = Verb.connected ∧
        ∃ t, ok f t ∧ d = { c with transport := t })
      (fun e d => ∃ t, failed e t ∧ d = { c with transport := t })
      ((awaitConnected limit late steps : ClientAction κ R Frame) c) := by
  induction steps generalizing c with
  | zero => exact ⟨c.transport, h.stalled hc, rfl⟩
  | succ steps ih =>
      unfold awaitConnected
      apply (search_receive (h.unwatched hc)).bind
      · rintro e d ⟨t, ht, rfl⟩
        exact ⟨t, h.fails hc ht, rfl⟩
      rintro f? d ⟨t, ht, rfl⟩
      match f? with
      | some f =>
          dsimp only
          split
          · rename_i hconnected
            exact ⟨hconnected, t, h.connected hc ht hconnected, rfl⟩
          · exact ⟨t, h.unexpected hc ht, rfl⟩
      | none =>
          have hbetween := h.nothing hc ht
          apply (outcome_waitForData limit late { c with transport := t }).bind
          · rintro e d (⟨hlate, rfl, rfl⟩ | ⟨he, u, hu, rfl⟩)
            · exact ⟨t, h.tooLate hbetween hlate, rfl⟩
            · exact ⟨u, h.cut hbetween he hu, rfl⟩
          · rintro - d ⟨hearly, ready, u, hwait, hu, rfl⟩
            have hnot : ¬ Channel.Late limit t.link.channel := by
              intro hlate
              cases hearly.symm.trans hlate
            exact ih (h.waited hbetween hnot hwait hu)

/-- The wait ends with the first result that the parser gives. -/
theorem greeting_advances {t : Transport κ R} (ht : t.Unwatched) (limit : R)
    (timeout : Quantity R) :
    Greeting limit (.connectTimeout timeout) (fun _ u => t.Advance [] u)
      (fun _ u => t.Advance [] u)
      (fun f u => t.Advance [.ok f] u)
      (fun e u => ∀ fault, e = .malformed fault → t.Advance [.error fault] u) where
  unwatched hu := ht.of_eq hu.observers
  stalled _ _ := nofun
  connected hu hsearch _ := hu.trans hsearch.delivers.advance
  unexpected _ _ _ := nofun
  nothing hu hsearch := hu.trans hsearch.delivers.advance
  fails := by
    rintro n e u v hu hsearch fault rfl
    cases hsearch.fails with
    | reported hreports hadvance =>
        cases hreports
        exact hu.trans hadvance
    | channel he _ => cases he
  tooLate _ _ _ := nofun
  waited hu _ _ hv := hu.trans hv.advance
  cut := by
    rintro n e u v - he - fault rfl
    cases he

end Wait

/-! ## The answer -/

/-- The transport that reads in the form of the version from now on. -/
structure Tuned (t : Transport κ R) (v : Version) (u : Transport κ R) : Prop where
  observers : u.observers = t.observers
  channel : u.link.channel = t.link.channel
  journal : u.link.journal = t.link.journal
  parser : u.parser =
    if v.isLegacy then t.parser else { t.parser with legacy := false }

/-- The protocol that an answer tells to a client. -/
structure Tells (config : Config R) (f : Frame) (p : Protocol) : Prop where
  negotiated : Command.negotiated? f = some p.version
  offered : ∃ o ∈ config.versions, Version.ofOffer? o = some p.version
  server : p.server = f.get? Name.server
  dialect : Protocol.dialectOf (f.get? Name.server) = .ok p.dialect

def settled (c : Client κ R) (f : Frame) (p : Protocol) (t : Transport κ R) : Client κ R :=
  { c with transport := t, session := f.get? Name.session, protocol? := some p }

section TakeUp

variable [Channel κ R] {t : Transport κ R} {f : Frame} {config : Config R} {clientId : Given}

theorem outcome_adopt {hello : Command.Handshake}
    (hello_of : Command.Accepts config.versions f hello) {c : Client κ R}
    (htuned : Tuned t hello.version c.transport) :
    Outcome
      (fun _ d => ∃ p u, Tells config f p ∧ Tuned t p.version u ∧ d = c.settled f p u)
      (fun e d => ∃ fault, Protocol.dialectOf (f.get? Name.server) = .error fault ∧
        e = .command fault ∧ d = { c with session := f.get? Name.session })
      ((do
        modify fun c => { c with session := hello.session }
        let p ← raise (hello.protocol clientId)
        logNotice (.dialectChosen p.dialect hello.version hello.server)
        modify fun c => { c with protocol? := some p }
        logNotice (.established (← get).transport.label hello.version hello.session) :
          ClientAction κ R Unit) c) := by
  rw [hello_of.session]
  cases hp : hello.protocol clientId with
  | error fault =>
      have hdialect := Command.Handshake.of_protocol_error hp
      exact ⟨fault, hello_of.server ▸ hdialect, rfl, rfl⟩
  | ok p =>
      obtain ⟨hversion, hserver, hdialect⟩ := Command.Handshake.of_protocol_ok hp
      have htells : Tells config f p :=
        { negotiated := by rw [hversion]; exact hello_of.negotiated
          offered := by rw [hversion]; exact hello_of.offered
          server := hserver.trans hello_of.server
          dialect := hello_of.server ▸ hdialect }
      let chosen := c.transport.link.notify (.dialectChosen p.dialect hello.version hello.server)
      let u : Transport κ R :=
        { c.transport with
          link := chosen.notify
            (.established c.transport.label hello.version (f.get? Name.session)) }
      rw [← hversion] at htuned
      exact ⟨p, u, htells, ⟨htuned.observers, htuned.channel, htuned.journal,
        htuned.parser⟩, rfl⟩

theorem outcome_takeUp (c : Client κ R) :
    Outcome
      (fun _ d => ∃ p u, Tells config f p ∧ Tuned c.transport p.version u ∧ d = c.settled f p u)
      (fun e d => (∃ fault, Command.connected f (some config.versions) = .error fault ∧
          e = .command fault ∧ c = d) ∨
        ∃ fault, Protocol.dialectOf (f.get? Name.server) = .error fault ∧ e = .command fault ∧
          ∃ v u, Tuned c.transport v u ∧
            d = { c with transport := u, session := f.get? Name.session })
      ((do
        let hello ← raise (Command.connected f (some config.versions))
        unless hello.version.isLegacy do setLegacy false
        modify fun c => { c with session := hello.session }
        let p ← raise (hello.protocol clientId)
        logNotice (.dialectChosen p.dialect hello.version hello.server)
        modify fun c => { c with protocol? := some p }
        logNotice (.established (← get).transport.label hello.version hello.session) :
          ClientAction κ R Unit) c) := by
  cases hconnected : Command.connected f (some config.versions) with
  | error fault => exact Or.inl ⟨fault, rfl, rfl, rfl⟩
  | ok hello =>
      have haccepts := Command.accepts_of_connected hconnected
      change Outcome _ _
        ((if hello.version.isLegacy = true then _ else _ : ClientAction κ R Unit) c)
      split
      · rename_i hlegacy
        have htuned : Tuned c.transport hello.version c.transport :=
          ⟨rfl, rfl, rfl, by rw [if_pos hlegacy]⟩
        exact (outcome_adopt haccepts htuned).mono (fun _ _ h => h)
          (fun _ _ ⟨fault, hfault, he, hd⟩ => Or.inr ⟨fault, hfault, he, _, _, htuned, hd⟩)
      · rename_i hlegacy
        let u : Transport κ R :=
          { c.transport with parser := { c.transport.parser with legacy := false } }
        have htuned : Tuned c.transport hello.version u :=
          ⟨rfl, rfl, rfl, by rw [if_neg hlegacy]⟩
        exact (outcome_adopt haccepts (c := { c with transport := u }) htuned).mono
          (fun _ _ h => h)
          (fun _ _ ⟨fault, hfault, he, hd⟩ => Or.inr ⟨fault, hfault, he, _, _, htuned, hd⟩)

end TakeUp

/-! ## The attempt -/

def greeting (c : Client κ R) : Transport κ R :=
  { c.transport with parser := { c.transport.parser with legacy := true } }

def introduction (config : Config R) : Except Command.Fault Frame := do
  let clientId ← Command.givenOf config.clientId
  Command.connect config.login config.passcode (some config.versions) config.host config.beats
    clientId

theorem outcome_raise (x : Except Command.Fault α) (c : Client κ R) :
    Outcome (fun a d => x = .ok a ∧ c = d)
      (fun e d => ∃ fault, x = .error fault ∧ e = .command fault ∧ c = d)
      ((raise x : ClientAction κ R α) c) := by
  cases x with
  | ok a => exact ⟨rfl, rfl⟩
  | error fault => exact ⟨fault, rfl, rfl, rfl⟩

variable [Scale R]

/-- Why an attempt to connect fails, and what it leaves; `sent` tells what there is once the client
has introduced itself or failed to, `ok` and `failed` what came of the wait. -/
inductive Refused (c : Client κ R) (sent : Transport κ R → Prop)
    (ok : Frame → Transport κ R → Prop) (failed : Error R → Transport κ R → Prop) :
    Error R → Client κ R → Prop
  | offer {fault : Command.Fault} :
      introduction c.config = .error fault → Refused c sent ok failed (.command fault)
        { c with transport := c.greeting }
  | unsent {f : Frame} {e : Error R} {t : Transport κ R} :
      introduction c.config = .ok f → e.Withholds f → sent t →
      Refused c sent ok failed e { c with transport := t }
  | timeout {t : Transport κ R} :
      c.config.connectTimeout.toScale? = none → sent t → Refused c sent ok failed .beyondScale
        { c with transport := t }
  | wait {e : Error R} {t : Transport κ R} :
      failed e t → Refused c sent ok failed e { c with transport := t }
  | answer {f g : Frame} {fault : Command.Fault} {t : Transport κ R} :
      introduction c.config = .ok g → ok f t →
      Command.connected f (some c.config.versions) = .error fault →
      Refused c sent ok failed (.command fault) { c with transport := t }
  | banner {f : Frame} {fault : Command.Fault} {v : Version} {t u : Transport κ R} :
      ok f t → f.command = Verb.connected →
      Protocol.dialectOf (f.get? Name.server) = .error fault → Tuned t v u →
      Refused c sent ok failed (.command fault)
        { c with transport := u, session := f.get? Name.session }

variable [Channel κ R]

theorem outcome_connect {c : Client κ R} (hnone : c.protocol? = none)
    {sent : Transport κ R → Prop} {ok : Frame → Transport κ R → Prop}
    {failed : Error R → Transport κ R → Prop}
    (hsent : ∀ f, introduction c.config = .ok f →
      Outcome (fun _ q => sent q.2) (fun e q => e.Withholds f ∧ sent q.2)
        ((Transport.writeFrame : InHand (Error R) (Transport κ R) Unit) (f, c.greeting)))
    (hwait : ∀ (t : Transport κ R) (time : R), sent t →
      c.config.connectTimeout.toScale? = some time →
      Outcome (fun f d => f.command = Verb.connected ∧
          ∃ u, ok f u ∧ d = { c with transport := u })
        (fun e d => ∃ u, failed e u ∧ d = { c with transport := u })
        ((awaitConnected (t.now + time) (.connectTimeout c.config.connectTimeout)
          ({ c with transport := t } : Client κ R).waitSteps : ClientAction κ R Frame)
            { c with transport := t })) :
    Outcome
      (fun _ d => ∃ f t p u, ok f t ∧ f.command = Verb.connected ∧ Tells c.config f p ∧
        Tuned t p.version u ∧ d = c.settled f p u)
      (c.Refused sent ok failed) ((connect : ClientAction κ R Unit) c) := by
  unfold connect
  rw [get_bind]
  dsimp only
  rw [if_neg (by simp [hnone])]
  have hlegacy : Outcome (fun _ d => { c with transport := c.greeting } = d) (fun _ _ => False)
      ((setLegacy true : ClientAction κ R Unit) c) := rfl
  apply hlegacy.bind (fun _ _ h => h.elim)
  rintro - d rfl
  apply (outcome_raise _ _).bind
  · rintro e d ⟨fault, hfault, rfl, rfl⟩
    exact .offer (by rw [introduction, hfault]; rfl)
  rintro clientId d ⟨hclientId, rfl⟩
  apply (outcome_raise _ _).bind
  · rintro e d ⟨fault, hfault, -⟩
    cases hfault
  rintro p d ⟨hp, rfl⟩
  cases hp
  have hintroduction : introduction c.config =
      Command.connect c.config.login c.config.passcode (some c.config.versions) c.config.host
        c.config.beats clientId := by
    rw [introduction, hclientId]
    rfl
  apply (outcome_raise _ _).bind
  · rintro e d ⟨fault, hfault, rfl, rfl⟩
    exact .offer (hintroduction.trans hfault)
  rintro f d ⟨hf, rfl⟩
  have hf : introduction c.config = .ok f := hintroduction.trans hf
  have hwrite : Outcome (fun _ d => ∃ t, sent t ∧ d = { c with transport := t })
      (c.Refused sent ok failed)
      ((withFrame f writeFrame : ClientAction κ R Unit) { c with transport := c.greeting }) := by
    apply Outcome.withFrame
    apply outcome_writeFrame_of_transport
    exact (hsent f hf).mono (fun _ q h => ⟨q.2, h, rfl⟩) (fun _ _ h => .unsent hf h.1 h.2)
  apply hwrite.bind (fun _ _ h => h)
  rintro - d ⟨t, ht, rfl⟩
  apply (outcome_deadline _ _).bind
  · rintro e d ⟨htimeout, rfl, rfl⟩
    exact .timeout htimeout ht
  rintro limit d ⟨time, htime, rfl, rfl⟩
  rw [get_bind]
  apply (hwait t time ht htime).bind
  · rintro e d ⟨u, hu, rfl⟩
    exact .wait hu
  rintro answer d ⟨hcommand, u, hu, rfl⟩
  refine (outcome_takeUp { c with transport := u }).mono ?_ ?_
  · rintro - d ⟨p, v, htells, htuned, rfl⟩
    exact ⟨answer, u, p, v, hu, hcommand, htells, htuned, rfl⟩
  · rintro e d (⟨fault, hfault, rfl, rfl⟩ | ⟨fault, hfault, rfl, w, v, htuned, rfl⟩)
    · exact .answer hf hu hfault
    · exact .banner hu hcommand hfault htuned

end Client

end Stomp
