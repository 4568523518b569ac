import Stomp.Proofs.Client.Call
import Stomp.Proofs.Client.Termination
import Stomp.Proofs.Parser.Received

/-!
# Attempts to connect that fail

An attempt that fails leaves the client without a protocol and with the queue that it had
(`unsettled_connect`). On a channel that keeps its promises, five errors are none of the protocol or
the connection: a number of the configuration without a text, a number for a login or a passcode, a
timeout beyond the scale, a map frame that was read with an integer of too many digits, and an
answer that was read whose banner is no text. After the last one the client has the session of the
answer.
-/

namespace Stomp

open Stomp.Action

variable {κ R : Type}

namespace Client

variable [Channel κ R] [Scale R]

/-- What an attempt leaves that fails for something else than the protocol or the connection. -/
inductive Spoiled (c : Client κ R) : Error R → Client κ R → Prop
  | offer {d : Client κ R} : c.config.Overlong → d.session = c.session →
      Spoiled c (.command .integerWithoutText) d
  | credential {n : Int} {d : Client κ R} :
      Command.HasNumber c.config.login c.config.passcode n → d.session = c.session →
      Spoiled c (.unwritable (.number n)) d
  | timeout {d : Client κ R} : c.config.connectTimeout.toScale? = none → d.session = c.session →
      Spoiled c .beyondScale d
  /-- The first that the parser gave for what the channel brought. -/
  | digits {n : Nat} {d : Client κ R} :
      c.greeting.Advance [.error (.map (.json (.tooManyDigits n)))] d.transport →
      d.session = c.session → Spoiled c (.malformed (.map (.json (.tooManyDigits n)))) d
  /-- The answer that the parser gave was accepted, as far as its banner. -/
  | banner {f : Frame} {t : Transport κ R} {v : Version} {d : Client κ R} :
      c.greeting.Advance [.ok f] t → Tuned t v d.transport → f.command = Verb.connected →
      f.get? Name.server = some .bare → d.session = f.get? Name.session →
      Spoiled c (.command .bannerWithoutText) d
  | stalled {d : Client κ R} : ¬ Channel.IsOrderly c.transport.link.channel →
      d.session = c.session → Spoiled c .stalled d

theorem Spoiled.not_isOperational {c d : Client κ R} {e : Error R} (h : c.Spoiled e d) :
    ¬ e.isOperational = true := by
  cases h <;> exact nofun

theorem Spoiled.of_isOverlong {c d : Client κ R} {e : Error R} (he : e.isOverlong = true)
    (hread : ∀ fault, e = .malformed fault → c.greeting.Advance [.error fault] d.transport)
    (hsession : d.session = c.session) : c.Spoiled e d := by
  obtain ⟨n, rfl⟩ := Error.exists_of_isOverlong he
  exact .digits (hread _ rfl) hsession

/-- What an attempt of `c` to connect leaves that fails with `e`. -/
structure Unsettled (c : Client κ R) (e : Error R) (d : Client κ R) : Prop where
  protocol : d.protocol? = none
  queue : d.queue = c.queue
  clean_iff : e.isOperational = true ∧ d.session = none ↔ c.session = none ∧ ¬ c.Spoiled e d

theorem Unsettled.of_or {c d : Client κ R} {e : Error R} (hprotocol : d.protocol? = none)
    (hqueue : d.queue = c.queue)
    (hclean : e.isOperational = true ∧ d.session = c.session ∨ c.Spoiled e d) :
    c.Unsettled e d where
  protocol := hprotocol
  queue := hqueue
  clean_iff := by
    constructor
    · rintro ⟨he, hnone⟩
      have hnot : ¬ c.Spoiled e d := fun h => h.not_isOperational he
      exact ⟨(hclean.resolve_right hnot).2 ▸ hnone, hnot⟩
    · rintro ⟨hnone, hnot⟩
      obtain ⟨he, hsame⟩ := hclean.resolve_right hnot
      exact ⟨he, hsame.trans hnone⟩

/-! ## What a client offers -/

section Introduction

variable {config : Config R} {f : Frame}

omit [Channel κ R] [Scale R]

theorem exists_connect_of_introduction (h : introduction config = .ok f) :
    ∃ clientId, Command.connect config.login config.passcode (some config.versions) config.host
      config.beats clientId = .ok f := by
  obtain ⟨clientId, -, h⟩ := exists_of_bind_eq_ok h
  exact ⟨clientId, h⟩

/-- A client does not come to introduce itself if it offers an unsupported version, or because of a
number that cannot be written. -/
theorem of_introduction_error (hbeats : ∀ b ∈ config.beats, b.Integral) {fault : Command.Fault}
    (h : introduction config = .error fault) :
    (∃ g, fault = .unsupportedVersion g) ∨ fault = .integerWithoutText ∧ config.Overlong := by
  rcases of_bind_eq_error h with h | ⟨clientId, -, h⟩
  · obtain ⟨hoverlong, rfl⟩ := Command.overlong_of_givenOf h
    exact Or.inr ⟨rfl, Or.inr (Or.inl hoverlong)⟩
  · exact (Command.of_connect_error hbeats h).imp_right fun h => ⟨h.1, Or.inr (Or.inr h.2)⟩

end Introduction

/-! ## How an attempt fails -/

section Attempt

variable {c : Client κ R} (hc : c.transport.Unwatched)

include hc

theorem faults_greeted {t : Transport κ R} (ht : c.greeting.Brings [] t) (limit : R)
    (timeout : Quantity R) :
    Outcome (fun _ _ => True)
      (fun e _ => (e.isOperational = true ∨ e.isOverlong = true) ∨
        ¬ Channel.IsOrderly c.transport.link.channel ∧ e = .stalled)
      ((awaitConnected limit (.connectTimeout timeout)
        ({ c with transport := t } : Client κ R).waitSteps : ClientAction κ R Frame)
          { c with transport := t }) := by
  have hwatch : Transport.Unwatched c.greeting := hc
  have ht' : t.Unwatched := hwatch.of_eq ht.observers
  by_cases horderly : Channel.IsOrderly c.transport.link.channel
  · obtain ⟨usable, h, husable⟩ := horderly
    have hleft : usable t.link.channel := (h.of_served husable ht.link.channel).1
    refine (ends_awaitConnected h (c := { c with transport := t }) ht' hleft limit timeout).mono
      (fun _ _ _ => trivial) ?_
    rintro e d ⟨u, he, -⟩
    exact Or.inl he.fault
  · refine ((greeting_stalls limit timeout).outcome (c := { c with transport := t }) ht').mono
      (fun _ _ _ => trivial) ?_
    rintro e d ⟨u, he | rfl, -⟩
    · exact Or.inl he.fault
    · exact Or.inr ⟨horderly, rfl⟩

/-- The wait of a client that has introduced itself ends with the first that the parser gives, or
fails with an error of the protocol or the connection, or spoils the attempt. -/
theorem outcome_greeted {t : Transport κ R} (ht : c.greeting.Brings [] t) (limit : R)
    (timeout : Quantity R) :
    Outcome (fun f d => f.command = Verb.connected ∧
        ∃ u, c.greeting.Advance [.ok f] u ∧ d = { c with transport := u })
      (fun e d => ∃ u, (e.isOperational = true ∨ c.Spoiled e { c with transport := u }) ∧
        d = { c with transport := u })
      ((awaitConnected limit (.connectTimeout timeout)
        ({ c with transport := t } : Client κ R).waitSteps : ClientAction κ R Frame)
          { c with transport := t }) := by
  have hwatch : Transport.Unwatched c.greeting := hc
  have hadvances := greeting_advances hwatch limit timeout
  refine ((hadvances.outcome (c := { c with transport := t }) ht.advance).and
    (faults_greeted hc ht limit timeout)).mono (fun _ _ h => h.1) ?_
  rintro e d ⟨⟨u, hread, rfl⟩, (he | he) | ⟨hnot, rfl⟩⟩
  · exact ⟨u, Or.inl he, rfl⟩
  · exact ⟨u, Or.inr (.of_isOverlong he hread rfl), rfl⟩
  · exact ⟨u, Or.inr (.stalled hnot rfl), rfl⟩

/-- An attempt to connect either leaves a client with a protocol, or leaves it without one, and with
the queue that it had. In a client without a session, the error is one of the protocol or the
connection and there is still no session, unless the attempt is spoiled. -/
theorem unsettled_connect (hprotocol : c.protocol? = none)
    (hbeats : ∀ b ∈ c.config.beats, b.Integral) :
    Outcome (fun _ d => ∃ p, d.protocol? = some p ∧ p.server ≠ some .bare) c.Unsettled
      ((connect : ClientAction κ R Unit) c) := by
  have hwatch : Transport.Unwatched c.greeting := hc
  refine (outcome_connect hprotocol (fun f _ => Transport.brings_writeFrame hwatch f)
    (fun t time ht _ => outcome_greeted hc ht _ _)).mono ?_ ?_
  · rintro - d ⟨f, t, p, u, -, -, htells, -, rfl⟩
    refine ⟨p, rfl, ?_⟩
    rw [htells.server]
    intro hbare
    cases hbare ▸ htells.dialect
  · intro e d hrefused
    cases hrefused with
    | offer hoffer =>
        rcases of_introduction_error hbeats hoffer with ⟨g, rfl⟩ | ⟨rfl, hoverlong⟩
        · exact .of_or hprotocol rfl (Or.inl ⟨rfl, rfl⟩)
        · exact .of_or hprotocol rfl (Or.inr (.offer hoverlong rfl))
    | unsent hf he _ =>
        cases he with
        | channel he =>
            exact .of_or hprotocol rfl (Or.inl ⟨Error.isOperational_of_isConnection he, rfl⟩)
        | unwritable hcause =>
            obtain ⟨clientId, hf⟩ := exists_connect_of_introduction hf
            obtain ⟨n, rfl, hn⟩ := Command.unwritable_of_connect hf hcause
            exact .of_or hprotocol rfl (Or.inr (.credential hn rfl))
    | timeout htimeout _ => exact .of_or hprotocol rfl (Or.inr (.timeout htimeout rfl))
    | wait he => exact .of_or hprotocol rfl (he.imp_left fun he => ⟨he, rfl⟩)
    | answer hf _ hfault =>
        obtain ⟨clientId, hf⟩ := exists_connect_of_introduction hf
        have hvs := Command.exists_versions_of_connect hf
        exact .of_or hprotocol rfl (Or.inl ⟨Command.isOperational_of_connected hvs hfault, rfl⟩)
    | banner hf hcommand hfault htuned =>
        obtain ⟨rfl, hbare⟩ := Command.of_dialectOf_error hfault
        obtain ⟨data, -, hgives⟩ := hf.parsed
        exact .of_or hprotocol rfl
          (Or.inr (.banner hf htuned hcommand (hbare hgives.proper) rfl))

end Attempt

/-- A client whose broker answers with a session, and with a banner that is no text. -/
def bannerless : Client (Script Rat) Rat :=
  { hearing [Bytes.ofString "CONNECTED\nversion:1.2\nsession:s1\nserver\n\n\x00"] with
    protocol? := none }

theorem unsettled_connect_bannerless :
    Channel.IsOrderly bannerless.transport.link.channel ∧
      ∃ e d, (connect : ClientAction (Script Rat) Rat Unit) bannerless = .error e d ∧
        bannerless.Unsettled e d := by
  refine ⟨⟨_, Script.orderly, Rat.le_refl⟩, ?_⟩
  have hbeats : ∀ b ∈ bannerless.config.beats, b.Integral := by
    intro b hb
    obtain rfl : b = .whole 0 := by
      rcases List.mem_pair.1 hb with h | h <;> exact h
    trivial
  have hfails : fails (fun _ _ => true)
      ((connect : ClientAction (Script Rat) Rat Unit) bannerless) = true := by
    decide +kernel
  obtain ⟨e, d, hd, -⟩ := exists_of_fails hfails
  have houtcome := unsettled_connect (c := bannerless) rfl rfl hbeats
  rw [hd] at houtcome
  exact ⟨e, d, hd, houtcome⟩

/-- The attempt fails, but the client is left with the session of the answer. -/
theorem spoiled_connect_bannerless :
    ∃ e d, (connect : ClientAction (Script Rat) Rat Unit) bannerless = .error e d ∧
      e.isOperational = false ∧ d.protocol?.isNone = true ∧ d.session = some (.text "s1") := by
  have hfails : fails
      (fun e d => !e.isOperational && d.protocol?.isNone && d.session == some (.text "s1"))
      ((connect : ClientAction (Script Rat) Rat Unit) bannerless) = true := by
    decide +kernel
  obtain ⟨e, d, hd, hleft⟩ := exists_of_fails hfails
  simp only [Bool.and_eq_true, Bool.not_eq_true', beq_iff_eq] at hleft
  exact ⟨e, d, hd, hleft.1.1, hleft.1.2, hleft.2⟩

end Client

end Stomp
