import Stomp.Client.Config
import Stomp.Error.Basic
import Stomp.Proofs.Action.Outcome
import Stomp.Proofs.Frame.Wire
import Stomp.Protocol

/-!
# The handshake

What a client offers a broker, and what it reads from the answer. The headers of an offer are known
(`introduced_of_connect`): an offer can be written unless a login or a passcode is a number. An
answer is accepted only if it tells a version that was offered (`accepts_of_connected`). Whatever is
wrong with an offer or an answer is an error of the protocol, as long as the intervals that are
offered are integers and the numbers can be written.
-/

namespace Stomp

open Stomp.Action

variable {R : Type}

/-! ## Numbers that cannot be written -/

def Offer.Overlong : Offer → Prop
  | .number n => ¬ Numeral.HasText n
  | _ => False

namespace BeatOffer

def Integral : BeatOffer → Prop
  | .whole _ | .flag _ => True
  | .real _ | .text _ => False

def Overlong : BeatOffer → Prop
  | .whole n => ¬ Numeral.HasText n
  | _ => False

end BeatOffer

/-- There is a number without a text, in an offer or among the credentials. -/
def Config.Overlong (config : Config R) : Prop :=
  (config.login.Overlong ∨ config.passcode.Overlong) ∨ config.clientId.Overlong ∨
    config.host.Overlong ∨ (∃ o ∈ config.versions, o.Overlong) ∨ ∃ b ∈ config.beats, b.Overlong

namespace Command

variable {o : Offer}

theorem given?_of_givenOf {g : Given} (h : givenOf o = .ok g) : o.given? = some g := by
  unfold givenOf at h
  split at h
  · rename_i hgiven
    cases h
    exact hgiven
  · cases h

theorem overlong_of_givenOf {fault : Fault} (h : givenOf o = .error fault) :
    o.Overlong ∧ fault = .integerWithoutText := by
  unfold givenOf at h
  split at h
  · cases h
  · rename_i hnone
    cases h
    refine ⟨?_, rfl⟩
    cases o with
    | number n =>
        rw [Offer.given?] at hnone
        split at hnone
        · cases hnone
        · assumption
    | _ => cases hnone

/-! ## Versions -/

theorem of_versionOf_ok {v : Version} (h : versionOf o = .ok v) : Version.ofOffer? o = some v := by
  unfold versionOf at h
  split at h
  · rename_i w hw
    cases h
    exact hw
  · obtain ⟨g, -, h⟩ := exists_of_bind_eq_ok h
    cases h

theorem of_versionOf_error {fault : Fault} (h : versionOf o = .error fault) :
    (∃ g, fault = .unsupportedVersion g) ∨ o.Overlong ∧ fault = .integerWithoutText := by
  unfold versionOf at h
  split at h
  · cases h
  · rcases of_bind_eq_error h with h | ⟨g, -, h⟩
    · exact Or.inr (overlong_of_givenOf h)
    · cases h
      exact Or.inl ⟨g, rfl⟩

section Versions

variable {os : List Offer}

theorem exists_offer {vs : List Version} {v : Version} (h : os.mapM versionOf = .ok vs)
    (hv : v ∈ vs) : ∃ o ∈ os, Version.ofOffer? o = some v := by
  induction os generalizing vs with
  | nil =>
      cases h
      cases hv
  | cons o os ih =>
      rw [List.mapM_cons] at h
      obtain ⟨w, hw, h⟩ := exists_of_bind_eq_ok h
      obtain ⟨ws, hws, h⟩ := exists_of_bind_eq_ok h
      cases h
      rcases List.mem_cons.1 hv with rfl | hv
      · exact ⟨o, List.mem_cons_self, of_versionOf_ok hw⟩
      · obtain ⟨o', ho', hoffer⟩ := ih hws hv
        exact ⟨o', List.mem_cons_of_mem o ho', hoffer⟩

theorem of_versionsOf_error {fault : Fault} (h : os.mapM versionOf = .error fault) :
    (∃ g, fault = .unsupportedVersion g) ∨
      (∃ o ∈ os, o.Overlong) ∧ fault = .integerWithoutText := by
  obtain ⟨o, ho, h⟩ := exists_of_mapM_eq_error h
  exact (of_versionOf_error h).imp_right fun h => ⟨⟨o, ho, h.1⟩, h.2⟩

end Versions

/-! ## Offers -/

theorem beatText_eq {b : BeatOffer} {n : Int} (h : milliseconds b = .ok n) :
    beatText b = if Numeral.HasText n then .ok (String.ofList (Numeral.write n))
      else .error .integerWithoutText := by
  rw [beatText, h]
  rfl

theorem of_beatText_error {b : BeatOffer} (hb : b.Integral) {fault : Fault}
    (h : beatText b = .error fault) : b.Overlong ∧ fault = .integerWithoutText := by
  cases b with
  | whole n =>
      rw [beatText_eq rfl] at h
      split at h
      · cases h
      · cases h
        exact ⟨‹_›, rfl⟩
  | flag b =>
      have hone : Numeral.HasText (if b then 1 else 0) := by cases b <;> decide
      rw [beatText_eq rfl, if_pos hone] at h
      cases h
  | real x => exact hb.elim
  | text s => exact hb.elim

section Connect

variable {login passcode host : Offer} {clientId : Given} {beats : List BeatOffer} {f : Frame}

/-- A header with which a client introduces itself. -/
inductive Introduced (login passcode : Offer) (clientId : Given) (host : Offer) :
    String × HeaderValue → Prop
  | login : Introduced login passcode clientId host (Name.login, credential login)
  | passcode : Introduced login passcode clientId host (Name.passcode, credential passcode)
  | clientId {v : HeaderValue} : clientId.stored? = some v →
      Introduced login passcode clientId host (Name.clientId, v)
  | host {g : Given} {v : HeaderValue} : host.given? = some g → g.stored? = some v →
      Introduced login passcode clientId host (Name.host, v)
  | versions (s : String) : Introduced login passcode clientId host (Name.acceptVersion, .text s)
  | beats (s : String) : Introduced login passcode clientId host (Name.heartBeat, .text s)

theorem introduced_of_mem_credentials {e : String × HeaderValue}
    (h : e ∈ (credentials login passcode).entries) : Introduced login passcode clientId host e := by
  unfold credentials at h
  split at h
  · rcases Headers.mem_insert h with ⟨h, -⟩ | rfl
    · rcases Headers.mem_insert h with ⟨h, -⟩ | rfl
      · cases h
      · exact .login
    · exact .passcode
  · cases h

theorem eq_of_stored?_text {s : String} {v : HeaderValue}
    (h : (Given.text s).stored? = some v) : v = .text s := by
  rw [Given.stored?] at h
  split at h
  · cases h
  · exact (Option.some.inj h).symm

theorem introduced_of_connect {versions : Option (List Offer)}
    (h : connect login passcode versions host beats clientId = .ok f) :
    f.command = Verb.connect ∧ f.legacy = true ∧ f.body = [] ∧ f.map? = none ∧
      ∀ e ∈ f.headers.entries, Introduced login passcode clientId host e := by
  obtain ⟨vs, -, h⟩ := exists_of_bind_eq_ok h
  obtain ⟨name, hname, h⟩ := exists_of_bind_eq_ok h
  obtain ⟨texts, -, h⟩ := exists_of_bind_eq_ok h
  cases h
  refine ⟨rfl, rfl, rfl, rfl, fun e he => ?_⟩
  obtain ⟨key, v⟩ := e
  rcases Headers.mem_set he with he | ⟨rfl, hv⟩
  · rcases Headers.mem_set he with he | ⟨rfl, hv⟩
    · rcases Headers.mem_set he with he | ⟨rfl, hv⟩
      · rcases Headers.mem_set he with he | ⟨rfl, hv⟩
        · exact introduced_of_mem_credentials he
        · exact .clientId hv
      · cases eq_of_stored?_text hv
        exact .versions _
    · exact .host (given?_of_givenOf hname) hv
  · cases eq_of_stored?_text hv
    exact .beats _

/-- A number among the credentials. -/
def HasNumber (login passcode : Offer) (n : Int) : Prop :=
  n ≠ 0 ∧ (login = .number n ∨ passcode = .number n)

theorem eq_of_credential {n : Int} (h : (credential o).number? = some n) :
    n ≠ 0 ∧ o = .number n := by
  cases o with
  | number m =>
      rw [credential] at h
      split at h
      · cases h
      · cases h
        exact ⟨‹_›, rfl⟩
  | flag b => cases b <;> cases h
  | _ => cases h

theorem Introduced.hasNumber {e : String × HeaderValue}
    (h : Introduced login passcode clientId host e) {n : Int} (hn : e.2.number? = some n) :
    HasNumber login passcode n := by
  cases h with
  | login =>
      obtain ⟨hne, rfl⟩ := eq_of_credential hn
      exact ⟨hne, Or.inl rfl⟩
  | passcode =>
      obtain ⟨hne, rfl⟩ := eq_of_credential hn
      exact ⟨hne, Or.inr rfl⟩
  | clientId hv => cases (HeaderValue.Proper.of_stored? hv).number?.symm.trans hn
  | host _ hv => cases (HeaderValue.Proper.of_stored? hv).number?.symm.trans hn
  | versions s => cases hn
  | beats s => cases hn

/-- A CONNECT frame is kept back for a number among the credentials alone. -/
theorem unwritable_of_connect {versions : Option (List Offer)}
    (h : connect login passcode versions host beats clientId = .ok f) {cause : Unwritable}
    (hf : f.rendered = .error cause) :
    ∃ n, cause = .number n ∧ HasNumber login passcode n := by
  obtain ⟨-, hlegacy, -, hplain, hentries⟩ := introduced_of_connect h
  have hfilled : f.filled = .ok f := by simp only [Frame.filled, hplain]
  simp only [Frame.rendered, hfilled] at hf
  split at hf
  · rename_i n hn
    cases hf
    rw [Frame.number?, Frame.wireHeaders_of_legacy hlegacy] at hn
    obtain ⟨e, he, hn⟩ := List.exists_of_findSome?_eq_some hn
    exact ⟨n, rfl, (hentries e he).hasNumber hn⟩
  · cases hf

theorem exists_versions_of_connect {versions : Option (List Offer)}
    (h : connect login passcode versions host beats clientId = .ok f) :
    ∃ vs, versionsOf versions = .ok vs := by
  obtain ⟨vs, hvs, -⟩ := exists_of_bind_eq_ok h
  exact ⟨vs, hvs⟩

/-- An offer is refused for its versions, or because of a number that cannot be written. -/
theorem of_connect_error {versions : List Offer} {fault : Fault} (hbeats : ∀ b ∈ beats, b.Integral)
    (h : connect login passcode (some versions) host beats clientId = .error fault) :
    (∃ g, fault = .unsupportedVersion g) ∨ fault = .integerWithoutText ∧
      (host.Overlong ∨ (∃ o ∈ versions, o.Overlong) ∨ ∃ b ∈ beats, b.Overlong) := by
  rcases of_bind_eq_error h with h | ⟨vs, -, h⟩
  · exact (of_versionsOf_error h).imp_right fun h => ⟨h.2, Or.inr (Or.inl h.1)⟩
  rcases of_bind_eq_error h with h | ⟨g, -, h⟩
  · obtain ⟨hhost, rfl⟩ := overlong_of_givenOf h
    exact Or.inr ⟨rfl, Or.inl hhost⟩
  rcases of_bind_eq_error h with h | ⟨texts, -, h⟩
  · obtain ⟨b, hb, h⟩ := exists_of_mapM_eq_error h
    obtain ⟨hoverlong, rfl⟩ := of_beatText_error (hbeats b hb) h
    exact Or.inr ⟨rfl, Or.inr (Or.inr ⟨b, hb, hoverlong⟩)⟩
  · cases h

end Connect

/-! ## Answers -/

/-- What is read from an answer to an offer of these versions. -/
structure Accepts (versions : List Offer) (f : Frame) (h : Handshake) : Prop where
  negotiated : negotiated? f = some h.version
  offered : ∃ o ∈ versions, Version.ofOffer? o = some h.version
  server : h.server = f.get? Name.server
  session : h.session = f.get? Name.session

theorem accepts_of_connected {f : Frame} {versions : List Offer} {hello : Handshake}
    (h : connected f (some versions) = .ok hello) : Accepts versions f hello := by
  obtain ⟨-, -, h⟩ := exists_of_bind_eq_ok h
  obtain ⟨vs, hvs, h⟩ := exists_of_bind_eq_ok h
  split at h
  · rename_i v hv
    split at h
    · rename_i hmem
      cases h
      exact ⟨hv, exists_offer hvs hmem, rfl, rfl⟩
    · cases h
  · cases h

theorem isOperational_of_connected {f : Frame} {versions : Option (List Offer)} {fault : Fault}
    (hvs : ∃ vs, versionsOf versions = .ok vs) (h : connected f versions = .error fault) :
    (Error.command fault : Error R).isOperational = true := by
  rcases of_bind_eq_error h with h | ⟨-, -, h⟩
  · unfold expect at h
    split at h
    · cases h
    · cases h
      rfl
  rcases of_bind_eq_error h with h | ⟨vs, -, h⟩
  · obtain ⟨vs, hvs⟩ := hvs
    cases hvs.symm.trans h
  split at h
  · split at h
    · cases h
    · cases h
      rfl
  · cases h
    rfl

/-- Of the values that a header has when it is set, presence alone is no banner. -/
theorem of_dialectOf_error {server : Option HeaderValue} {fault : Fault}
    (h : Protocol.dialectOf server = .error fault) :
    fault = .bannerWithoutText ∧ ((∀ v ∈ server, v.Proper) → server = some .bare) := by
  unfold Protocol.dialectOf at h
  split at h
  · cases h
  · cases h
  · rename_i v hnot
    split at h
    · cases h
      refine ⟨rfl, fun hproper => ?_⟩
      have hv := hproper v rfl
      cases v with
      | bare => rfl
      | text s => exact (hnot s rfl).elim
      | number n => exact hv.elim
    · cases h

namespace Handshake

variable {h : Handshake} {clientId : Given}

theorem of_protocol_ok {p : Protocol} (hp : h.protocol clientId = .ok p) :
    p.version = h.version ∧ p.server = h.server ∧
      Protocol.dialectOf h.server = .ok p.dialect := by
  unfold protocol Protocol.ofBanner at hp
  split at hp
  · rename_i hdialect
    cases hp
    exact ⟨rfl, rfl, hdialect⟩
  · cases hp

theorem of_protocol_error {fault : Fault} (hp : h.protocol clientId = .error fault) :
    Protocol.dialectOf h.server = .error fault := by
  unfold protocol Protocol.ofBanner at hp
  split at hp
  · cases hp
  · cases hp
    assumption

end Handshake

end Command

end Stomp
