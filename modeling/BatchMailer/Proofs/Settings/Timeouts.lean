import BatchMailer.Proofs.Binary64.Numerals
import BatchMailer.Proofs.Run.Dispatch
import BatchMailer.Proofs.Settings.Switched

/-!
# BatchMailer.Proofs.Settings.Timeouts

Timeouts on their way from the environment into a client.

The check refuses what is zero or less.  A number that passes it is above zero
(`Binary64.Positive`), on the extended real line, so infinity passes too.  The
assertion that is checked does not hold of `nan`, so this passes as well: it is
accepted exactly where the text spells it (`Environment.seconds_eq_nan_iff`), and
a client is then set up with it.  This is the only way in which a timeout is
accepted that is not above zero (`positive_of_accepted`).
-/

namespace BatchMailer

/-- A number whose value is above zero. -/
def Binary64.Positive (x : Binary64) : Prop := ∃ v ∈ x.value?, 0 < v

theorem Binary64.not_positive_nan : ¬ Positive nan := by simp [Positive, value?]

namespace Environment

variable {e : Environment} {name default : String} {x : Binary64}

/-- The text that a timeout is read from. -/
def textFor (e : Environment) (name default : String) : String := (e.get? name).getD default

/-- What is accepted as a timeout: a number that is not zero or less. -/
theorem seconds_eq_ok_iff :
    e.seconds name default = .ok x ↔
      Binary64.ofText? (e.textFor name default) = some x ∧ (x.Positive ∨ x = .nan) := by
  have hsign : x.isAtMostZero = false ↔ x.Positive ∨ x = .nan := by
    by_cases hx : x = .nan
    · simp [hx, Binary64.isAtMostZero]
    · rw [or_iff_left hx, Binary64.Positive, ← Binary64.isPositive_iff,
        Binary64.isPositive_eq_not_isAtMostZero hx, Bool.not_eq_true']
  rw [seconds, ← hsign, textFor]
  split
  · next hnone => simp [hnone]
  · next number hnumber =>
      rw [hnumber, Option.some_inj]
      split
      · next hrefused =>
          refine iff_of_false (by simp) ?_
          rintro ⟨rfl, haccepted⟩
          rw [hrefused] at haccepted
          contradiction
      · next haccepted =>
          rw [Except.ok.injEq, iff_self_and]
          rintro rfl
          exact Bool.eq_false_iff.2 haccepted

theorem seconds_eq_nan_iff :
    e.seconds name default = .ok .nan ↔ Binary64.SpellsNan (e.textFor name default).toList := by
  rw [seconds_eq_ok_iff, Binary64.ofText?_eq_nan_iff, and_iff_left (.inr rfl)]

end Environment

/-- What an accepted timeout is, by the text it was read from: none at all if the
text spells it so, and else a number above zero. -/
structure AcceptedTimeout (text : String) (x : Binary64) : Prop where
  read : Binary64.ofText? text = some x
  nan : x = .nan ↔ Binary64.SpellsNan text.toList
  positive : ¬ Binary64.SpellsNan text.toList → x.Positive

namespace Environment

variable {e : Environment} {name default : String} {x : Binary64}

theorem accepted_of_seconds (h : e.seconds name default = .ok x) :
    AcceptedTimeout (e.textFor name default) x := by
  obtain ⟨hread, hsign⟩ := seconds_eq_ok_iff.1 h
  have hnan : x = .nan ↔ Binary64.SpellsNan (e.textFor name default).toList := by
    rw [← seconds_eq_nan_iff, h, Except.ok.injEq]
  exact ⟨hread, hnan, fun hspell => hsign.resolve_right (mt hnan.1 hspell)⟩

/-- A timeout is refused because its text is no numeral or its number is zero or
less, or it is accepted. -/
theorem seconds_cases (e : Environment) (name default : String) :
    (Binary64.ofText? (e.textFor name default) = none ∧
      e.seconds name default = .error (.invalidSeconds name (e.textFor name default))) ∨
    (∃ x, Binary64.ofText? (e.textFor name default) = some x ∧ (∃ v ∈ x.value?, v ≤ 0) ∧
      e.seconds name default = .error (.notPositive name)) ∨
    ∃ x, e.seconds name default = .ok x ∧ AcceptedTimeout (e.textFor name default) x := by
  cases hread : Binary64.ofText? (e.textFor name default) with
  | none =>
      refine .inl ⟨rfl, ?_⟩
      rw [seconds, ← textFor, hread]
  | some x =>
      by_cases hsign : x.isAtMostZero = true
      · refine .inr (.inl ⟨x, rfl, Binary64.isAtMostZero_iff.1 hsign, ?_⟩)
        rw [seconds, ← textFor, hread]
        exact if_pos hsign
      · have hok : e.seconds name default = .ok x := by
          rw [seconds, ← textFor, hread]
          exact if_neg hsign
        exact .inr (.inr ⟨x, hok, accepted_of_seconds hok⟩)

end Environment

namespace Settings

/-- The texts that the two timeouts of a configuration are read from. -/
def connectText (e : Environment) : String := e.textFor "MF_SES_CONNECT_TIMEOUT_SECONDS" "10"

@[inherit_doc connectText]
def readText (e : Environment) : String := e.textFor "MF_SES_READ_TIMEOUT_SECONDS" "30"

theorem accepted_of_load {e : Environment} {s : Settings} (h : load e = .ok s) :
    AcceptedTimeout (connectText e) s.connectTimeout ∧
      AcceptedTimeout (readText e) s.readTimeout := by
  obtain ⟨-, hconnect, hread, -⟩ := eq_of_load h
  exact ⟨Environment.accepted_of_seconds hconnect, Environment.accepted_of_seconds hread⟩

end Settings

namespace Run

variable {σ τ : Type}

/-- A client is that of the sender for a configuration that can be used. -/
theorem exists_of_client_send {build : Settings → BuiltSender σ}
    {settings : Except SettingsError Settings} {pieces : List Piece} {host : Host}
    {client : Ses.Client} (h : client ∈ (send build settings pieces host).client) :
    ∃ s, settings = .ok s ∧ client ∈ (build s).client := by
  cases settings with
  | error e => rw [send_invalid] at h; contradiction
  | ok s =>
      refine ⟨s, rfl, ?_⟩
      by_cases hmade : (host.files.ensureDirectories s.outputDir).1 = .ok ()
      · rwa [client_send build (Prod.ext hmade rfl)] at h
      · obtain ⟨_, _, _, hsend⟩ := send_of_not_made build hmade pieces
        rw [hsend] at h
        contradiction

/-- A client is set up with the timeouts of its configuration. -/
theorem timeouts_of_selected {service : Ses.Service τ} {start : τ} {s : Settings}
    {client : Ses.Client} (h : client ∈ (selected service start s).client) :
    client.connectTimeout = s.connectTimeout ∧ client.readTimeout = s.readTimeout := by
  rw [selected] at h
  split at h
  · contradiction
  · rw [← Option.some.inj h]
    exact ⟨rfl, rfl⟩

end Run

/-- **A timeout that is accepted is above zero, unless its text spells `nan`.**  For every
environment, name and default, a timeout is refused because its text is no numeral, or
because its number is zero or less, or it is accepted; then it is above zero on the
extended real line if its text does not spell `nan`, and else it is `nan`
(`AcceptedTimeout`).  So it is with both timeouts of a configuration that is loaded, and with
both that a run over the same environment sets up its client with. -/
theorem positive_of_accepted (e : Environment) :
    (∀ name default,
      (Binary64.ofText? (e.textFor name default) = none ∧
        e.seconds name default = .error (.invalidSeconds name (e.textFor name default))) ∨
      (∃ x, Binary64.ofText? (e.textFor name default) = some x ∧ (∃ v ∈ x.value?, v ≤ 0) ∧
        e.seconds name default = .error (.notPositive name)) ∨
      ∃ x, e.seconds name default = .ok x ∧ AcceptedTimeout (e.textFor name default) x) ∧
    ((∃ error, Settings.load e = .error error) ∨ ∃ s, Settings.load e = .ok s ∧
      AcceptedTimeout (Settings.connectText e) s.connectTimeout ∧
      AcceptedTimeout (Settings.readText e) s.readTimeout) ∧
    ∀ {τ : Type} (service : Ses.Service τ) (start : τ) (pieces : List Piece) (host : Host),
      ∀ client ∈ (Run.send (Run.selected service start) (Settings.load e) pieces host).client,
        AcceptedTimeout (Settings.connectText e) client.connectTimeout ∧
        AcceptedTimeout (Settings.readText e) client.readTimeout := by
  refine ⟨fun name default => e.seconds_cases name default, ?_, ?_⟩
  · cases hload : Settings.load e with
    | error error => exact .inl ⟨error, rfl⟩
    | ok s => exact .inr ⟨s, rfl, Settings.accepted_of_load hload⟩
  · intro τ service start pieces host client hclient
    obtain ⟨s, hload, hselected⟩ := Run.exists_of_client_send hclient
    obtain ⟨hconnect, hread⟩ := Run.timeouts_of_selected hselected
    rw [hconnect, hread]
    exact Settings.accepted_of_load hload

/-- A connect timeout with blanks, a sign and an underscore in it, and a read timeout that
is left to its default, up to the client that a run sets up. -/
theorem positive_of_accepted_one :
    let e : Environment :=
      ⟨[("MF_SES_OUTPUT_PATH", "out"), ("MF_SES_CONNECT_TIMEOUT_SECONDS", " +1_0e-1 ")]⟩
    let host := Host.start ⟨⟨⟨2024, 2, 29⟩, 12, 30, 0, 0, 0⟩, []⟩ ⟨.nan, []⟩ .fresh
    ∃ client ∈ (Run.send (Run.selected Ses.scriptedService []) (Settings.load e) [] host).client,
      client.connectTimeout = .ofNat 1 ∧ client.connectTimeout.Positive ∧
        client.readTimeout.Positive := by
  intro e host
  have hload : Settings.load e = .ok ⟨false, "default", "noreply@localhost", "out", [], none, none,
      .ofNat 1, .ofNat 30⟩ := by decide +kernel
  have hclient : (Run.send (Run.selected Ses.scriptedService []) (Settings.load e) [] host).client =
      some (.new none none (.ofNat 1) (.ofNat 30)) := by
    rw [hload]
    exact Run.client_send _ FileTree.ensureDirectories_fresh []
  obtain ⟨-, -, hrun⟩ := positive_of_accepted e
  obtain ⟨hconnect, hread⟩ := hrun Ses.scriptedService [] [] host _ hclient
  refine ⟨_, hclient, rfl, hconnect.positive ?_, hread.positive ?_⟩
  · rw [← Binary64.ofText?_eq_nan_iff]
    decide +kernel
  · rw [← Binary64.ofText?_eq_nan_iff]
    decide +kernel

/-- A text that spells `nan` passes the check, is loaded and reaches a client. -/
theorem accepted_nan :
    let name := "MF_SES_READ_TIMEOUT_SECONDS"
    let e : Environment := ⟨[("MF_SES_OUTPUT_PATH", "out"), (name, "nan")]⟩
    let host := Host.start ⟨⟨⟨2024, 2, 29⟩, 12, 30, 0, 0, 0⟩, []⟩ ⟨.nan, []⟩ .fresh
    ¬ ((∃ error, e.seconds name "30" = .error error) ∨
        ∃ x, e.seconds name "30" = .ok x ∧ x.Positive) ∧
      ¬ ((∃ error, Settings.load e = .error error) ∨ ∃ s, Settings.load e = .ok s ∧
        s.connectTimeout.Positive ∧ s.readTimeout.Positive) ∧
      ¬ ∀ client ∈
          (Run.send (Run.selected Ses.scriptedService []) (Settings.load e) [] host).client,
        client.connectTimeout.Positive ∧ client.readTimeout.Positive := by
  intro name e host
  have hseconds : e.seconds name "30" = .ok .nan := by decide +kernel
  have hload : Settings.load e = .ok ⟨false, "default", "noreply@localhost", "out", [], none, none,
      .ofNat 10, .nan⟩ := by decide +kernel
  have hclient : (Run.send (Run.selected Ses.scriptedService []) (Settings.load e) [] host).client =
      some (.new none none (.ofNat 10) .nan) := by
    rw [hload]
    exact Run.client_send _ FileTree.ensureDirectories_fresh []
  rw [hseconds]
  refine ⟨?_, ?_, fun hclients => ?_⟩
  · rintro (⟨error, h⟩ | ⟨x, hx, hpositive⟩)
    · contradiction
    · rw [← Except.ok.inj hx] at hpositive
      exact Binary64.not_positive_nan hpositive
  · rw [hload]
    rintro (⟨error, h⟩ | ⟨s, hs, -, hpositive⟩)
    · contradiction
    · rw [← Except.ok.inj hs] at hpositive
      exact Binary64.not_positive_nan hpositive
  · exact Binary64.not_positive_nan (hclients _ hclient).2

end BatchMailer
