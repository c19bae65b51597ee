import HartDebug.Proofs.Wire.InStep
import HartDebug.Proofs.Wire.OpenLink
import HartDebug.Session.Interrogation

/-!
# What an interrogation takes over

An interrogation asks twice, and each answer may fail to come or to tell anything.  What the first answer
tells is taken over before the second question, and what the second tells before it is known to be a width
of transfers.

* `Description` — what a session takes its target for;
* `Console.listedTap`, `Console.reportedXlen` — what the console tells when it is asked;
* `Session.Interrogated` — how an interrogation ends, and the description it ends with;
* `Session.interrogate_adopts` — **an interrogation ends so**, and when it fails without taking anything over.
-/

namespace HartDebug

/-- What a session on a console takes its target for. -/
structure Description where
  tap : Option Tap
  /-- The port that raw scans are directed at. -/
  tapName : String
  xlen : Option Nat
  width : TransferWidth
  deriving DecidableEq

namespace Description

/-- The description with a port, which raw scans are directed at. -/
def withTap (d : Description) (tap : Tap) : Description :=
  { d with tap := some tap, tapName := tap.name }

/-- The description with a register width. -/
def withXlen (d : Description) (xlen : Nat) : Description :=
  { d with xlen := some xlen }

/-- The description with a width of transfers. -/
def withWidth (d : Description) (width : TransferWidth) : Description :=
  { d with width := width }

end Description

variable {σ : Type} [ByteStream σ]

namespace Console

/-- The port that the console lists first when it is asked. -/
def listedTap (c : Console σ) : Except DebugError Tap := do
  let listing ← ((executeLines "scan_chain").exec c).1
  (ScanChain.tapOf listing).mapError .protocol

/-- The console after it has been asked for the ports and directed at one of them. -/
def directedAt (c : Console σ) (tap : Tap) : Console σ :=
  ((setTapName tap.name).exec ((executeLines "scan_chain").exec c).2).2

/-- The register width that the console reports when it is asked. -/
def reportedXlen (c : Console σ) : Except DebugError Nat := do
  let description ← ((executeLines "riscv info").exec c).1
  (ScanChain.xlenOf description).mapError .protocol

end Console

namespace Session

variable {s : Session (Console σ)}

/-- What the session takes its target for. -/
def described (s : Session (Console σ)) : Description where
  tap := s.tap
  tapName := s.transport.link.tapName
  xlen := s.xlen
  width := s.width

/-- How an interrogation ends, and what the session takes its target for then. -/
inductive Interrogated (s : Session (Console σ)) : Except DebugError Unit → Description → Prop where
  /-- No port is listed. -/
  | noTap {e : DebugError} (unlisted : s.transport.listedTap = .error e) : Interrogated s (.error e) s.described
  /-- A port is listed, and no register width is reported behind it. -/
  | noXlen {tap : Tap} {e : DebugError} (listed : s.transport.listedTap = .ok tap)
      (unreported : (s.transport.directedAt tap).reportedXlen = .error e) :
      Interrogated s (.error e) (s.described.withTap tap)
  /-- The register width is needed as a width of transfers, and is none. -/
  | noWidth {tap : Tap} {xlen : Nat} {e : DebugError} (listed : s.transport.listedTap = .ok tap)
      (reported : (s.transport.directedAt tap).reportedXlen = .ok xlen) (unset : s.config.width = none)
      (unfit : TransferWidth.ofBits xlen = .error e) :
      Interrogated s (.error e) ((s.described.withTap tap).withXlen xlen)
  /-- The width of transfers is a matter of the settings. -/
  | configured {tap : Tap} {xlen : Nat} {chosen : TransferWidth} (listed : s.transport.listedTap = .ok tap)
      (reported : (s.transport.directedAt tap).reportedXlen = .ok xlen) (set : s.config.width = some chosen) :
      Interrogated s (.ok ()) ((s.described.withTap tap).withXlen xlen)
  /-- The register width is the width of transfers from now on. -/
  | adopted {tap : Tap} {xlen : Nat} {width : TransferWidth} (listed : s.transport.listedTap = .ok tap)
      (reported : (s.transport.directedAt tap).reportedXlen = .ok xlen) (unset : s.config.width = none)
      (fit : TransferWidth.ofBits xlen = .ok width) :
      Interrogated s (.ok ()) (((s.described.withTap tap).withXlen xlen).withWidth width)

/-! ## How an interrogation ends -/

omit [ByteStream σ] in
/-- The register width is taken over before it is known whether it is a width of transfers. -/
theorem exec_adoptXlen (xlen : Nat) (s : Session (Console σ)) :
    (adoptXlen xlen).exec s =
      if s.config.width.isNone then
        match TransferWidth.ofBits xlen with
        | .error e => (.error e, { s with xlen := some xlen })
        | .ok width => (.ok (), { s with xlen := some xlen, width := width })
      else (.ok (), { s with xlen := some xlen }) := by
  rw [adoptXlen, Action.exec_bind_ok (Action.exec_modify _ s), Action.exec_bind_ok (Action.exec_get _)]
  dsimp only
  split
  · rw [Action.exec_bind, Action.exec_ofExcept]
    cases TransferWidth.ofBits xlen with
    | error e => rfl
    | ok width => rfl
  · rfl

omit [ByteStream σ] in
/-- Another state of the transport is the same description, as long as scans go to the same port. -/
theorem described_withTransport {c : Console σ} (same : c.link.tapName = s.transport.link.tapName) :
    (s.withTransport c).described = s.described := by
  rw [described, described, withTransport, same]

/-- How an interrogation ends once the register width is known. -/
theorem interrogated_of_reported {tap : Tap} {xlen : Nat} (listed : s.transport.listedTap = .ok tap)
    (reported : (s.transport.directedAt tap).reportedXlen = .ok xlen) {told : Session (Console σ)}
    (config : told.config = s.config) (taken : told.described = s.described.withTap tap) :
    Interrogated s ((adoptXlen xlen).exec told).1 ((adoptXlen xlen).exec told).2.described := by
  have with_xlen : ({ told with xlen := some xlen } : Session (Console σ)).described =
      (s.described.withTap tap).withXlen xlen := congrArg (Description.withXlen · xlen) taken
  rw [exec_adoptXlen]
  cases set : told.config.width with
  | some chosen =>
    rw [config] at set
    exact with_xlen ▸ .configured listed reported set
  | none =>
    rw [config] at set
    cases fit : TransferWidth.ofBits xlen with
    | error e => exact with_xlen ▸ .noWidth listed reported set fit
    | ok width =>
      have with_width : ({ told with xlen := some xlen, width := width } : Session (Console σ)).described =
          ((s.described.withTap tap).withXlen xlen).withWidth width :=
        congrArg (Description.withWidth · width) with_xlen
      exact with_width ▸ .adopted listed reported set fit

/-- The second half of an interrogation. -/
def askXlen : Action DebugError (Session (Console σ)) Unit := do
  let description ← onTransport (Console.executeLines "riscv info")
  match ScanChain.xlenOf description with
  | .error violation => failLogged .interrogation (.protocol violation)
  | .ok xlen =>
    Action.log .info .interrogation s!"XLEN: {xlen}"
    adoptXlen xlen

/-- How the second half ends for a session that has taken over the port. -/
theorem interrogated_of_listed {tap : Tap} (listed : s.transport.listedTap = .ok tap)
    {told : Session (Console σ)} (directed : told.transport = s.transport.directedAt tap)
    (config : told.config = s.config) (taken : told.described = s.described.withTap tap) :
    Interrogated s (askXlen.exec told).1 (askXlen.exec told).2.described := by
  have kept := Console.moves_executeLines_tapName "riscv info" told.transport
  have answered := exec_onTransport (Console.executeLines "riscv info") told
  have reported : (s.transport.directedAt tap).reportedXlen =
      ((Console.executeLines "riscv info").exec told.transport).1 >>= fun description =>
        (ScanChain.xlenOf description).mapError DebugError.protocol := by
    rw [directed]
    rfl
  rcases asked : (Console.executeLines "riscv info").exec told.transport with ⟨e | description, c⟩
  all_goals
    rw [asked] at kept answered reported
    have same : (told.withTransport c).described = s.described.withTap tap :=
      (described_withTransport kept).trans taken
  · rw [askXlen, Action.exec_bind_error answered, same]
    exact .noXlen listed reported
  rw [askXlen, Action.exec_bind_ok answered]
  dsimp only
  change _ = (ScanChain.xlenOf description).mapError DebugError.protocol at reported
  cases found : ScanChain.xlenOf description with
  | error violation =>
    rw [found] at reported
    dsimp only
    rw [exec_failLogged, same]
    exact .noXlen listed reported
  | ok xlen =>
    rw [found] at reported
    dsimp only
    rw [Action.exec_bind_ok (Action.exec_log _ _ _ _)]
    exact interrogated_of_reported listed reported config same

/-- **An interrogation ends so.**  It is followed question by question. -/
theorem interrogated (s : Session (Console σ)) :
    Interrogated s (interrogate.exec s).1 (interrogate.exec s).2.described := by
  have kept := Console.moves_executeLines_tapName "scan_chain" s.transport
  have answered := exec_onTransport (Console.executeLines "scan_chain") s
  have listed : s.transport.listedTap =
      ((Console.executeLines "scan_chain").exec s.transport).1 >>= fun listing =>
        (ScanChain.tapOf listing).mapError DebugError.protocol := rfl
  rcases asked : (Console.executeLines "scan_chain").exec s.transport with ⟨e | listing, c⟩
  all_goals rw [asked] at kept answered listed
  · rw [interrogate, Action.exec_bind_error answered, described_withTransport kept]
    exact .noTap listed
  rw [interrogate, Action.exec_bind_ok answered]
  dsimp only
  rw [Action.exec_perhapsLog]
  change _ = (ScanChain.tapOf listing).mapError DebugError.protocol at listed
  cases first : ScanChain.tapOf listing with
  | error violation =>
    rw [first] at listed
    dsimp only
    rw [exec_failLogged, described_withTransport kept]
    exact .noTap listed
  | ok tap =>
    rw [first] at listed
    dsimp only
    have named : (onTransport (Console.setTapName tap.name)).exec (s.withTransport c) =
        (.ok (), s.withTransport (s.transport.directedAt tap)) := by
      rw [Console.directedAt, asked]
      rfl
    rw [Action.exec_bind_ok (Action.exec_log _ _ _ _), Action.exec_bind_ok named,
      Action.exec_bind_ok (Action.exec_modify _ _)]
    exact interrogated_of_listed listed rfl rfl rfl

/-- The answers tell how an interrogation ends. -/
theorem Interrogated.unique {outcome outcome' : Except DebugError Unit} {after after' : Description}
    (h : Interrogated s outcome after) (h' : Interrogated s outcome' after') :
    outcome = outcome' ∧ after = after' := by
  cases h <;> cases h' <;> simp_all

/-! ## What a failure leaves -/

/-- A failure leaves the description as it was if and only if what was told until then was known. -/
theorem Interrogated.unchanged_iff {e : DebugError} {after : Description}
    (h : Interrogated s (.error e) after) :
    after = s.described ↔ ∀ tap, s.transport.listedTap = .ok tap → s.described.withTap tap = s.described ∧
      ∀ xlen, (s.transport.directedAt tap).reportedXlen = .ok xlen → s.xlen = some xlen := by
  cases h with
  | noTap unlisted =>
    refine ⟨fun _ tap listed => ?_, fun _ => rfl⟩
    rw [unlisted] at listed
    cases listed
  | @noXlen tap e listed unreported =>
    constructor
    · intro known tap' listed'
      obtain rfl : tap = tap' := Except.ok.inj (listed.symm.trans listed')
      refine ⟨known, fun xlen reported => ?_⟩
      rw [unreported] at reported
      cases reported
    · exact fun known => (known tap listed).1
  | @noWidth tap xlen e listed reported unset unfit =>
    constructor
    · intro known tap' listed'
      obtain rfl : tap = tap' := Except.ok.inj (listed.symm.trans listed')
      have known_xlen : s.xlen = some xlen := (congrArg Description.xlen known).symm
      refine ⟨?_, fun xlen' reported' => ?_⟩
      · calc s.described.withTap tap
          _ = ((s.described.withTap tap).withXlen xlen).withTap tap := by rw [known]
          _ = (s.described.withTap tap).withXlen xlen := rfl
          _ = s.described := known
      · obtain rfl : xlen = xlen' := Except.ok.inj (reported.symm.trans reported')
        exact known_xlen
    · intro known
      obtain ⟨known_tap, known_xlen⟩ := known tap listed
      rw [known_tap, Description.withXlen, ← known_xlen xlen reported]
      rfl

/-- **What an interrogation takes over.**  If it succeeds it takes over the port that was listed, its name for
raw scans, the register width, and this as the width of transfers unless one was chosen in the settings.  If
it fails it has taken over what it was told until then, so that everything is as before only where that was
known. -/
theorem interrogate_adopts (s : Session (Console σ)) :
    Interrogated s (interrogate.exec s).1 (interrogate.exec s).2.described ∧
      ∀ e, (interrogate.exec s).1 = .error e →
        ((interrogate.exec s).2.described = s.described ↔
          ∀ tap, s.transport.listedTap = .ok tap → s.described.withTap tap = s.described ∧
            ∀ xlen, (s.transport.directedAt tap).reportedXlen = .ok xlen → s.xlen = some xlen) := by
  refine ⟨interrogated s, fun e failed => ?_⟩
  have ended := interrogated s
  rw [failed] at ended
  exact ended.unchanged_iff

/-- A port is listed and no hart is described: raw scans are directed at the port from then on. -/
theorem interrogate_adopts_half :
    let script : ScriptedStream :=
      { incoming := [.octets (plainOctets "scan_chain\n\n\n0 a b\n> riscv info\nno hart\n> ")] }
    let console : Console ScriptedStream := .ofStream script {} fun _ => .error .ended
    let s : Session (Console ScriptedStream) := fresh console {} { clock := .steady 1 (by decide) }
    (interrogate.exec s).1 = .error (.protocol (.noXlen "no hart\n")) ∧
      s.described = ⟨none, "riscv.cpu", none, .w64⟩ ∧
      (interrogate.exec s).2.described = ⟨some ⟨"a", none⟩, "a", none, .w64⟩ ∧
      (interrogate.exec s).2.described ≠ s.described := by
  intro script console s
  let unread : List Byte := plainOctets "scan_chain\n\n\n0 a b\n> riscv info\nno hart\n> "
  let unread' : List Byte := plainOctets "riscv info\nno hart\n> "
  have before : console.Stands ScriptedStream.Brings "riscv.cpu" [] unread :=
    ⟨rfl, _, rfl, rfl, _, ⟨⟨[unread], rfl, by decide, List.append_nil _⟩, rfl, nofun⟩, rfl⟩
  have listing : Service.console.body? unread = some (plainOctets "\n\n0 a b\n", unread') := by
    rw [Service.body?, Console.bytes_prompt]
    decide +kernel
  have details : Service.console.body? unread' = some (plainOctets "no hart\n", []) := by
    rw [Service.body?, Console.bytes_prompt]
    decide +kernel
  obtain ⟨c, asked, stands⟩ :=
    Console.yields_executeLines ScriptedStream.delivers "riscv.cpu" "scan_chain" listing console before
  have row : ScanChain.tapOf (Service.console.text (plainOctets "\n\n0 a b\n")) = .ok ⟨"a", none⟩ := by
    decide +kernel
  have listed : console.listedTap = .ok ⟨"a", none⟩ := by
    rw [Console.listedTap, asked]
    exact congrArg (Except.mapError DebugError.protocol) row
  have directed : (console.directedAt ⟨"a", none⟩).Stands ScriptedStream.Brings "a"
      ([] ++ Service.console.line (.plain "scan_chain")) unread' := by
    rw [Console.directedAt, asked]
    exact ⟨rfl, stands.2⟩
  obtain ⟨c', asked', -⟩ :=
    Console.yields_executeLines ScriptedStream.delivers "a" "riscv info" details _ directed
  have no_xlen : ScanChain.xlenOf (Service.console.text (plainOctets "no hart\n")) =
      .error (.noXlen "no hart\n") := by
    decide +kernel
  have unreported : (console.directedAt ⟨"a", none⟩).reportedXlen =
      .error (.protocol (.noXlen "no hart\n")) := by
    rw [Console.reportedXlen, asked']
    exact congrArg (Except.mapError DebugError.protocol) no_xlen
  obtain ⟨ended, unchanged⟩ := interrogate_adopts s
  obtain ⟨failed, half⟩ := ended.unique (.noXlen listed unreported)
  have elsewhere : ¬ ∀ tap, s.transport.listedTap = .ok tap → s.described.withTap tap = s.described ∧
      ∀ xlen, (s.transport.directedAt tap).reportedXlen = .ok xlen → s.xlen = some xlen := by
    intro known
    have named : "a" = "riscv.cpu" := congrArg Description.tapName (known _ listed).1
    exact absurd named (by decide)
  exact ⟨failed, rfl, half, fun same => elsewhere ((unchanged _ failed).1 same)⟩

end Session

end HartDebug
