import HartDebug.Proofs.Session.Travel
import HartDebug.Wire.Console
import HartDebug.Wire.Tcl

/-!
# Links that stay open

Between dialling an adapter and hanging up, the exchanges with it, as many as there are and however they end,
keep the connection and hang up on nothing.

* `Link.Keeps` — a link that was open is still open, and nothing was hung up;
* `Link.exec_use_of_none` — without a connection nothing is done, and no command is run;
* `Link.exec_hangUp` — hanging up says farewell once;
* `OverLink` — a transport that is a link to an adapter, which connecting dials and disconnecting hangs up;
* `Console.overLink`, `TclServer.overLink` — **the console and the Tcl server are such**.
-/

namespace HartDebug

open Action (Moves IsTravel)

variable {σ τ α : Type}

namespace Link

/-- A link that was open is still open, with as many connections hung up as before. -/
structure Keeps (l l' : Link σ) : Prop where
  connected : l'.connection.isSome = l.connection.isSome
  closed : l'.closed = l.closed

theorem isTravel_keeps : IsTravel (Keeps (σ := σ)) where
  refl _ := ⟨rfl, rfl⟩
  trans first second :=
    ⟨second.connected.trans first.connected, second.closed.trans first.closed⟩

/-- Without a connection nothing is done. -/
theorem exec_use_of_none {l : Link σ} (closed : l.connection = none)
    (x : Action DebugError (Connection σ) α) : (use x).exec l = (.error .notConnected, l) := by
  unfold use Action.exec Action.run
  dsimp only
  rw [closed]

theorem moves_use (x : Action DebugError (Connection σ) α) : Moves Keeps (use x) := by
  intro l
  cases opened : l.connection with
  | none =>
    rw [exec_use_of_none opened]
    exact isTravel_keeps.refl l
  | some connection =>
    rw [exec_use opened]
    exact ⟨by rw [opened]; rfl, rfl⟩

/-- What is done on the open connection leaves the link's tap as it is. -/
theorem moves_use_tapName (x : Action DebugError (Connection σ) α) :
    Moves (fun l l' : Link σ => l'.tapName = l.tapName) (use x) := by
  intro l
  unfold use Action.exec Action.run
  dsimp only
  split <;> rfl

/-- A link that has been dialled is open, and nothing was hung up for it. -/
theorem isSome_of_dialUnlessOpen {source : Source} {service : String} {l l' : Link σ}
    (dialled : (dialUnlessOpen source service).exec l = (.ok (), l')) :
    l'.connection.isSome = true ∧ l'.closed = l.closed := by
  rw [dialUnlessOpen, Action.exec_bind_ok (Action.exec_get l)] at dialled
  split at dialled
  · rw [Action.exec_bind_ok (Action.exec_log _ _ _ _)] at dialled
    split at dialled
    · cases dialled
    · cases dialled
      exact ⟨rfl, rfl⟩
  · next connected =>
    rw [Option.isNone_iff_eq_none] at connected
    cases dialled
    exact ⟨Option.isSome_iff_ne_none.mpr connected, rfl⟩

/-- **Hanging up says farewell once**, on the connection that is open, and closes it. -/
theorem exec_hangUp [ByteStream σ] {l : Link σ} {connection : Connection σ}
    (opened : l.connection = some connection) (farewell : List Byte) :
    (hangUp farewell).exec l =
      (((Connection.send farewell).exec connection).1,
        { l with
          connection := none
          closed := l.closed ++ [((Connection.send farewell).exec connection).2] }) := by
  have said : (Action.attempt (use (Connection.send farewell)) : Action DebugError (Link σ) _).exec l =
      (.ok ((Connection.send farewell).exec connection).1,
        { l with connection := some ((Connection.send farewell).exec connection).2 }) := by
    rw [Action.exec_attempt, exec_use opened]
  rw [hangUp, Action.exec_bind_ok (Action.exec_get l), opened, if_pos (Option.isSome_some),
    Action.exec_bind_ok said]
  rfl

end Link

/-! ## Transports over a link -/

/-- The transport is a link to an adapter: connecting it dials, disconnecting it hangs up with a farewell, and
no other access opens or closes a connection. -/
structure OverLink [ByteStream σ] [Transport τ] (link : τ → Link σ) (farewell : List Byte) : Prop where
  stays : Transport.Stays fun t t' : τ => (link t).Keeps (link t')
  connect : ∀ {t t' : τ}, Bus.connect.exec t = (.ok (), t') →
    (link t').connection.isSome = true ∧ (link t').closed = (link t).closed
  disconnect : ∀ t : τ, link (Bus.disconnect.exec t).2 = ((Link.hangUp farewell).exec (link t)).2

/-! ### What is made of replies -/

section Replies

variable {R : τ → τ → Prop} (travel : IsTravel R)

include travel

theorem moves_unlessFailed (source : Source) (reply : String) :
    Moves R (Reply.unlessFailed source reply : Action DebugError τ String) := by
  rw [Reply.unlessFailed]
  split
  · exact Session.moves_failLogged travel _ _
  · exact .pure travel _

variable {x : Action DebugError τ String} (h : Moves R x)

include h

theorem moves_acknowledged (source : Source) :
    Moves R (do
      let reply ← x
      discard (Reply.unlessFailed source reply) : Action DebugError τ Unit) :=
  h.bind travel fun _ => (moves_unlessFailed travel source _).map travel _

theorem moves_word :
    Moves R (do
      let reply ← x
      Action.ofExcept (Reply.word reply) : Action DebugError τ Word) :=
  h.bind travel fun _ => .ofExcept travel _

theorem moves_wordUnlessFailed (source : Source) :
    Moves R (do
      let reply ← x
      let reply ← Reply.unlessFailed source reply
      Action.ofExcept (Reply.word reply) : Action DebugError τ Word) :=
  h.bind travel fun _ => (moves_unlessFailed travel source _).bind travel fun _ => .ofExcept travel _

end Replies

namespace Console

/-- The console keeps its connection. -/
def Keeps (c c' : Console σ) : Prop :=
  c.link.Keeps c'.link

theorem travel_keeps : IsTravel (Keeps (σ := σ)) where
  refl _ := Link.isTravel_keeps.refl _
  trans first second := Link.isTravel_keeps.trans first second

/-- Without a connection, what would be done on it is not. -/
theorem exec_onLink_of_none {c : Console σ} (closed : c.link.connection = none)
    (x : Action DebugError (Connection σ) α) : (onLink (Link.use x)).exec c = (.error .notConnected, c) := by
  rw [onLink, Action.exec_onPart, Link.exec_use_of_none closed]

theorem moves_onLink {x : Action DebugError (Link σ) α} (h : Moves Link.Keeps x) :
    Moves Keeps (onLink x) :=
  h.onPart fun _ _ moved => moved

variable [ByteStream σ]

section

variable {c : Console σ} (closed : c.link.connection = none)

include closed

theorem exec_executeLines_of_none (command : String) :
    (executeLines command).exec c = (.error .notConnected, c) :=
  Action.exec_bind_error ((Action.exec_bind_ok (Action.exec_log _ _ _ c) _).trans (exec_onLink_of_none closed _)) _

theorem exec_execute_of_none (command : String) : (execute command).exec c = (.error .notConnected, c) :=
  Action.exec_bind_error (exec_executeLines_of_none closed command) _

end

/-- What everything on the open connection keeps to, a command with its answer keeps to. -/
theorem moves_executeLines_of {R : Console σ → Console σ → Prop} (travel : IsTravel R)
    (on_open : ∀ {β : Type} (x : Action DebugError (Connection σ) β), Moves R (onLink (Link.use x)))
    (command : String) : Moves R (executeLines command) :=
  ((Moves.log travel _ _ _).bind travel fun _ => on_open _).bind travel fun _ =>
    (on_open _).bind travel fun _ => .pure travel _

omit [ByteStream σ] in
theorem travel_tapName : IsTravel fun c c' : Console σ => c'.link.tapName = c.link.tapName where
  refl _ := rfl
  trans first second := second.trans first

/-- A command leaves the tap that the link is directed at. -/
theorem moves_executeLines_tapName (command : String) :
    Moves (fun c c' : Console σ => c'.link.tapName = c.link.tapName) (executeLines command) :=
  moves_executeLines_of travel_tapName
    (fun x => (Link.moves_use_tapName x).onPart fun _ _ same => same) command

theorem moves_execute_tapName (command : String) :
    Moves (fun c c' : Console σ => c'.link.tapName = c.link.tapName) (execute command) :=
  (moves_executeLines_tapName command).bind travel_tapName fun _ => .pure travel_tapName _

theorem moves_readAnswer : Moves Keeps (readAnswer (σ := σ)) :=
  (moves_onLink (Link.moves_use _)).bind travel_keeps fun _ => .pure travel_keeps _

theorem moves_executeLines (command : String) : Moves Keeps (executeLines (σ := σ) command) :=
  moves_executeLines_of travel_keeps (fun x => moves_onLink (Link.moves_use x)) command

theorem moves_execute (command : String) : Moves Keeps (execute (σ := σ) command) :=
  (moves_executeLines command).bind travel_keeps fun _ => .pure travel_keeps _

theorem moves_scan (i : Instruction) (value : Word) : Moves Keeps (scan (σ := σ) i value) :=
  (Moves.get travel_keeps).bind travel_keeps fun _ =>
    ((moves_execute _).map travel_keeps _).bind travel_keeps fun _ => moves_execute _

theorem moves_read (address : BusAddress) :
    Moves Keeps (Bus.read address : Action DebugError (Console σ) Word) :=
  moves_wordUnlessFailed travel_keeps (moves_execute _) _

theorem moves_readIdcode : Moves Keeps (Bus.readIdcode : Action DebugError (Console σ) Word) :=
  moves_word travel_keeps (moves_scan _ _)

theorem stays : Transport.Stays (Keeps (σ := σ)) where
  travel := travel_keeps
  write _ _ := moves_acknowledged travel_keeps (moves_execute _) _
  read := moves_read
  writeDtmcs _ := (moves_scan _ _).map travel_keeps _
  readDtmcs := moves_word travel_keeps (moves_scan _ _)
  readIdcode := moves_readIdcode
  resetTap := (moves_execute _).map travel_keeps _
  expect _ := moves_readAndCompare travel_keeps (moves_read _)
  expectIdcode := moves_readAndCompareIdcode travel_keeps moves_readIdcode
  idle _ := .pure travel_keeps ()

/-- **The console is a link** to an adapter, whose greeting is read when it has been dialled. -/
theorem overLink : OverLink (τ := Console σ) (·.link) (Utf8.bytes "exit\n") where
  stays := stays
  connect := by
    intro c c' connected
    obtain ⟨_, c₁, dialled, greeted⟩ := Action.exec_bind_eq_ok connected
    have kept : Keeps c₁ c' := (moves_readAnswer.map travel_keeps _).of_exec greeted
    obtain ⟨outcome, rfl⟩ := Prod.mk.inj dialled
    obtain ⟨open_, closed⟩ := Link.isSome_of_dialUnlessOpen (Prod.ext outcome rfl)
    exact ⟨kept.connected.trans open_, kept.closed.trans closed⟩
  disconnect _ := rfl

end Console

namespace TclServer

/-- The server keeps its connection. -/
def Keeps (t t' : TclServer σ) : Prop :=
  t.link.Keeps t'.link

theorem travel_keeps : IsTravel (Keeps (σ := σ)) where
  refl _ := Link.isTravel_keeps.refl _
  trans first second := Link.isTravel_keeps.trans first second

/-- Without a connection, what would be done on it is not. -/
theorem exec_onLink_of_none {t : TclServer σ} (closed : t.link.connection = none)
    (x : Action DebugError (Connection σ) α) : (onLink (Link.use x)).exec t = (.error .notConnected, t) := by
  rw [onLink, Action.exec_onPart, Link.exec_use_of_none closed]

variable [ByteStream σ]

section

variable {t : TclServer σ} (closed : t.link.connection = none)

include closed

theorem exec_send_of_none (command : String) : (send command).exec t = (.error .notConnected, t) :=
  (Action.exec_bind_ok (Action.exec_log _ _ _ t) _).trans (exec_onLink_of_none closed _)

theorem exec_capture_of_none (command : String) : (capture command).exec t = (.error .notConnected, t) :=
  Action.exec_bind_error (exec_send_of_none closed _) _

end

theorem moves_send (command : String) : Moves Keeps (send (σ := σ) command) := by
  have used : Moves Keeps (onLink (Link.use do
      Connection.send (Utf8.bytes command ++ [endMark])
      let reply ← Connection.readUntil [endMark] false
      pure (Text.trimEnd (Utf8.text reply))) : Action DebugError (TclServer σ) String) :=
    (Link.moves_use _).onPart fun _ _ moved => moved
  exact (Moves.log travel_keeps _ _ _).bind travel_keeps fun _ => used

theorem moves_capture (command : String) : Moves Keeps (capture (σ := σ) command) :=
  (moves_send _).bind travel_keeps fun _ => .pure travel_keeps _

theorem moves_scan (i : Instruction) (value : Word) : Moves Keeps (scan (σ := σ) i value) :=
  (Moves.get travel_keeps).bind travel_keeps fun _ =>
    ((moves_send _).map travel_keeps _).bind travel_keeps fun _ => moves_capture _

theorem moves_read (address : BusAddress) :
    Moves Keeps (Bus.read address : Action DebugError (TclServer σ) Word) :=
  moves_wordUnlessFailed travel_keeps (moves_capture _) _

theorem moves_readIdcode : Moves Keeps (Bus.readIdcode : Action DebugError (TclServer σ) Word) :=
  moves_word travel_keeps (moves_scan _ _)

theorem stays : Transport.Stays (Keeps (σ := σ)) where
  travel := travel_keeps
  write _ _ := moves_acknowledged travel_keeps (moves_capture _) _
  read := moves_read
  writeDtmcs _ := (moves_scan _ _).map travel_keeps _
  readDtmcs := moves_word travel_keeps (moves_scan _ _)
  readIdcode := moves_readIdcode
  resetTap := (moves_send _).map travel_keeps _
  expect _ := moves_readAndCompare travel_keeps (moves_read _)
  expectIdcode := moves_readAndCompareIdcode travel_keeps moves_readIdcode
  idle _ := .pure travel_keeps ()

/-- **The Tcl server is a link** to an adapter. -/
theorem overLink : OverLink (τ := TclServer σ) (·.link) (Utf8.bytes "exit" ++ [endMark]) where
  stays := stays
  connect := by
    intro t t' connected
    obtain ⟨dialled, rfl⟩ := Prod.mk.inj connected
    exact Link.isSome_of_dialUnlessOpen (Prod.ext dialled rfl)
  disconnect _ := rfl

end TclServer

end HartDebug
