import HartDebug.Text.Quoted
import HartDebug.Text.Utf8
import HartDebug.Transport
import HartDebug.Wire.Stream
import HartDebug.Wire.Telnet

/-!
# Connections

A stream with the octets that have come from it and were not read yet, and a record of those that it has
taken.

* `Connection.send` — have the stream take all of some octets;
* `Connection.readUntil` — read up to a marker, with or without Telnet commands among the text;
* `Frame` — a reading in progress, which takes one octet at a time.
-/

namespace HartDebug

/-- A stream in use. -/
structure Connection (σ : Type) where
  stream : σ
  /-- What has come and was not read yet. -/
  buffer : List Byte := []
  /-- What the stream has taken. -/
  sent : List Byte := []
  deriving Repr

/-- A reading in progress: the text so far, last octet first. -/
structure Frame where
  mode : Telnet.Mode := .text
  text : List Byte := []
  deriving DecidableEq, Repr

namespace Frame

/-- How a reading stands after an octet. -/
inductive Progress where
  | unfinished (frame : Frame)
  /-- The marker has come; this is what stood before it. -/
  | complete (text : List Byte)
  deriving DecidableEq, Repr

/-- Take an octet of the text. -/
def take (marker : List Byte) (f : Frame) (b : Byte) : Progress :=
  let text := b :: f.text
  if marker.reverse.isPrefixOf text then .complete (text.drop marker.length).reverse
  else .unfinished { f with text := text }

/-- Take an octet that may belong to a Telnet command, if `telnet` says that there are such. -/
def step (marker : List Byte) (telnet : Bool) (f : Frame) (b : Byte) : Progress :=
  if telnet then
    match Telnet.step f.mode b with
    | (mode, none) => .unfinished { f with mode := mode }
    | (mode, some b) => ({ f with mode := mode } : Frame).take marker b
  else f.take marker b

end Frame

namespace Connection

variable {σ : Type} [ByteStream σ]

/-- Have the stream take all octets. -/
def sendAll : List Byte → Action DebugError (Connection σ) Unit
  | [] => pure ()
  | b :: rest => do
    let c ← get
    match ByteStream.offer (b :: rest) c.stream with
    | (.error fault, stream) =>
      set { c with stream := stream }
      throw (.transport .send fault)
    | (.ok 0, stream) =>
      set { c with stream := stream }
      throw (.transport .send .nothingTaken)
    | (.ok (n + 1), stream) =>
      set { c with stream := stream, sent := c.sent ++ (b :: rest).take (n + 1) }
      sendAll (rest.drop n)
termination_by bytes => bytes.length
decreasing_by
  simp only [List.length_drop, List.length_cons]
  omega

/-- Send octets. -/
def send (bytes : List Byte) : Action DebugError (Connection σ) Unit := do
  Action.log .trace .connection s!"-> {Text.quoted (Utf8.text bytes)}"
  sendAll bytes

/-- The next octet. -/
def nextByte : Action DebugError (Connection σ) Byte := do
  let c ← get
  match c.buffer with
  | b :: rest =>
    set { c with buffer := rest }
    pure b
  | [] =>
    match ByteStream.receive c.stream with
    | (.error fault, stream) =>
      set { c with stream := stream }
      throw (.transport .receive fault)
    | (.ok [], stream) =>
      set { c with stream := stream }
      throw (.transport .receive .ended)
    | (.ok (b :: rest), stream) =>
      set { c with stream := stream, buffer := rest }
      pure b

/-- An octet read is one fewer in the buffer, or came with a piece of the stream. -/
theorem nextByte_lt (c : Connection σ) {b : Byte} (h : ((nextByte (σ := σ)).exec c).1 = .ok b) :
    Prod.Lex (· < ·) (· < ·)
      (ByteStream.supply ((nextByte (σ := σ)).exec c).2.stream,
        ((nextByte (σ := σ)).exec c).2.buffer.length)
      (ByteStream.supply c.stream, c.buffer.length) := by
  revert h
  unfold nextByte
  simp only [Action.exec_bind, Action.exec_get]
  cases hb : c.buffer with
  | cons first rest =>
    intro _
    exact Prod.Lex.right _ (by simp [Action.exec_bind])
  | nil =>
    dsimp only
    split
    · intro h
      cases h
    · intro h
      cases h
    · next received =>
      intro _
      exact Prod.Lex.left _ _ (ByteStream.supply_lt received)

/-- Read on until the marker has come. -/
def readFrame (marker : List Byte) (telnet : Bool) (frame : Frame) (c : Connection σ) :
    Ran DebugError (Connection σ) (List Byte) :=
  let next := nextByte c
  match _h : next.outcome with
  | .error e => ⟨.error e, next.state, next.said⟩
  | .ok b =>
    match frame.step marker telnet b with
    | .complete text => ⟨.ok text, next.state, next.said⟩
    | .unfinished frame =>
      let rest := readFrame marker telnet frame next.state
      ⟨rest.outcome, rest.state, next.said ++ rest.said⟩
termination_by (ByteStream.supply c.stream, c.buffer.length)
decreasing_by exact nextByte_lt c _h

/-- Read up to a marker, which is read and left out.  With `telnet`, Telnet commands are left out too. -/
def readUntil (marker : List Byte) (telnet : Bool) : Action DebugError (Connection σ) (List Byte) := do
  let text ← readFrame marker telnet {}
  Action.log .trace .connection s!"<- {Text.quoted (Utf8.text text)}"
  pure text

end Connection

end HartDebug
