import HartDebug.Error

/-!
# Byte streams

What a wire protocol runs over: octets come in pieces of any size, and octets are taken in pieces of any
size.  Reading a stream ends, because every piece that comes lowers what the stream has in supply.

* `ByteStream` — the class of streams;
* `ScriptedStream` — a stream that plays back a list of pieces and failures, and takes octets up to a
  limit.
-/

namespace HartDebug

/-- A stream of octets in both directions. -/
class ByteStream (σ : Type) where
  /-- Take the next piece from the stream; an empty one means that the stream has ended. -/
  receive : σ → Except StreamFault (List Byte) × σ
  /-- Offer octets to the stream: how many of them, from the first on, it takes. -/
  offer : List Byte → σ → Except StreamFault Nat × σ
  /-- A bound on how many pieces are still to come. -/
  supply : σ → Nat
  supply_lt : ∀ {s s' : σ} {b : Byte} {rest : List Byte},
    receive s = (.ok (b :: rest), s') → supply s' < supply s

/-- What one read of a scripted stream finds. -/
inductive Piece where
  | octets (bytes : List Byte)
  | failure (text : String)
  deriving DecidableEq, Repr

/-- A stream that plays back a script. -/
structure ScriptedStream where
  incoming : List Piece := []
  /-- The most octets taken at a time. -/
  most : Option Nat := none
  /-- How many octets are taken in all. -/
  room : Option Nat := none
  /-- What becomes of octets that are offered when there is no more room. -/
  whenFull : StreamFault := .nothingTaken
  deriving DecidableEq, Repr

namespace ScriptedStream

def receive (s : ScriptedStream) : Except StreamFault (List Byte) × ScriptedStream :=
  match s.incoming with
  | [] => (.ok [], s)
  | .octets bytes :: rest => (.ok bytes, { s with incoming := rest })
  | .failure text :: rest => (.error (.reported text), { s with incoming := rest })

/-- How many of `n` octets are taken. -/
def takes (s : ScriptedStream) (n : Nat) : Nat :=
  (n.min (s.most.getD n)).min (s.room.getD n)

def offer (bytes : List Byte) (s : ScriptedStream) : Except StreamFault Nat × ScriptedStream :=
  let n := s.takes bytes.length
  if s.room = some 0 then (.error s.whenFull, s)
  else (.ok n, { s with room := s.room.map (· - n) })

theorem supply_lt {s s' : ScriptedStream} {b : Byte} {rest : List Byte}
    (h : s.receive = (.ok (b :: rest), s')) : s'.incoming.length < s.incoming.length := by
  unfold receive at h
  split at h
  · cases h
  · next bytes after eq =>
    cases h
    rw [eq]
    exact Nat.lt_succ_self _
  · cases h

instance : ByteStream ScriptedStream where
  receive := receive
  offer := offer
  supply s := s.incoming.length
  supply_lt := supply_lt

end ScriptedStream

end HartDebug
