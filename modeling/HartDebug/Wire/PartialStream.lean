import HartDebug.Wire.Stream

/-!
# Streams that have only begun

A stream of which only the beginning is known, for a run that is to be repeated when more has come.  A
read past what is known finds that no answer has come yet.  From then on the stream takes nothing, so
what it has taken is exactly what was sent before that read, and can be sent on before the run is
repeated.

* `PartialStream` — the stream;
* `PartialStream.receive_pending` — a read past the beginning leaves the stream waiting;
* `PartialStream.offer_waiting` — a stream that waits takes nothing.
-/

namespace HartDebug

/-- A stream of which only the beginning is known. -/
structure PartialStream where
  begun : ScriptedStream
  /-- A read has gone past what is known. -/
  waiting : Bool := false
  deriving DecidableEq, Repr

namespace PartialStream

def receive (s : PartialStream) : Except StreamFault (List Byte) × PartialStream :=
  if s.waiting || s.begun.incoming.isEmpty then (.error .pending, { s with waiting := true })
  else
    let (piece, begun) := s.begun.receive
    (piece, { s with begun := begun })

def offer (bytes : List Byte) (s : PartialStream) : Except StreamFault Nat × PartialStream :=
  if s.waiting then (.error .pending, s)
  else
    let (taken, begun) := s.begun.offer bytes
    (taken, { s with begun := begun })

theorem receive_pending (s : PartialStream) (h : s.begun.incoming = []) :
    s.receive = (.error .pending, { s with waiting := true }) := by
  simp [receive, h]

theorem offer_waiting (bytes : List Byte) (s : PartialStream) (h : s.waiting = true) :
    s.offer bytes = (.error .pending, s) := by
  simp [offer, h]

theorem supply_lt {s s' : PartialStream} {b : Byte} {rest : List Byte}
    (h : s.receive = (.ok (b :: rest), s')) : s'.begun.incoming.length < s.begun.incoming.length := by
  unfold receive at h
  split at h
  · cases h
  · cases received : s.begun.receive with
    | mk piece begun =>
      rw [received] at h
      cases h
      exact ScriptedStream.supply_lt received

instance : ByteStream PartialStream where
  receive := receive
  offer := offer
  supply s := s.begun.incoming.length
  supply_lt := supply_lt

end PartialStream

end HartDebug
