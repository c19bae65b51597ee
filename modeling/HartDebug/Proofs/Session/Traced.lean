import HartDebug.Proofs.Session.Refinement
import HartDebug.Transport.Traced

/-!
# Sessions under trace

A session over a transport under trace runs as it does over the transport alone, whatever the transport makes
of expectations and pauses; besides, it leaves the list of the calls that it has made.

* `Session.traced` — a session with its transport under trace;
* `agree_traced` — the calls do what they do without a trace;
* `simulates_perform_traced`, `exec_performEach_traced` — **a trace makes no difference**, to one operation
  and to operations one after another.
-/

namespace HartDebug

open Action (Simulates)

variable {τ α : Type}

/-- The transport of a trace is the given one. -/
def Traced.Over (s : Traced τ) (t : τ) : Prop :=
  s.transport = t

theorem Traced.simulates_call (c : TransportCall) (x : Action DebugError τ α) :
    Simulates Traced.Over (Traced.call c x) x := by
  intro s t beneath
  obtain rfl : s.transport = t := beneath
  exact ⟨rfl, rfl⟩

/-- **Each call does what it does without a trace.** -/
theorem agree_traced [Transport τ] : Transport.Agree (Traced.Over (τ := τ)) where
  live beneath := congrArg Bus.isLive beneath
  write _ _ := Traced.simulates_call _ _
  read _ := Traced.simulates_call _ _
  writeDtmcs _ := Traced.simulates_call _ _
  readDtmcs := Traced.simulates_call _ _
  readIdcode := Traced.simulates_call _ _
  resetTap := Traced.simulates_call _ _
  expect _ _ _ := Traced.simulates_call _ _
  expectIdcode _ := Traced.simulates_call _ _
  idle cycles s t beneath _ := Traced.simulates_call (.idle cycles) (Transport.idle cycles) s t beneath

namespace Session

/-- The session with its transport under trace from now on. -/
def traced (s : Session τ) : Session (Traced τ) where
  transport := ⟨s.transport, []⟩
  config := s.config
  tap := s.tap
  xlen := s.xlen
  width := s.width
  progbufCapacity := s.progbufCapacity
  dcsrShadow := s.dcsrShadow
  timer := s.timer

theorem alike_traced (s : Session τ) : Alike Traced.Over s.traced s :=
  ⟨rfl, rfl, rfl, rfl, rfl, rfl, rfl, rfl⟩

variable [Transport τ]

/-- **A trace makes no difference** to any operation. -/
theorem simulates_perform_traced (op : Operation) :
    Simulates (Alike Traced.Over) (op.perform (τ := Traced τ)) (op.perform (τ := τ)) := by
  by_cases keeps : op.KeepsConnection
  · exact Operation.simulates_perform agree_traced keeps
  · cases op with
    | connect => exact Operation.simulates_done (simulates_onTransport (Traced.simulates_call _ _))
    | disconnect => exact Operation.simulates_done (simulates_onTransport (Traced.simulates_call _ _))
    | _ => exact absurd ⟨nofun, nofun⟩ keeps

/-- Operations one after another have the outcomes that they have without a trace, and leave the transport
as they do without one. -/
theorem exec_performEach_traced (ops : List Operation) (s : Session τ) :
    ((Operation.performEach ops).exec s.traced).1 = ((Operation.performEach ops).exec s).1 ∧
      ((Operation.performEach ops).exec s.traced).2.transport.transport =
        ((Operation.performEach ops).exec s).2.transport := by
  obtain ⟨same, alike⟩ := Operation.simulates_performEach_of
    (fun op _ => simulates_perform_traced op) s.traced s (alike_traced s)
  exact ⟨same, alike.transport⟩

end Session

end HartDebug
