import HartDebug.Session.Basic
import HartDebug.Wire.Console

/-!
# Asking the adapter about the target

On its console the adapter lists the ports of the scan chain and describes the hart.  A session takes
over the first port's name for its raw scans, and the hart's register width.
-/

namespace HartDebug.Session

variable {σ : Type} [ByteStream σ]

/-- Find the port and the register width of the target, and take both over. -/
def interrogate : Action DebugError (Session (Console σ)) Unit := do
  let listing ← onTransport (Console.executeLines "scan_chain")
  let rows := ScanChain.rows listing
  if 1 < rows.length then
    Action.log .warn .interrogation
      s!"Found {rows.length} taps on the scan chain, selecting tap #0\n{listing}"
  match ScanChain.tapOf listing with
  | .error violation => failLogged .interrogation (.protocol violation)
  | .ok tap =>
    Action.log .info .interrogation s!"DM tap name: {tap.name}"
    onTransport (Console.setTapName tap.name)
    modify fun s => { s with tap := some tap }
    let description ← onTransport (Console.executeLines "riscv info")
    match ScanChain.xlenOf description with
    | .error violation => failLogged .interrogation (.protocol violation)
    | .ok xlen =>
      Action.log .info .interrogation s!"XLEN: {xlen}"
      adoptXlen xlen

end HartDebug.Session
