import HartDebug.Error
import HartDebug.Text.Blank
import HartDebug.Text.Numeral
import HartDebug.Transport

/-!
# Replies of an adapter

What an adapter answers, in words: a number in hexadecimal, or that something failed.

* `Reply.failed` — the reply says that something failed;
* `Reply.word` — the number that a reply consists of.
-/

namespace HartDebug.Reply

/-- A pattern occurs somewhere in a text. -/
def occursIn (pattern : List Char) : List Char → Bool
  | [] => pattern.isEmpty
  | c :: rest => pattern.isPrefixOf (c :: rest) || occursIn pattern rest

/-- The reply says that something failed. -/
def failed (reply : String) : Bool :=
  occursIn "Failed".toList reply.toList

/-- A text without the mark of a hexadecimal number, if it begins with one. -/
def unmarked : List Char → List Char
  | '0' :: 'x' :: rest => rest
  | '0' :: 'X' :: rest => rest
  | text => text

/-- The number that a reply consists of, in hexadecimal with or without its mark. -/
def word (reply : String) : Except DebugError Word :=
  let text := Text.trim reply
  match Numeral.readNatural 16 (1 <<< 32) (unmarked text.toList) with
  | .ok n => .ok (BitVec.ofNat 32 n)
  | .error _ => .error (.protocol (.notHexadecimal text))

/-- The reply, unless it says that something failed. -/
def unlessFailed {σ : Type} (source : Source) (reply : String) : Action DebugError σ String :=
  if failed reply then failLogged source (.adapterFailure reply) else pure reply

end HartDebug.Reply
