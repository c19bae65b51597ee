/-!
# Lengths of time

A length of time in whole nanoseconds, and its text: the largest unit in which it is at least one,
with as many decimals as it needs and no more.
-/

namespace HartDebug

/-- A length of time. -/
structure Duration where
  nanoseconds : Nat
  deriving DecidableEq, Repr

namespace Duration

def ofSeconds (n : Nat) : Duration := ⟨n * 1000000000⟩

def ofMillis (n : Nat) : Duration := ⟨n * 1000000⟩

/-- A unit of time: how many nanoseconds it has, into how many decimals these divide it, and its name. -/
structure TimeUnit where
  nanoseconds : Nat
  places : Nat
  name : String
  deriving DecidableEq, Repr

def TimeUnit.second : TimeUnit := ⟨1000000000, 9, "s"⟩
def TimeUnit.millisecond : TimeUnit := ⟨1000000, 6, "ms"⟩
def TimeUnit.microsecond : TimeUnit := ⟨1000, 3, "µs"⟩
def TimeUnit.nanosecond : TimeUnit := ⟨1, 0, "ns"⟩

/-- The decimals of a part of a unit that is divided into `places` of them, without the zeros at the
end. -/
def decimals (places part : Nat) : List Char :=
  let shown := Nat.toDigits 10 part
  let padded := List.replicate (places - shown.length) '0' ++ shown
  (padded.reverse.dropWhile (· == '0')).reverse

/-- A number of nanoseconds in a unit. -/
def inUnit (u : TimeUnit) (n : Nat) : String :=
  let whole := toString (n / u.nanoseconds)
  match decimals u.places (n % u.nanoseconds) with
  | [] => whole ++ u.name
  | ds => whole ++ "." ++ String.ofList ds ++ u.name

/-- The text of a length of time. -/
def text (d : Duration) : String :=
  if TimeUnit.second.nanoseconds ≤ d.nanoseconds then inUnit .second d.nanoseconds
  else if TimeUnit.millisecond.nanoseconds ≤ d.nanoseconds then inUnit .millisecond d.nanoseconds
  else if TimeUnit.microsecond.nanoseconds ≤ d.nanoseconds then inUnit .microsecond d.nanoseconds
  else inUnit .nanosecond d.nanoseconds

end Duration

end HartDebug
