import HartDebug.Log
import HartDebug.Text.Blank

/-!
# Choosing messages of the log

A filter is a list of rules, each with the finest level to show for the parts of the program whose path
begins with a name, or for all parts.  Of the rules that apply to a part, the one with the longest name
decides.

* `Naming` — what the program calls itself in the paths of its parts;
* `Filter.ofSpec` — the filter that a specification asks for;
* `Filter.shows` — whether a message is shown.
-/

namespace HartDebug.Log

/-- The names at the front of the paths of all parts: of the debugger, and of its command line. -/
structure Naming where
  debugger : String
  commandLine : String
  deriving DecidableEq, Repr

/-- The path of a part. -/
def Naming.path (n : Naming) (s : Source) : String :=
  "::".intercalate ((if s.isCommandLine then n.commandLine else n.debugger) :: s.path)

/-- One rule: the finest level shown, by rank, for the parts whose path begins with a name. -/
structure Rule where
  beginning : Option String
  finest : Nat
  deriving DecidableEq, Repr

/-- Rules in the order in which they were given. -/
structure Filter where
  rules : List Rule
  deriving DecidableEq, Repr

namespace Filter

/-- Messages from the level `info` up, from everywhere. -/
def standard : Filter := ⟨[⟨none, Level.info.rank⟩]⟩

/-- The rank of the finest level that a word asks for. -/
def rankOf? (word : String) : Option Nat :=
  [("off", 0), ("error", 1), ("warn", 2), ("info", 3), ("debug", 4), ("trace", 5)].lookup
    (word.map Char.toLower)

/-- The rule that one part of a specification gives, if it is one: a level, a name, or both. -/
def ruleOf? (part : String) : Option Rule :=
  match part.splitOn "=" with
  | [word] =>
    match rankOf? word with
    | some rank => some ⟨none, rank⟩
    | none => some ⟨some word, Level.trace.rank⟩
  | [name, word] =>
    if Text.trim word = "" then some ⟨some name, Level.trace.rank⟩
    else (rankOf? (Text.trim word)).map fun rank => ⟨some name, rank⟩
  | _ => none

/-- Add a rule, in place of one with the same name. -/
def add (rules : List Rule) (r : Rule) : List Rule :=
  if rules.any (·.beginning == r.beginning) then
    rules.map fun old => if old.beginning = r.beginning then r else old
  else rules ++ [r]

/-- The standard filter, with the rules of a specification. -/
def ofSpec (spec : String) : Filter :=
  let parts := ((spec.splitOn ",").map Text.trim).filter (· != "")
  ⟨(parts.filterMap ruleOf?).foldl add standard.rules⟩

/-- The length of the name in a rule. -/
def weight (r : Rule) : Nat :=
  match r.beginning with
  | none => 0
  | some name => name.utf8ByteSize

/-- The rule applies to the part with a path. -/
def applies (path : String) (r : Rule) : Bool :=
  match r.beginning with
  | none => true
  | some name => name.toList.isPrefixOf path.toList

/-- Of the rules that apply, the one with the longest name; of several, the last one. -/
def decider? (f : Filter) (path : String) : Option Rule :=
  (f.rules.filter (applies path)).foldl
    (fun best r =>
      match best with
      | none => some r
      | some b => if weight b ≤ weight r then some r else some b)
    none

/-- A message is shown. -/
def shows (f : Filter) (naming : Naming) (m : Message) : Bool :=
  match f.decider? (naming.path m.source) with
  | none => false
  | some r => m.level.rank ≤ r.finest

/-- The messages that are shown. -/
def select (f : Filter) (naming : Naming) (messages : List Message) : List Message :=
  messages.filter (f.shows naming)

end Filter

end HartDebug.Log
