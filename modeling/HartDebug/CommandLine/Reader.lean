import HartDebug.CommandLine.Arguments

/-!
# Reading a command line

A command line is read word by word, first up to the verb and then after it.  Some arguments may stand in
both places.  The values of an argument are collected while its words come, and looked at when something
else begins; so a fault in a later word can come before a fault in the values that are still collected.

* `Place` — before the verb, or after it;
* `Reading` — how far the reading of one place has come;
* `Reading.word` — one more word;
* `Invocation.ofArguments` — the whole command line.
-/

namespace HartDebug

/-- Where words of a command line stand. -/
inductive ArgumentPlace where
  | beforeVerb
  | after (verb : Verb)
  deriving DecidableEq, Repr

namespace ArgumentPlace

/-- The named arguments that may stand in a place. -/
def named : ArgumentPlace → List Argument
  | .beforeVerb => Argument.anywhere
  | .after verb => verb.named ++ Argument.anywhere

/-- The arguments that are given by their position in a place. -/
def positional : ArgumentPlace → List Argument
  | .beforeVerb => []
  | .after verb => verb.positional

/-- The version can be asked for before the verb only. -/
def hasVersion : ArgumentPlace → Bool
  | .beforeVerb => true
  | .after _ => false

end ArgumentPlace

/-- How far the reading of one place has come. -/
structure Reading where
  given : Given := {}
  /-- The arguments whose values have been taken. -/
  settled : List Argument := []
  /-- The argument whose values are being collected. -/
  collecting : Option (Argument × List String) := none
  /-- The next word is a value, unless it looks like an argument of its own. -/
  wantsValue : Bool := false
  /-- How many positions have been filled. -/
  filled : Nat := 0
  /-- Every further word is meant by its position. -/
  literal : Bool := false
  deriving DecidableEq, Repr

namespace Reading

/-- Take the values of an argument. -/
def take (r : Reading) (a : Argument) (values : List String) : Except UsageError Reading := do
  if a ∈ r.settled ∧ a.isRepeatable = false then
    throw .argumentConflict
  let given ← values.foldlM (fun g text => g.accept text a) r.given
  pure { r with given := given, settled := r.settled ++ [a] }

/-- Take the values that were collected. -/
def settle (r : Reading) : Except UsageError Reading :=
  match r.collecting with
  | none => .ok r
  | some (_, []) => .error .invalidValue
  | some (a, values) => ({ r with collecting := none } : Reading).take a values

/-- An argument with a value attached to it. -/
def attached (r : Reading) (a : Argument) (value : String) : Except UsageError Reading := do
  let r ← r.settle
  let r ← r.take a [value]
  pure { r with wantsValue := false }

/-- An argument by its name alone. -/
def named (r : Reading) (a : Argument) : Except UsageError Reading := do
  if a.isFlag then
    r.attached a ""
  else
    let r ← r.settle
    pure { r with collecting := some (a, []), wantsValue := true }

/-- A request for help or the like, which takes no value. -/
def asked (r : Reading) (what : UsageError) (value : Option String) : Except UsageError Reading :=
  match value with
  | some _ => .error .tooManyValues
  | none => do
    discard r.settle
    throw what

/-- A word that begins with two dashes, by the name and the attached value after them. -/
def long (r : Reading) (p : ArgumentPlace) (name : String) (value : Option String) :
    Except UsageError Reading :=
  match p.named.find? (·.longName == name) with
  | some a =>
    match value with
    | none => r.named a
    | some value => if a.isFlag then .error .tooManyValues else r.attached a value
  | none =>
    if name = "help" then r.asked .displayHelp value
    else if name = "version" ∧ p.hasVersion = true then r.asked .displayVersion value
    else .error .unknownArgument

/-- What is attached to a letter: an equals sign in front of it does not count. -/
def attachedToLetter : List Char → Option String
  | [] => none
  | '=' :: rest => some (String.ofList rest)
  | rest => some (String.ofList rest)

/-- A word that begins with one dash, by the letter after it and what is attached to that. -/
def short (r : Reading) (p : ArgumentPlace) (letter : Char) (rest : List Char) :
    Except UsageError Reading :=
  match p.named.find? (·.letter? == some letter) with
  | some a =>
    match attachedToLetter rest with
    | none => r.named a
    | some value => r.attached a value
  | none =>
    if letter = 'h' then r.asked .displayHelp none
    else if letter = 'V' ∧ p.hasVersion = true then r.asked .displayVersion none
    else .error .unknownArgument

/-- Begin with the values of an argument that is given by its position. -/
def fill (a : Argument) (word : String) (r : Reading) : Reading :=
  { r with
    collecting := some (a, [word])
    filled := if a.isRepeatable then r.filled else r.filled + 1 }

/-- A word that is meant by its position. -/
def position (r : Reading) (p : ArgumentPlace) (word : String) : Except UsageError Reading :=
  match p.positional[r.filled]? with
  | none =>
    match p with
    | .after _ => .error .unknownArgument
    | .beforeVerb =>
      if r.literal ∧ ((Verb.ofName? word).isSome ∨ word = "help") then .error .unknownArgument
      else .error .invalidSubcommand
  | some a =>
    match r.collecting with
    | some (b, values) =>
      if a = b ∧ a.isRepeatable then .ok { r with collecting := some (a, values ++ [word]) }
      else r.settle.map (fill a word)
    | none => .ok (fill a word r)

/-- The name and the attached value of a word that begins with two dashes. -/
def splitLong (body : List Char) : String × Option String :=
  let name := body.takeWhile (· != '=')
  match body.drop name.length with
  | [] => (String.ofList name, none)
  | _ :: value => (String.ofList name, some (String.ofList value))

/-- A word that stands where a value is wanted, or else is meant by its position. -/
def plain (r : Reading) (p : ArgumentPlace) (word : String) : Except UsageError Reading :=
  match r.wantsValue, r.collecting with
  | true, some (a, values) =>
    .ok { r with collecting := some (a, values ++ [word]), wantsValue := false }
  | _, _ => r.position p word

/-- Read one more word. -/
def word (r : Reading) (p : ArgumentPlace) (w : String) : Except UsageError Reading :=
  if r.literal then r.position p w
  else
    match w.toList with
    | ['-', '-'] => .ok { r with literal := true }
    | '-' :: '-' :: body =>
      let (name, value) := splitLong body
      r.long p name value
    | '-' :: letter :: rest => r.short p letter rest
    | _ => r.plain p w

/-- The next word is a verb if it is the name of one. -/
def awaitsVerb (r : Reading) : Bool :=
  !r.literal && !r.wantsValue

/-- Read all words after a verb. -/
def after (verb : Verb) : Reading → List String → Except UsageError Reading
  | r, [] => do
    let r ← r.settle
    if verb.positional.all (· ∈ r.settled) then pure r else throw .missingRequiredArgument
  | r, w :: rest => do
    let r ← r.word (.after verb) w
    after verb r rest

/-- The words after a request for help name the verb that help is wanted on. -/
def helpOn : List String → UsageError
  | [] => .displayHelp
  | [name] => if (Verb.ofName? name).isSome ∨ name = "help" then .displayHelp else .invalidSubcommand
  | _ => .invalidSubcommand

/-- Read a whole command line: the verb, and what was given before and after it. -/
def all : Reading → List String → Except UsageError (Verb × Given × Given)
  | r, [] => do
    let r ← r.settle
    if r.settled = [] then throw .displayHelpOnMissing else throw .missingSubcommand
  | r, w :: rest =>
    match if r.awaitsVerb then Verb.ofName? w else none with
    | some verb => do
      let r' ← after verb {} rest
      let r ← r.settle
      pure (verb, r.given, r'.given)
    | none =>
      if r.awaitsVerb ∧ w = "help" then .error (helpOn rest)
      else do
        let r ← r.word .beforeVerb w
        all r rest

end Reading

/-- A verb with its arguments. -/
inductive Subcommand where
  | status
  | halt
  | resume
  | step
  | reset (halt : Bool)
  | read (register : String)
  | write (register : String) (value : Value)
  | expect (register : String) (value : Value)
  | dump (float json : Bool)
  | exec (discover : Bool) (instructions : List Word)
  | diagnose
  | dmReset
  | dtmReset (hard : Bool)
  | idcode (expected : Option Word)
  | complete (shell : Shell)
  deriving DecidableEq, Repr

/-- The subcommand of a verb, if all it requires has been given. -/
def Subcommand.ofGiven? (g : Given) : Verb → Option Subcommand
  | .status => some .status
  | .halt => some .halt
  | .resume => some .resume
  | .step => some .step
  | .reset => some (.reset g.halt)
  | .read => do pure (.read (← g.register))
  | .write => do pure (.write (← g.register) (← g.value))
  | .expect => do pure (.expect (← g.register) (← g.value))
  | .dump => some (.dump g.float g.json)
  | .exec => some (.exec g.discover g.instructions)
  | .diagnose => some .diagnose
  | .dmReset => some .dmReset
  | .dtmReset => some (.dtmReset g.hard)
  | .idcode => some (.idcode g.expect)
  | .complete => do pure (.complete (← g.shell))

/-- What a command line asks for. -/
structure Invocation where
  transport : TransportKind
  choices : SessionChoices
  subcommand : Subcommand
  deriving DecidableEq, Repr

namespace Invocation

/-- What a command line asks for, or why it is refused.  Of an argument given before the verb and after
it, the latter counts. -/
def ofArguments (arguments : List String) : Except UsageError Invocation := do
  let (verb, before, after) ← Reading.all {} arguments
  match Subcommand.ofGiven? after verb with
  | none => throw .missingRequiredArgument
  | some subcommand =>
    pure
      { transport := (after.transport <|> before.transport).getD .console
        choices := Given.choicesWith before.choices after.choices
        subcommand := subcommand }

end Invocation

end HartDebug
