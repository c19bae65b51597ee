import HartDebug.Proofs.Wire.Framing
import Mathlib.Data.List.Induction

/-!
# Commands of Telnet

The machine that tells text from commands looks at one octet at a time.  What it takes for a command as a
whole has one of three shapes, and what it takes for text is what stands between such commands.

* `Telnet.Command` — a command;
* `Telnet.Spells` — octets that are a text with commands among it;
* `Telnet.Unfinished` — the beginning of a command;
* `Telnet.Spells.textOf` — **the machine finds the text that octets spell**;
* `Telnet.exists_spells` — **all octets spell a text**, up to a command that has begun.
-/

namespace HartDebug.Telnet

/-- What closes a subnegotiation. -/
def closing : List Byte := [interpretAsCommand, subnegotiationEnd]

/-- A command: one that is followed by an option, a subnegotiation up to where it is closed first, or one
that is complete by itself. -/
inductive Command : List Byte → Prop where
  | option {verb : Byte} (negotiates : negotiatesOption verb = true) (option : Byte) :
      Command [interpretAsCommand, verb, option]
  | subnegotiation {payload : List Byte} (whole : ¬ closing <:+: payload) :
      Command (interpretAsCommand :: subnegotiationBegin :: (payload ++ closing))
  | bare {verb : Byte} (no_option : negotiatesOption verb = false) (short : verb ≠ subnegotiationBegin) :
      Command [interpretAsCommand, verb]

/-- Octets that are a text with whole commands anywhere among it. -/
inductive Spells : List Byte → List Byte → Prop where
  | nil : Spells [] []
  | octet {b : Byte} {octets text : List Byte} (plain : b ≠ interpretAsCommand)
      (rest : Spells octets text) : Spells (b :: octets) (b :: text)
  | command {command octets text : List Byte} (whole : Command command) (rest : Spells octets text) :
      Spells (command ++ octets) text

/-- Octets that a command begins with, and that are not all of it. -/
def Unfinished (part : List Byte) : Prop :=
  ∃ more, more ≠ [] ∧ Command (part ++ more)

/-! ## What the machine finds -/

/-- An octet is text only where the machine stands in the text and no command begins. -/
theorem text_of_step {mode mode' : Mode} {b b' : Byte} (h : step mode b = (mode', some b')) :
    mode = .text ∧ b ≠ interpretAsCommand := by
  cases mode with
  | text =>
    rw [step] at h
    split at h
    · cases h
    · next plain => exact ⟨rfl, plain⟩
  | command =>
    rw [step] at h
    split at h
    · cases h
    · split at h <;> cases h
  | option => cases h
  | subnegotiation previous =>
    rw [step] at h
    split at h <;> cases h

/-- A subnegotiation goes on as long as it is not closed. -/
theorem textOf_payload {previous : Byte} {payload : List Byte} (whole : ¬ closing <:+: previous :: payload) :
    textOf (.subnegotiation previous) payload = [] ∧
      modeAfter (.subnegotiation previous) payload = .subnegotiation (payload.getLastD previous) := by
  induction payload generalizing previous with
  | nil => exact ⟨rfl, rfl⟩
  | cons b payload ih =>
    have goes_on : step (.subnegotiation previous) b = (.subnegotiation b, none) := by
      rw [step, if_neg]
      rintro ⟨rfl, rfl⟩
      exact whole (List.prefix_append closing payload).isInfix
    obtain ⟨text, mode⟩ := ih fun inside => whole (inside.trans (List.suffix_cons _ _).isInfix)
    rw [textOf, modeAfter, goes_on, List.getLastD_cons]
    exact ⟨text, mode⟩

/-- Before its first octet a subnegotiation is not about to be closed. -/
theorem not_closing_of_begun {payload : List Byte} (whole : ¬ closing <:+: payload) :
    ¬ closing <:+: 0 :: payload := by
  rw [List.infix_cons_iff, not_or]
  refine ⟨fun front => ?_, whole⟩
  have same : interpretAsCommand = 0 := (List.cons_prefix_cons.1 front).1
  exact absurd same (by decide)

/-- Whatever stands before it, what closes a subnegotiation closes it. -/
theorem textOf_closing (previous : Byte) :
    textOf (.subnegotiation previous) closing = [] ∧
      modeAfter (.subnegotiation previous) closing = .text := by
  have goes_on : step (.subnegotiation previous) interpretAsCommand =
      (.subnegotiation interpretAsCommand, none) := by
    rw [step, if_neg fun ended => absurd ended.2 (by decide)]
  have ended : step (.subnegotiation interpretAsCommand) subnegotiationEnd = (.text, none) := rfl
  simp [textOf, modeAfter, closing, goes_on, ended]

/-- **No octet of a command is text**, and behind it the machine is in the text again. -/
theorem Command.textOf {command : List Byte} (h : Command command) :
    textOf .text command = [] ∧ modeAfter .text command = .text := by
  have begun : step .text interpretAsCommand = (.command, none) := rfl
  cases h with
  | @option verb negotiates option =>
    have second : step .command verb = (.option, none) := by rw [step, if_pos negotiates]
    have third : step .option option = (.text, none) := rfl
    simp [Telnet.textOf, modeAfter, begun, second, third]
  | @subnegotiation payload whole =>
    have second : step .command subnegotiationBegin = (.subnegotiation 0, none) := rfl
    obtain ⟨text, mode⟩ := textOf_payload (not_closing_of_begun whole)
    obtain ⟨text', mode'⟩ := textOf_closing (payload.getLastD 0)
    rw [Telnet.textOf, modeAfter, begun, Telnet.textOf, modeAfter, second, textOf_append, modeAfter_append,
      text, mode, text', mode']
    exact ⟨rfl, rfl⟩
  | @bare verb no_option short =>
    have second : step .command verb = (.text, none) := by
      rw [step, if_neg (by simp [no_option]), if_neg short]
    simp [Telnet.textOf, modeAfter, begun, second]

/-- **The machine finds the text that octets spell**, and is in the text behind them. -/
theorem Spells.textOf {octets text : List Byte} (h : Spells octets text) :
    textOf .text octets = text ∧ modeAfter .text octets = .text := by
  induction h with
  | nil => exact ⟨rfl, rfl⟩
  | octet plain rest ih =>
    rw [Telnet.textOf, modeAfter, step_of_plain plain, ih.1]
    exact ⟨rfl, ih.2⟩
  | command whole rest ih =>
    obtain ⟨nothing, mode⟩ := whole.textOf
    rw [textOf_append, modeAfter_append, nothing, mode]
    exact ih

/-- The beginning of a command holds no text. -/
theorem Unfinished.textOf {part : List Byte} (h : Unfinished part) : textOf .text part = [] := by
  obtain ⟨more, -, whole⟩ := h
  have nothing := whole.textOf.1
  rw [textOf_append] at nothing
  exact (List.append_eq_nil_iff.1 nothing).1

/-- Octets that begin no command spell themselves. -/
theorem Spells.of_plain {text : List Byte} (plain : interpretAsCommand ∉ text) : Spells text text := by
  induction text with
  | nil => exact .nil
  | cons b text ih =>
    rw [List.mem_cons, not_or] at plain
    exact .octet (Ne.symm plain.1) (ih plain.2)

/-- A command alone spells nothing. -/
theorem Command.spells {command : List Byte} (h : Command command) : Spells command [] := by
  rw [← List.append_nil command]
  exact .command h .nil

theorem Spells.append {xs ys text others : List Byte} (first : Spells xs text) (second : Spells ys others) :
    Spells (xs ++ ys) (text ++ others) := by
  induction first with
  | nil => exact second
  | octet plain rest ih => exact .octet plain ih
  | command whole rest ih =>
    rw [List.append_assoc]
    exact .command whole ih

/-! ## What octets spell -/

/-- Where the machine stands behind the beginning of a command. -/
inductive Begun : Mode → List Byte → Prop where
  | text : Begun .text []
  | command : Begun .command [interpretAsCommand]
  | option {verb : Byte} (negotiates : negotiatesOption verb = true) : Begun .option [interpretAsCommand, verb]
  | subnegotiation {payload : List Byte} (whole : ¬ closing <:+: payload) :
      Begun (.subnegotiation (payload.getLastD 0)) (interpretAsCommand :: subnegotiationBegin :: payload)

theorem Begun.unfinished {mode : Mode} {part : List Byte} (h : Begun mode part) : Unfinished part := by
  cases h with
  | text => exact ⟨[interpretAsCommand, 0], by simp, .bare rfl (by decide)⟩
  | command => exact ⟨[0], by simp, .bare rfl (by decide)⟩
  | option negotiates => exact ⟨[0], by simp, .option negotiates 0⟩
  | subnegotiation whole => exact ⟨closing, by simp [closing], .subnegotiation whole⟩

/-- One more octet is text, ends the command that has begun, or goes on with it. -/
theorem Begun.step {mode : Mode} {part : List Byte} (h : Begun mode part) (b : Byte) :
    (Begun (step mode b).1 (part ++ [b]) ∧ (step mode b).2 = none) ∨
      ((step mode b).1 = .text ∧ Spells (part ++ [b]) (step mode b).2.toList) := by
  cases h with
  | text =>
    by_cases command : b = interpretAsCommand
    · subst command
      exact .inl ⟨.command, rfl⟩
    · rw [step_of_plain command]
      exact .inr ⟨rfl, .octet command .nil⟩
  | command =>
    by_cases negotiates : negotiatesOption b = true
    · rw [Telnet.step, if_pos negotiates]
      exact .inl ⟨.option negotiates, rfl⟩
    · by_cases long : b = subnegotiationBegin
      · subst long
        have whole : ¬ closing <:+: [] := by simp [closing]
        exact .inl ⟨.subnegotiation whole, rfl⟩
      · rw [Telnet.step, if_neg negotiates, if_neg long]
        exact .inr ⟨rfl, (Command.bare (by simpa using negotiates) long).spells⟩
  | option negotiates => exact .inr ⟨rfl, (Command.option negotiates b).spells⟩
  | @subnegotiation payload whole =>
    rw [Telnet.step]
    split
    · next ended =>
      obtain ⟨last, rfl⟩ := ended
      obtain ⟨front, rfl⟩ : ∃ front, payload = front ++ [interpretAsCommand] := by
        rcases List.eq_nil_or_concat payload with rfl | ⟨front, b, split⟩
        · exact absurd last (by decide)
        · rw [List.concat_eq_append] at split
          rw [split, List.getLastD_concat] at last
          exact ⟨front, by rw [split, last]⟩
      have whole' : ¬ closing <:+: front := fun inside => whole (inside.trans (List.prefix_append _ _).isInfix)
      refine .inr ⟨rfl, ?_⟩
      simpa [closing] using (Command.subnegotiation whole').spells
    · next open_ =>
      have whole' : ¬ closing <:+: payload ++ [b] := by
        rw [List.infix_concat_iff, not_or]
        refine ⟨fun ended => open_ ?_, whole⟩
        obtain ⟨front, split⟩ := ended
        have split' : payload ++ [b] = front ++ [interpretAsCommand] ++ [subnegotiationEnd] := by
          rw [← split, List.append_assoc]
          rfl
        obtain ⟨rfl, last⟩ := List.append_inj' split' rfl
        exact ⟨by simp, List.singleton_inj.1 last⟩
      refine .inl ⟨?_, rfl⟩
      simpa using Begun.subnegotiation whole'

/-- **All octets spell the text that the machine finds**, up to a command that has begun.  The induction is
on the octets from the last on, as the machine stands where those before it have left it. -/
theorem exists_spells (octets : List Byte) :
    ∃ front part, octets = front ++ part ∧ Spells front (textOf .text octets) ∧
      Begun (modeAfter .text octets) part := by
  induction octets using List.reverseRecOn with
  | nil => exact ⟨[], [], rfl, .nil, .text⟩
  | append_singleton octets b ih =>
    obtain ⟨front, part, split, spelled, begun⟩ := ih
    have text : textOf .text (octets ++ [b]) =
        textOf .text octets ++ (step (modeAfter .text octets) b).2.toList := by
      rw [textOf_append, textOf, textOf, List.append_nil]
    have mode : modeAfter .text (octets ++ [b]) = (step (modeAfter .text octets) b).1 := by
      rw [modeAfter_append, modeAfter, modeAfter]
    have whole : octets ++ [b] = front ++ (part ++ [b]) := by rw [split, List.append_assoc]
    rw [text, mode]
    rcases begun.step b with ⟨begun, nothing⟩ | ⟨ended, rest⟩
    · refine ⟨front, part ++ [b], whole, ?_, begun⟩
      rwa [nothing, Option.toList_none, List.append_nil]
    · refine ⟨front ++ (part ++ [b]), [], by rw [whole, List.append_nil], spelled.append rest, ?_⟩
      rw [ended]
      exact .text

end HartDebug.Telnet
