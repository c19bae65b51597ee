import HartDebug.Proofs.Wire.Interruption
import HartDebug.Proofs.Wire.Transparency
import Mathlib.Data.List.Forall2

/-!
# Commands and their replies

A service answers each command with a reply, and nothing in it tells which command it belongs to.  As long as
no reply is read in part only, every command is answered by its own.  When the stream has failed in the middle
of one, what was left of it is still to come, and the next command takes that for its own reply, unless it is
harmless.

* `Service.WholeReply` — a reply as each service frames it;
* `Service.Read`, `Service.Reads` — how a command, and one command after another, can be answered by octets;
* `Service.Exchanges` — the same in terms of whole replies, with what earlier commands have left unread;
* `Service.Reads.exchanges` — **octets that are whole replies are read in such exchanges**;
* `Service.Exchanges.until_cut` — **until the stream fails each command is answered by its own reply**;
* `Service.Reads.in_order` — **the replies of the Tcl server are taken in their order**, whoever takes them.
-/

namespace HartDebug

/-! ## Replies -/

namespace Service

/-- What ends every reply. -/
def marker : Service → List Byte
  | .console => Console.prompt
  | .tcl => [TclServer.endMark]

/-- The next reply among octets, and what comes after it: what stands before the marker; on the console, a
line before that is skipped. -/
def body? : Service → List Byte → Option (List Byte × List Byte)
  | .console => parseThen (Frame.read? [0x0a] true) fun _ => Frame.read? Console.prompt true
  | .tcl => Frame.read? [TclServer.endMark] false

/-- The text that is made of a reply. -/
def wording : Service → List Byte → String
  | .console, body => String.ofList (((Utf8.decode body).filter (· != '\r')).filter (· != '\n'))
  | .tcl, body => Tcl.unwrapBraces (Text.trimEnd (Utf8.text body))

/-- The value in a reply, or what is wrong with it. -/
def value (service : Service) (body : List Byte) : Except DebugError Word :=
  readingOf (service.wording body)

/-- Octets that are a reply, and what stands in it.  A reply of the console is a line, which repeats the
command, and what stands before the prompt; Telnet commands may stand anywhere before its last octet. -/
inductive Frames : Service → List Byte → List Byte → Prop where
  | tcl {body : List Byte} (whole : TclServer.endMark ∉ body) :
      Frames .tcl (body ++ [TclServer.endMark]) body
  | console {front echo body : List Byte}
      (text : Telnet.textOf .text front = echo ++ [0x0a] ++ (body ++ [0x3e]))
      (mode : Telnet.modeAfter .text front = .text) (line : 0x0a ∉ echo)
      (whole : ¬ Console.prompt <:+: body ++ [0x3e]) : Frames .console (front ++ [0x20]) body

/-- A reply. -/
structure WholeReply (service : Service) where
  octets : List Byte
  body : List Byte
  framed : service.Frames octets body

/-- The value in the reply. -/
def WholeReply.value {service : Service} (reply : service.WholeReply) : Except DebugError Word :=
  service.value reply.body

/-- The octets of one reply after another. -/
def octetsOf {service : Service} (replies : List service.WholeReply) : List Byte :=
  replies.flatMap (·.octets)

/-! ## Octets that are read -/

variable {service : Service}

theorem body?_takesFront (service : Service) : TakesFront service.body? := by
  cases service with
  | console => exact (Frame.takesFront _ _).parseThen fun _ => Frame.takesFront _ _
  | tcl => exact Frame.takesFront _ _

/-- How octets answer a command: some are taken, and the others are left. -/
inductive Read (service : Service) : List Byte → Except DebugError Word → List Byte → Prop where
  | answered {octets body rest : List Byte} (taken : service.body? octets = some (body, rest)) :
      Read service octets (service.value body) rest
  /-- The stream has failed, with a part taken that is no whole reply. -/
  | cut {octets part rest : List Byte} (fault : StreamFault) (split : octets = part ++ rest)
      (unfinished : service.body? part = none) :
      Read service octets (.error (.transport .receive fault)) rest

/-- How octets answer one command after another. -/
inductive Reads (service : Service) : List Byte → List (Except DebugError Word) → Prop where
  | none {octets : List Byte} : Reads service octets []
  | next {octets rest : List Byte} {outcome : Except DebugError Word}
      {outcomes : List (Except DebugError Word)} (read : service.Read octets outcome rest)
      (later : Reads service rest outcomes) : Reads service octets (outcome :: outcomes)

/-- Octets that stand in no command of Telnet, as far as they go. -/
def Complete : Service → List Byte → Prop
  | .console, octets => Telnet.modeAfter .text octets = .text
  | .tcl, _ => True

/-- What octets that are left unread before a command have to be for it to be answered by its own reply. -/
def Harmless : Service → List Byte → Prop
  | .console, unread => Settled unread
  | .tcl, unread => unread = []

/-- How one command after another is answered, each with a reply of its own, where `unread` is left from the
commands before. -/
inductive Exchanges (service : Service) :
    List Byte → List service.WholeReply → List (Except DebugError Word) → Prop where
  | none {unread : List Byte} : Exchanges service unread [] []
  /-- The command is answered by its own reply. -/
  | own {unread : List Byte} {reply : service.WholeReply} {replies : List service.WholeReply}
      {outcomes : List (Except DebugError Word)} (harmless : service.Harmless unread)
      (later : Exchanges service [] replies outcomes) :
      Exchanges service unread (reply :: replies) (reply.value :: outcomes)
  /-- The command is answered out of what was left unread, and all of its own reply is left. -/
  | stale {unread body rest : List Byte} {reply : service.WholeReply}
      {replies : List service.WholeReply} {outcomes : List (Except DebugError Word)}
      (taken : service.body? unread = some (body, rest))
      (later : Exchanges service (rest ++ reply.octets) replies outcomes) :
      Exchanges service unread (reply :: replies) (service.value body :: outcomes)
  /-- The stream has failed, and some of the reply is left. -/
  | cut {unread part rest : List Byte} {reply : service.WholeReply}
      {replies : List service.WholeReply} {outcomes : List (Except DebugError Word)}
      (fault : StreamFault) (split : unread ++ reply.octets = part ++ rest) (left : rest ≠ [])
      (complete : service.Complete part) (later : Exchanges service rest replies outcomes) :
      Exchanges service unread (reply :: replies) (.error (.transport .receive fault) :: outcomes)
  /-- The stream has failed within a command of Telnet, whose octets are no longer known as such: all that
  is still to come is read as it stands. -/
  | torn {unread part rest : List Byte} {reply : service.WholeReply}
      {replies : List service.WholeReply} {outcomes : List (Except DebugError Word)}
      (fault : StreamFault) (split : unread ++ reply.octets = part ++ rest) (left : rest ≠ [])
      (within : ¬ service.Complete part) (later : service.Reads (rest ++ octetsOf replies) outcomes) :
      Exchanges service unread (reply :: replies) (.error (.transport .receive fault) :: outcomes)

/-! ### What is left unread -/

/-- The text among octets. -/
def textOf : Service → List Byte → List Byte
  | .console, octets => Telnet.textOf .text octets
  | .tcl, octets => octets

/-- Octets that whole commands and replies can leave: the end of something that ends as a reply does. -/
structure Trails (service : Service) (unread : List Byte) : Prop where
  complete : service.Complete unread
  ends : ∃ before, service.textOf unread <:+ before ++ service.marker

theorem trails_nil (service : Service) : service.Trails [] := by
  cases service with
  | console => exact ⟨rfl, [], List.nil_suffix⟩
  | tcl => exact ⟨trivial, [], List.nil_suffix⟩

theorem Complete.append {xs : List Byte} (h : service.Complete xs) (ys : List Byte) :
    (service.Complete (xs ++ ys) ↔ service.Complete ys) ∧
      service.textOf (xs ++ ys) = service.textOf xs ++ service.textOf ys := by
  cases service with
  | console =>
    have mode : Telnet.modeAfter .text xs = .text := h
    simp only [Complete, textOf, Telnet.modeAfter_append, Telnet.textOf_append, mode, and_self]
  | tcl => exact ⟨Iff.rfl, rfl⟩

/-- A reply of the Tcl server is what stands in it and the end mark. -/
theorem Frames.of_tcl {octets body : List Byte} (h : Service.tcl.Frames octets body) :
    octets = body ++ [TclServer.endMark] ∧ TclServer.endMark ∉ body := by
  cases h with
  | tcl whole => exact ⟨rfl, whole⟩

/-- A reply ends with the marker, and no command of Telnet goes on beyond it. -/
theorem Frames.ends {octets body : List Byte} (h : service.Frames octets body) :
    service.Complete octets ∧ ∃ before, service.textOf octets = before ++ service.marker := by
  cases h with
  | tcl whole => exact ⟨trivial, body, rfl⟩
  | @console front echo body text mode line whole =>
    have blank : Telnet.step .text 0x20 = (.text, some 0x20) := rfl
    refine ⟨?_, echo ++ [0x0a] ++ body, ?_⟩
    · rw [Complete, Telnet.modeAfter_append, mode]
      rfl
    · rw [textOf, Telnet.textOf_append, mode, text, marker, Console.bytes_prompt]
      simp [Telnet.textOf, blank]

/-- What is left of octets trails if they do, where no command of Telnet was cut. -/
theorem Trails.rest {part rest : List Byte} (h : service.Trails (part ++ rest))
    (complete : service.Complete part) : service.Trails rest := by
  obtain ⟨before, ends⟩ := h.ends
  rw [(complete.append rest).2] at ends
  exact ⟨(complete.append rest).1.1 h.complete, before, (List.suffix_append _ _).trans ends⟩

/-- A reply after octets that trail trails. -/
theorem Trails.append {unread : List Byte} (h : service.Trails unread) (reply : service.WholeReply) :
    service.Trails (unread ++ reply.octets) := by
  obtain ⟨complete, before, ends⟩ := reply.framed.ends
  refine ⟨(h.complete.append _).1.2 complete, service.textOf unread ++ before, [], ?_⟩
  rw [List.nil_append, (h.complete.append _).2, ends, List.append_assoc]

/-- What a reply was read from stands in no command of Telnet. -/
theorem complete_of_body? {octets body rest : List Byte} (h : service.body? octets = some (body, rest)) :
    ∃ front, octets = front ++ rest ∧ service.Complete front := by
  obtain ⟨front, split, alone⟩ := (body?_takesFront service).front h
  refine ⟨front, split, ?_⟩
  cases service with
  | console =>
    have read := alone []
    rw [List.append_nil, body?, parseThen, Option.bind_eq_some_iff] at read
    obtain ⟨⟨echo, between⟩, read_echo, read_body⟩ := read
    have first := Frame.read_telnet [0x0a] {} front
    have second := Frame.read_telnet Console.prompt {} between
    rw [Frame.read?_eq_some.1 read_echo] at first
    rw [Frame.read?_eq_some.1 read_body] at second
    exact first.2.trans second.2
  | tcl => trivial

/-- **What is left unread is harmless, or it holds a reply.** -/
theorem Trails.harmless_or_taken {unread : List Byte} (h : service.Trails unread) :
    service.Harmless unread ∨ ∃ body rest, service.body? unread = some (body, rest) := by
  obtain ⟨complete, before, ends⟩ := h
  cases service with
  | console =>
    by_cases line : 0x0a ∈ Telnet.textOf .text unread
    · right
      have ends' : Console.prompt <:+ Telnet.textOf .text unread :=
        Console.prompt_suffix (List.suffix_append before _) ends line
      obtain ⟨echo, between, body, rest, read, read'⟩ := Console.read_line_and_answer ends' line
      refine ⟨body, rest, ?_⟩
      rw [body?, parseThen, Frame.read?_eq_some.2 read]
      exact Frame.read?_eq_some.2 read'
    · exact .inl ⟨line, complete⟩
  | tcl =>
    by_cases nothing : unread = []
    · exact .inl nothing
    · right
      have ends' : [TclServer.endMark] <:+ unread := by
        rcases List.suffix_or_suffix_of_suffix (List.suffix_append before _) ends with inside | around
        · exact inside
        · rcases List.suffix_cons_iff.1 around with same | none
          · exact same ▸ List.suffix_rfl
          · exact absurd (List.suffix_nil.1 none) nothing
      rcases read : Frame.read [TclServer.endMark] false {} unread with ⟨f | body, rest⟩
      · exact absurd ends' (Frame.not_suffix_of_read nothing read)
      · exact ⟨body, rest, Frame.read?_eq_some.2 read⟩

/-- A reading that has all of the prompt but its blank ends with that. -/
theorem read_blank {f : Frame} {body : List Byte} (mode : f.mode = .text)
    (kept : f.text.reverse = body ++ [0x3e]) :
    Frame.read Console.prompt true f [0x20] = (.complete body, []) := by
  have text : f.text = 0x3e :: body.reverse := by
    rw [← List.reverse_reverse f.text, kept, List.reverse_append]
    rfl
  have blank : Telnet.step f.mode 0x20 = (.text, some 0x20) := by rw [mode]; rfl
  rw [Frame.read, Frame.step, if_pos rfl, blank]
  dsimp only
  rw [Frame.take, text, Console.bytes_prompt]
  simp

/-- **After something harmless a reply is read as a whole**, and nothing of it is left. -/
theorem Harmless.body? {unread octets body : List Byte} (h : service.Harmless unread)
    (framed : service.Frames octets body) : service.body? (unread ++ octets) = some (body, []) := by
  cases framed with
  | tcl whole =>
    obtain rfl : unread = [] := h
    refine Frame.read?_eq_some.2 ?_
    rw [List.nil_append, ← List.append_nil (body ++ _)]
    exact Frame.read_marker whole []
  | @console front echo _ text mode line whole =>
    have settled : Settled unread := h
    obtain ⟨skipped, between, read_line, text', mode'⟩ := settled.read_line_of_text text line
    have absent : ¬ Console.prompt <:+: Telnet.textOf .text between := by rwa [text']
    obtain ⟨f, read_body, kept, stands⟩ := Frame.read_of_absent absent
    have ended := read_blank (stands.trans (mode'.trans mode)) (kept.trans text')
    rw [Service.body?, parseThen, ← List.append_assoc,
      (Frame.takesFront _ _).append (Frame.read?_eq_some.2 read_line)]
    refine Frame.read?_eq_some.2 ?_
    rw [Frame.read_append, read_body]
    exact ended

/-- **A reply is read as a whole, or what was left unread is taken for one.** -/
theorem Trails.body? {unread : List Byte} (h : service.Trails unread) (reply : service.WholeReply) :
    ∃ body rest, service.body? (unread ++ reply.octets) = some (body, rest) ∧
      (service.Harmless unread ∧ body = reply.body ∧ rest = [] ∨
        ∃ rest', service.body? unread = some (body, rest') ∧ rest = rest' ++ reply.octets) := by
  rcases h.harmless_or_taken with harmless | ⟨body, rest, taken⟩
  · exact ⟨_, _, harmless.body? reply.framed, .inl ⟨harmless, rfl, rfl⟩⟩
  · exact ⟨_, _, (body?_takesFront service).append taken _, .inr ⟨rest, taken, rfl⟩⟩

/-! ### From octets to whole replies -/

/-- **Octets that are whole replies are read in exchanges**, whatever has been left unread before them.  The
induction is on the replies. -/
theorem Reads.exchanges {unread : List Byte} {replies : List service.WholeReply}
    {outcomes : List (Except DebugError Word)} (trails : service.Trails unread)
    (each : outcomes.length = replies.length)
    (reads : service.Reads (unread ++ octetsOf replies) outcomes) :
    service.Exchanges unread replies outcomes := by
  induction replies generalizing unread outcomes with
  | nil =>
    obtain rfl := List.length_eq_zero_iff.1 each
    exact .none
  | cons reply replies ih =>
    have front := body?_takesFront service
    have tape : unread ++ octetsOf (reply :: replies) = unread ++ reply.octets ++ octetsOf replies :=
      (List.append_assoc unread reply.octets _).symm
    rw [tape] at reads
    obtain ⟨body, left, whole, whose⟩ := trails.body? reply
    cases reads with
    | none => cases each
    | next read later =>
      have each' := Nat.succ.inj each
      cases read with
      | answered taken =>
        rw [front.append whole] at taken
        cases taken
        rcases whose with ⟨harmless, rfl, rfl⟩ | ⟨rest, stale, rfl⟩
        · exact .own harmless (ih (trails_nil service) each' later)
        · obtain ⟨used, rfl, complete⟩ := complete_of_body? stale
          exact .stale stale (ih ((trails.rest complete).append reply) each' later)
      | @cut part _ fault split unfinished =>
        obtain ⟨more, some_left, split', rfl⟩ := front.part_of_whole whole unfinished split
        by_cases complete : service.Complete part
        · have trails' := trails.append reply
          rw [split'] at trails'
          exact .cut fault split' some_left complete (ih (trails'.rest complete) each' later)
        · exact .torn fault split' some_left complete later

/-! ### Whose reply a command is answered by -/

/-- Nothing holds no reply. -/
theorem body?_nil (service : Service) : service.body? [] = none := by
  cases service <;> rfl

/-- **Up to the first command that the stream has failed, each is answered by its own reply.** -/
theorem Exchanges.until_cut {replies : List service.WholeReply} {outcomes : List (Except DebugError Word)}
    (exchanges : service.Exchanges [] replies outcomes) :
    ∃ k, outcomes.take k = (replies.take k).map (·.value) ∧
      (k = outcomes.length ∨ ∃ fault, outcomes[k]? = some (.error (.transport .receive fault))) := by
  induction replies generalizing outcomes with
  | nil =>
    cases exchanges
    exact ⟨0, rfl, .inl rfl⟩
  | cons reply replies ih =>
    cases exchanges with
    | own harmless later =>
      obtain ⟨k, answers, ends⟩ := ih later
      refine ⟨k + 1, congrArg (reply.value :: ·) answers, ?_⟩
      exact ends.imp (congrArg (· + 1)) id
    | stale taken later =>
      rw [body?_nil] at taken
      cases taken
    | cut fault => exact ⟨0, rfl, .inr ⟨fault, rfl⟩⟩
    | torn fault => exact ⟨0, rfl, .inr ⟨fault, rfl⟩⟩

/-- The stream has failed before the command was answered. -/
def isCut : Except DebugError Word → Bool
  | .error (.transport .receive _) => true
  | _ => false

/-- What stands in a reply is no failure of the stream. -/
theorem isCut_value (service : Service) (body : List Byte) : isCut (service.value body) = false := by
  rw [value, readingOf]
  split
  · rfl
  · rw [Reply.word]
    split <;> rfl

/-- A reply of the Tcl server is read up to its end mark. -/
theorem body?_tcl {body : List Byte} (whole : TclServer.endMark ∉ body) (rest : List Byte) :
    Service.tcl.body? (body ++ [TclServer.endMark] ++ rest) = some (body, rest) :=
  Frame.read?_eq_some.2 (Frame.read_marker whole rest)

/-- The replies of the Tcl server, with their end marks. -/
theorem octetsOf_tcl (replies : List Service.tcl.WholeReply) :
    octetsOf replies = (replies.map (·.body)).flatMap (· ++ [TclServer.endMark]) ∧
      ∀ body ∈ replies.map (·.body), TclServer.endMark ∉ body := by
  induction replies with
  | nil => exact ⟨rfl, by simp⟩
  | cons reply replies ih =>
    obtain ⟨split, whole⟩ := reply.framed.of_tcl
    refine ⟨?_, List.forall_mem_cons.2 ⟨whole, ih.2⟩⟩
    rw [List.map_cons, List.flatMap_cons, ← split, ← ih.1]
    rfl

/-- **The Tcl server's replies are taken in their order**, each by the next command that the stream does not
fail, as a whole or as what is left of it.  The induction is on the commands. -/
theorem Reads.in_order {tape : List Byte} {outcomes : List (Except DebugError Word)}
    (reads : Service.tcl.Reads tape outcomes) {bodies : List (List Byte)}
    (wholes : ∀ body ∈ bodies, TclServer.endMark ∉ body)
    (split : tape = bodies.flatMap (· ++ [TclServer.endMark])) (each : outcomes.length ≤ bodies.length) :
    ∃ tails, List.Forall₂ (· <:+ ·) tails (bodies.take tails.length) ∧
      outcomes.filter (!isCut ·) = tails.map Service.tcl.value := by
  induction reads generalizing bodies with
  | none => exact ⟨[], .nil, rfl⟩
  | @next octets rest outcome outcomes read later ih =>
    obtain _ | ⟨body, bodies⟩ := bodies
    · cases each
    have whole := body?_tcl (wholes body List.mem_cons_self)
    have others := fun b mem => wholes b (List.mem_cons_of_mem body mem)
    have each' : outcomes.length ≤ bodies.length := Nat.le_of_succ_le_succ each
    rw [List.flatMap_cons] at split
    cases read with
    | answered taken =>
      rw [split, whole] at taken
      cases taken
      obtain ⟨tails, ends, answers⟩ := ih others rfl each'
      refine ⟨body :: tails, .cons List.suffix_rfl ends, ?_⟩
      rw [List.filter_cons_of_pos (by rw [isCut_value]; rfl), answers, List.map_cons]
    | @cut part _ fault split' unfinished =>
      have alone := whole []
      rw [List.append_nil] at alone
      obtain ⟨more, some_left, ends, rfl⟩ :=
        (body?_takesFront .tcl).part_of_whole alone unfinished (split.symm.trans split')
      obtain ⟨left, last, rfl⟩ := (List.eq_nil_or_concat' more).resolve_left some_left
      rw [← List.append_assoc] at ends
      obtain ⟨rfl, mark⟩ := List.append_inj' ends rfl
      cases mark
      have left_whole : TclServer.endMark ∉ left := fun mem =>
        wholes _ List.mem_cons_self (List.mem_append_right part mem)
      have wholes' : ∀ b ∈ left :: bodies, TclServer.endMark ∉ b :=
        List.forall_mem_cons.2 ⟨left_whole, others⟩
      obtain ⟨tails, ends, answers⟩ := ih wholes' rfl (Nat.le_succ_of_le each')
      refine ⟨tails, ?_, answers⟩
      cases ends with
      | nil => exact .nil
      | cons first rest => exact .cons (first.trans (List.suffix_append part left)) rest

end Service

end HartDebug
