import HartDebug.Proofs.Triples
import HartDebug.Proofs.Wire.Exchange
import HartDebug.Wire.Link

/-!
# Readings that are interrupted

A read of a stream may fail now and then, and what it would have brought comes later.  A reading that is
interrupted in this way has taken a part of its octets, which are gone, and has left the others, which the
next reading finds.

* `ByteStream.Carries` — a stream that fails now and then, and what it still brings;
* `Parses` — an action that reads octets, as a parser says or only in part;
* `Parses.bind`, `Parses.onPart` — **one reading after another is a reading**;
* `Connection.parses_readUntil` — the readings of a connection;
* `Link.Open`, `Link.parses_use` — the same over a link.
-/

namespace HartDebug

open Action (Triple Ends)

/-! ## Streams that fail in between -/

/-- What a stream still brings, as `holds` says: a read takes some of it, or fails and takes nothing; and
what the stream is offered, it takes. -/
structure ByteStream.Carries {σ : Type} [ByteStream σ] (holds : List Byte → σ → Prop) : Prop where
  received : ∀ {octets piece s s'}, holds octets s → ByteStream.receive s = (.ok piece, s') →
    ∃ rest, octets = piece ++ rest ∧ holds rest s'
  failed : ∀ {octets fault s s'}, holds octets s → ByteStream.receive s = (.error fault, s') → holds octets s'
  taken : ∀ {octets} (b bytes) {s}, holds octets s →
    ∃ n s', ByteStream.offer (b :: bytes) s = (.ok (n + 1), s') ∧ holds octets s'

/-- What a piece of a script brings. -/
def Piece.bytes : Piece → List Byte
  | .octets bytes => bytes
  | .failure _ => []

namespace ScriptedStream

/-- A script that still brings some octets, with failures among them, of a stream that takes everything. -/
structure Holds (octets : List Byte) (s : ScriptedStream) : Prop where
  incoming : s.incoming.flatMap Piece.bytes = octets
  room : s.room = none
  most : s.most ≠ some 0

/-- **Every script is such a stream**, wherever its pieces are cut and its failures stand. -/
theorem carries : ByteStream.Carries Holds where
  received {octets piece s s'} holds found := by
    obtain ⟨rfl, room, most⟩ := holds
    change s.receive = _ at found
    rw [receive] at found
    split at found
    · next ended =>
      cases found
      exact ⟨[], by rw [ended]; rfl, by rw [ended]; rfl, room, most⟩
    · next bytes rest script =>
      cases found
      exact ⟨rest.flatMap Piece.bytes, by rw [script]; rfl, rfl, room, most⟩
    · cases found
  failed {octets fault s s'} holds found := by
    obtain ⟨rfl, room, most⟩ := holds
    change s.receive = _ at found
    rw [receive] at found
    split at found
    · cases found
    · cases found
    · next text rest script =>
      cases found
      exact ⟨by rw [script]; rfl, room, most⟩
  taken {octets} b bytes {s} holds := by
    obtain ⟨n, offered⟩ := exists_offer holds.room holds.most b bytes
    exact ⟨n, s, offered, holds⟩

end ScriptedStream

/-! ## Readings -/

section Readings

variable {τ ε α β : Type} {awaits : List Byte → τ → Prop} {parse : List Byte → Option (α × List Byte)}

/-- How a reading is interrupted: the stream has failed, with a part taken that is no whole. -/
structure Interrupted (awaits : List Byte → τ → Prop) (parse : List Byte → Option (α × List Byte))
    (octets : List Byte) (e : DebugError) (t : τ) : Prop where
  failed : ∃ fault, e = .transport .receive fault
  rest : ∃ part rest, octets = part ++ rest ∧ parse part = none ∧ awaits rest t

/-- The action reads octets as the parser does, unless it is interrupted. -/
def Parses (awaits : List Byte → τ → Prop) (parse : List Byte → Option (α × List Byte))
    (x : Action DebugError τ α) : Prop :=
  ∀ octets, Triple (awaits octets) x (fun a t => ∃ rest, parse octets = some (a, rest) ∧ awaits rest t)
    (Interrupted awaits parse octets)

/-- The parser takes a front of what it is given and looks at nothing beyond. -/
structure TakesFront (parse : List Byte → Option (α × List Byte)) : Prop where
  front : ∀ {octets a rest}, parse octets = some (a, rest) →
    ∃ front, octets = front ++ rest ∧ ∀ others, parse (front ++ others) = some (a, others)

/-- One parser after another. -/
def parseThen (parse : List Byte → Option (α × List Byte)) (next : α → List Byte → Option (β × List Byte))
    (octets : List Byte) : Option (β × List Byte) :=
  (parse octets).bind fun taken => next taken.1 taken.2

/-- A parser with something made of what it takes. -/
def parseMap (f : α → β) (parse : List Byte → Option (α × List Byte)) (octets : List Byte) :
    Option (β × List Byte) :=
  (parse octets).map fun taken => (f taken.1, taken.2)

namespace TakesFront

/-- What comes after what is taken is left. -/
theorem append (h : TakesFront parse) {octets rest : List Byte} {a : α}
    (parsed : parse octets = some (a, rest)) (others : List Byte) :
    parse (octets ++ others) = some (a, rest ++ others) := by
  obtain ⟨taken, rfl, alone⟩ := h.front parsed
  rw [List.append_assoc, alone]

/-- A part that is no whole ends within what is one. -/
theorem part_of_whole (h : TakesFront parse) {whole part others rest left : List Byte} {a : α}
    (parsed : parse whole = some (a, left)) (unfinished : parse part = none)
    (split : whole ++ others = part ++ rest) :
    ∃ more, more ≠ [] ∧ whole = part ++ more ∧ rest = more ++ others := by
  rcases List.append_eq_append_iff.1 split with ⟨beyond, rfl, -⟩ | ⟨more, rfl, rfl⟩
  · rw [h.append parsed] at unfinished
    cases unfinished
  · refine ⟨more, ?_, rfl, rfl⟩
    rintro rfl
    rw [List.append_nil, unfinished] at parsed
    cases parsed

theorem parseThen {next : α → List Byte → Option (β × List Byte)} (first : TakesFront parse)
    (second : ∀ a, TakesFront (next a)) : TakesFront (parseThen parse next) := by
  refine ⟨fun {octets b rest} h => ?_⟩
  obtain ⟨⟨a, between⟩, taken, taken'⟩ := Option.bind_eq_some_iff.1 h
  obtain ⟨front, rfl, alone⟩ := first.front taken
  obtain ⟨front', rfl, alone'⟩ := (second a).front taken'
  refine ⟨front ++ front', (List.append_assoc front front' rest).symm, fun others => ?_⟩
  rw [HartDebug.parseThen, List.append_assoc, alone]
  exact alone' others

theorem parseMap (f : α → β) (h : TakesFront parse) : TakesFront (parseMap f parse) := by
  refine ⟨fun {octets b rest} mapped => ?_⟩
  obtain ⟨⟨a, _⟩, parsed, same⟩ := Option.map_eq_some_iff.1 mapped
  cases same
  obtain ⟨front, split, alone⟩ := h.front parsed
  exact ⟨front, split, fun others => by rw [HartDebug.parseMap, alone]; rfl⟩

end TakesFront

/-- What reads nothing. -/
theorem takesFront_nothing (a : α) : TakesFront fun octets => some (a, octets) :=
  ⟨fun {_ _ rest} h => by cases h; exact ⟨[], rfl, fun _ => rfl⟩⟩

namespace Parses

theorem of_eq {x : Action DebugError τ α} {parse' : List Byte → Option (α × List Byte)}
    (h : Parses awaits parse x) (same : ∀ octets, parse octets = parse' octets) : Parses awaits parse' x := by
  obtain rfl : parse = parse' := funext same
  exact h

theorem log (level : Level) (source : Source) (text : String) :
    Parses awaits (fun octets => some ((), octets)) (Action.log level source text) :=
  fun octets => .log level source text fun _ waiting => ⟨octets, rfl, waiting⟩

/-- **One reading after another is a reading.**  Where the second is interrupted, the part that was taken
is what the first has taken and a part of the rest. -/
theorem bind {x : Action DebugError τ α} {f : α → Action DebugError τ β}
    {next : α → List Byte → Option (β × List Byte)} (front : TakesFront parse)
    (first : Parses awaits parse x) (second : ∀ a, Parses awaits (next a) (f a)) :
    Parses awaits (parseThen parse next) (x >>= f) := by
  intro octets
  have begun : Triple (awaits octets) x (fun a t => ∃ rest, parse octets = some (a, rest) ∧ awaits rest t)
      (Interrupted awaits (parseThen parse next) octets) := by
    refine (first octets).consequence (fun _ waiting => waiting) (fun _ _ ended => ended) fun e t cut => ?_
    obtain ⟨failed, part, rest, split, unfinished, waiting⟩ := cut
    exact ⟨failed, part, rest, split, by rw [parseThen, unfinished]; rfl, waiting⟩
  refine begun.bind fun a t ended => ?_
  obtain ⟨rest, taken, waiting⟩ := ended
  refine (second a rest t waiting).mono (fun b t' ended => ?_) fun e t' cut => ?_
  · obtain ⟨rest', taken', waiting'⟩ := ended
    exact ⟨rest', by rw [parseThen, taken]; exact taken', waiting'⟩
  · obtain ⟨failed, part, rest', rfl, unfinished, waiting'⟩ := cut
    obtain ⟨used, rfl, alone⟩ := front.front taken
    refine ⟨failed, used ++ part, rest', (List.append_assoc _ _ _).symm, ?_, waiting'⟩
    rw [parseThen, alone]
    exact unfinished

theorem map {x : Action DebugError τ α} (f : α → β) (h : Parses awaits parse x) :
    Parses awaits (parseMap f parse) (f <$> x) := by
  refine fun octets => .map f ((h octets).consequence (fun _ waiting => waiting) (fun a t ended => ?_)
    fun e t cut => ?_)
  · obtain ⟨rest, parsed, waiting⟩ := ended
    exact ⟨rest, by rw [parseMap, parsed]; rfl, waiting⟩
  · obtain ⟨failed, part, rest, split, unfinished, waiting⟩ := cut
    exact ⟨failed, part, rest, split, by rw [parseMap, unfinished]; rfl, waiting⟩

/-- A reading of a part of the state. -/
theorem onPart {part : Type} {look : τ → part} {put : part → τ → τ} (found : ∀ p t, look (put p t) = p)
    {awaits : List Byte → part → Prop} {x : Action DebugError part α} (h : Parses awaits parse x) :
    Parses (fun octets t => awaits octets (look t)) parse (x.onPart look put) :=
  fun octets => (Triple.onPart found (h octets)).consequence (fun _ waiting => waiting)
    (fun _ _ ended => ended) fun _ _ cut => ⟨cut.failed, cut.rest⟩

end Parses

end Readings

/-! ## Over a connection -/

/-- Read octets up to a marker: what stands before it, and what comes after it. -/
def Frame.read? (marker : List Byte) (telnet : Bool) (octets : List Byte) :
    Option (List Byte × List Byte) :=
  match read marker telnet {} octets with
  | (.complete text, rest) => some (text, rest)
  | (.unfinished _, _) => none

theorem Frame.read?_eq_some {marker octets text rest : List Byte} {telnet : Bool} :
    read? marker telnet octets = some (text, rest) ↔
      read marker telnet {} octets = (.complete text, rest) := by
  rw [read?]
  rcases read marker telnet {} octets with ⟨f | found, after⟩
  · exact ⟨nofun, nofun⟩
  · simp

theorem Frame.takesFront (marker : List Byte) (telnet : Bool) : TakesFront (read? marker telnet) := by
  refine ⟨fun {octets text rest} h => ?_⟩
  obtain ⟨front, split, alone⟩ := front_of_read (read?_eq_some.1 h)
  exact ⟨front, split, fun others => read?_eq_some.2 (alone others)⟩

namespace Connection

variable {σ : Type} [ByteStream σ] {holds : List Byte → σ → Prop}

/-- Octets that are still to be read have come or are about to come. -/
def Awaits (holds : List Byte → σ → Prop) (octets : List Byte) (c : Connection σ) : Prop :=
  ∃ coming, holds coming c.stream ∧ c.buffer ++ coming = octets

/-- The next octet is read, or the stream fails and none is. -/
theorem triple_nextByte (carries : ByteStream.Carries holds) (octets : List Byte) :
    Triple (Awaits holds octets) nextByte
      (fun b c => ∃ rest, octets = b :: rest ∧ Awaits holds rest c)
      (fun e c => (∃ fault, e = .transport .receive fault) ∧ Awaits holds octets c) := by
  refine .get_bind fun c waiting => ?_
  obtain ⟨coming, held, rfl⟩ := waiting
  cases buffered : c.buffer with
  | cons b rest => exact ⟨rest ++ coming, rfl, coming, held, rfl⟩
  | nil =>
    rcases received : ByteStream.receive c.stream with ⟨fault | _ | ⟨b, rest⟩, s'⟩
    · exact ⟨⟨fault, rfl⟩, coming, carries.failed held received, rfl⟩
    · obtain ⟨_, rfl, held'⟩ := carries.received held received
      exact ⟨⟨.ended, rfl⟩, _, held', rfl⟩
    · obtain ⟨coming', rfl, held'⟩ := carries.received held received
      exact ⟨rest ++ coming', rfl, coming', held', rfl⟩

/-- **A reading takes octets up to the marker, or is interrupted before it**, by induction on the octets. -/
theorem triple_readFrame (carries : ByteStream.Carries holds) (marker : List Byte) (telnet : Bool)
    (f : Frame) (octets : List Byte) :
    Triple (Awaits holds octets) (readFrame marker telnet f)
      (fun text c => ∃ rest, Frame.read marker telnet f octets = (.complete text, rest) ∧
        Awaits holds rest c)
      (fun e c => (∃ fault, e = .transport .receive fault) ∧ ∃ part rest f', octets = part ++ rest ∧
        Frame.read marker telnet f part = (.unfinished f', []) ∧ Awaits holds rest c) := by
  intro c waiting
  induction octets generalizing f c with
  | nil =>
    have next := triple_nextByte carries [] c waiting
    rw [exec_readFrame]
    rcases took : (nextByte (σ := σ)).exec c with ⟨e | b, c'⟩
    · rw [took] at next
      exact ⟨next.1, [], [], f, rfl, rfl, next.2⟩
    · rw [took] at next
      obtain ⟨rest, impossible, -⟩ := next
      cases impossible
  | cons b octets ih =>
    have next := triple_nextByte carries (b :: octets) c waiting
    rw [exec_readFrame]
    rcases took : (nextByte (σ := σ)).exec c with ⟨e | b', c'⟩
    · rw [took] at next
      exact ⟨next.1, [], b :: octets, f, rfl, rfl, next.2⟩
    · rw [took] at next
      obtain ⟨rest, same, waiting'⟩ := next
      obtain ⟨rfl, rfl⟩ := List.cons.inj same
      dsimp only
      cases stepped : f.step marker telnet b with
      | complete text => exact ⟨octets, by rw [Frame.read, stepped], waiting'⟩
      | unfinished f' =>
        refine (ih f' c' waiting').mono (fun text c'' ended => ?_) fun e c'' cut => ?_
        · obtain ⟨rest, read, after⟩ := ended
          exact ⟨rest, by rw [Frame.read, stepped]; exact read, after⟩
        · obtain ⟨failed, part, rest, f'', rfl, unfinished, after⟩ := cut
          exact ⟨failed, b :: part, rest, f'', rfl, by rw [Frame.read, stepped]; exact unfinished, after⟩

/-- What is read is the text of the reading, which is logged besides. -/
theorem exec_readUntil (marker : List Byte) (telnet : Bool) (c : Connection σ) :
    (readUntil marker telnet).exec c = Action.exec (readFrame marker telnet {}) c := by
  refine (Action.exec_bind (ε := DebugError) _ _ c).trans ?_
  rcases Action.exec (readFrame marker telnet {}) c with ⟨outcome, c'⟩
  cases outcome <;> rfl

theorem parses_readUntil (carries : ByteStream.Carries holds) (marker : List Byte) (telnet : Bool) :
    Parses (Awaits holds) (Frame.read? marker telnet) (readUntil marker telnet) := by
  intro octets
  refine .congr ?_ (exec_readUntil marker telnet)
  refine (triple_readFrame carries marker telnet {} octets).consequence (fun _ waiting => waiting)
    (fun text c ended => ?_) fun e c cut => ?_
  · obtain ⟨rest, read, waiting⟩ := ended
    exact ⟨rest, Frame.read?_eq_some.2 read, waiting⟩
  · obtain ⟨failed, part, rest, f, split, unfinished, waiting⟩ := cut
    exact ⟨failed, part, rest, split, by rw [Frame.read?, unfinished], waiting⟩

/-- Whatever is sent is taken, and what is to be read is left alone. -/
theorem parses_send (carries : ByteStream.Carries holds) (bytes : List Byte) :
    Parses (Awaits holds) (fun octets => some ((), octets)) (send bytes) := by
  rintro octets c ⟨coming, held, left⟩
  obtain ⟨s', ran, held'⟩ := exec_sendAll_of_taken carries.taken bytes held
  rw [send, Action.exec_bind_ok (Action.exec_log _ _ _ c), ran]
  exact ⟨octets, rfl, coming, held', left⟩

/-- What has come already is read without the stream. -/
theorem exec_readUntil_buffered {marker text rest : List Byte} {telnet : Bool} {stream : σ}
    {buffer sent : List Byte} (read : Frame.read? marker telnet buffer = some (text, rest)) :
    (readUntil marker telnet).exec ⟨stream, buffer, sent⟩ = (.ok text, ⟨stream, rest, sent⟩) := by
  suffices from_here : ∀ f, Frame.read marker telnet f buffer = (.complete text, rest) →
      Action.exec (readFrame marker telnet f) ⟨stream, buffer, sent⟩ = (.ok text, ⟨stream, rest, sent⟩) by
    rw [exec_readUntil, from_here {} (Frame.read?_eq_some.1 read)]
  clear read
  induction buffer with
  | nil => exact fun f read => by cases read
  | cons b buffer ih =>
    intro f read
    have next : nextByte.exec ⟨stream, b :: buffer, sent⟩ = (.ok b, ⟨stream, buffer, sent⟩) := rfl
    rw [exec_readFrame, next]
    rw [Frame.read] at read
    dsimp only
    cases stepped : f.step marker telnet b with
    | complete found =>
      rw [stepped] at read
      cases read
      rfl
    | unfinished f' =>
      rw [stepped] at read
      exact ih f' read

/-- A piece that comes when nothing is left is read as if it had come before. -/
theorem exec_readUntil_received {marker piece sent : List Byte} {telnet : Bool} {stream stream' : σ} {b : Byte}
    (received : ByteStream.receive stream = (.ok (b :: piece), stream')) :
    (readUntil marker telnet).exec ⟨stream, [], sent⟩ =
      (readUntil marker telnet).exec ⟨stream', b :: piece, sent⟩ := by
  have next : nextByte.exec ⟨stream, [], sent⟩ = (.ok b, ⟨stream', piece, sent⟩) := by
    rw [nextByte, Action.exec_bind_ok (Action.exec_get _)]
    dsimp only
    rw [received]
    rfl
  have next' : nextByte.exec ⟨stream', b :: piece, sent⟩ = (.ok b, ⟨stream', piece, sent⟩) := rfl
  rw [exec_readUntil, exec_readUntil, exec_readFrame, exec_readFrame, next, next']

/-- When nothing is left and the stream fails, nothing is read. -/
theorem exec_readUntil_failed {marker sent : List Byte} {telnet : Bool} {stream stream' : σ}
    {fault : StreamFault} (failed : ByteStream.receive stream = (.error fault, stream')) :
    (readUntil marker telnet).exec ⟨stream, [], sent⟩ =
      (.error (.transport .receive fault), ⟨stream', [], sent⟩) := by
  have next : nextByte.exec ⟨stream, [], sent⟩ =
      (.error (.transport .receive fault), ⟨stream', [], sent⟩) := by
    rw [nextByte, Action.exec_bind_ok (Action.exec_get _)]
    dsimp only
    rw [failed]
    rfl
  rw [exec_readUntil, exec_readFrame, next]

end Connection

/-! ## Over a link -/

namespace Link

variable {σ α : Type}

/-- The link is open, and its connection is such. -/
def Open (awaits : List Byte → Connection σ → Prop) (octets : List Byte) (l : Link σ) : Prop :=
  ∃ connection, l.connection = some connection ∧ awaits octets connection

theorem parses_use {awaits : List Byte → Connection σ → Prop}
    {parse : List Byte → Option (α × List Byte)} {x : Action DebugError (Connection σ) α}
    (h : Parses awaits parse x) : Parses (Open awaits) parse (use x) := by
  intro octets l waiting
  obtain ⟨connection, opened, waiting⟩ := waiting
  have ended := h octets connection waiting
  rw [exec_use opened]
  generalize x.exec connection = ran at ended
  obtain ⟨outcome, connection'⟩ := ran
  cases outcome with
  | ok a =>
    obtain ⟨rest, taken, waiting'⟩ := ended
    exact ⟨rest, taken, connection', rfl, waiting'⟩
  | error e =>
    obtain ⟨failed, part, rest, split, unfinished, waiting'⟩ := ended
    exact ⟨failed, part, rest, split, unfinished, connection', rfl, waiting'⟩

end Link

end HartDebug
