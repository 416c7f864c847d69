import Mathlib.Data.Nat.Digits.Defs
import Tlsurl.Http.Str
import Tlsurl.Library.Codes
import Tlsurl.Library.Run

/-! The verbose log of connections (`conn/verbose.rs`, `util.rs`).
Each connection writes a line for what it reads and for what it writes, under a number of its own.
The lines of many connections are in one log, and can be read back.
-/

namespace Tlsurl.Verbose

open Library

-----------------------------------------------------------------------------------------
-- Lines
-----------------------------------------------------------------------------------------

/-- The lower case digit of a number below sixteen -/
def hexLower (digit : Nat) : UInt8 := (if digit < 10 then 48 + digit else 87 + digit).toUInt8

/-- `Display for Escape`, of one byte -/
def escapeByte (byte : UInt8) : Str :=
  if byte = 10 then [92, 110]
  else if byte = 13 then [92, 114]
  else if byte = 9 then [92, 116]
  else if byte = 92 ∨ byte = 34 then [92, byte]
  else if byte = 0 then [92, 48]
  else if 0x20 ≤ byte ∧ byte < 0x7f then [byte]
  else [92, 120, hexLower (byte.toNat / 16), hexLower (byte.toNat % 16)]

/-- `Debug for Escape` -/
def escape (bytes : Str) : Str := ascii "b\"" ++ (bytes.flatMap escapeByte ++ [34])

example : escape [71, 69, 84, 13, 10, 0, 200, 34] = ascii "b\"GET\\r\\n\\0\\xc8\\\"\"" := by
  decide

/-- The buffers that a vectored write reports, up to the length that was written -/
def vectored : List Str → Nat → List Str
  | [], _ => []
  | buf :: bufs, left =>
      if left = 0 then []
      else buf.take (min left buf.length) :: vectored bufs (left - min left buf.length)

/-- What a line is about -/
inductive Kind where
  | read
  | write
  | vectored
  deriving DecidableEq

/-- What stands between the number of a connection and the bytes -/
def Kind.text : Kind → Str
  | .read => ascii " read: "
  | .write => ascii " write: "
  | .vectored => ascii " write (vectored): "

/-- `{:08x}` -/
def number (id : Nat) : Str := ((Nat.digits 16 id).reverse.map hexLower).leftpad 8 48

/-- A line of the log -/
structure Line where
  id : Nat
  kind : Kind
  chunks : List Str

/-- `trace!` -/
def Line.text (line : Line) : Str :=
  number line.id ++ line.kind.text ++ line.chunks.flatMap escape

-----------------------------------------------------------------------------------------
-- Connections
-----------------------------------------------------------------------------------------

/-- What a poll of the inner connection answers -/
inductive Poll (Value : Type) where
  | pending
  | failed
  | ready (value : Value)

/-- `AsyncRead for Wrapper`: the line of a poll, with what the buffer held before -/
def pollRead (id : Nat) (filled : Str) : Poll Str → Option Line
  | .ready new => some { id, kind := .read, chunks := [filled ++ new] }
  | _ => none

/-- `poll_write` of the `Wrapper` -/
def pollWrite (id : Nat) (buf : Str) : Poll Nat → Option Line
  | .ready written => some { id, kind := .write, chunks := [buf.take written] }
  | _ => none

/-- `poll_write_vectored` of the `Wrapper` -/
def pollWriteVectored (id : Nat) (bufs : List Str) : Poll Nat → Option Line
  | .ready written => some { id, kind := .vectored, chunks := vectored bufs written }
  | _ => none

/-- What connections have read and written, and the log -/
structure World where
  received : Nat → Str := fun _ => []
  written : Nat → Str := fun _ => []
  log : List Str := []

/-- What a connection is polled for: a read with what its buffer holds, or a write -/
inductive Event where
  | read (conn : Nat) (filled : Str) (answer : Poll Str)
  | write (conn : Nat) (buf : Str) (answer : Poll Nat)
  | writeVectored (conn : Nat) (bufs : List Str) (answer : Poll Nat)

namespace World

/-- A poll may write a line. -/
def trace (world : World) (line : Option Line) : World :=
  { world with log := world.log ++ line.toList.map Line.text }

def receive (world : World) (conn : Nat) : Poll Str → World
  | .ready new =>
      { world with received := Function.update world.received conn (world.received conn ++ new) }
  | _ => world

/-- The first bytes of a buffer are written. -/
def send (world : World) (conn : Nat) (buf : Str) : Poll Nat → World
  | .ready length =>
      { world with
        written := Function.update world.written conn (world.written conn ++ buf.take length) }
  | _ => world

end World

/-- One poll; `ids` are the numbers of the connections. -/
def Step (ids : Nat → Nat) (world : World) : Event → World → Prop
  | .read conn filled answer, next =>
      next = (world.receive conn answer).trace (pollRead (ids conn) filled answer)
  | .write conn buf answer, next =>
      next = (world.send conn buf answer).trace (pollWrite (ids conn) buf answer)
  | .writeVectored conn bufs answer, next =>
      next
        = (world.send conn bufs.flatten answer).trace (pollWriteVectored (ids conn) bufs answer)

-----------------------------------------------------------------------------------------
-- Lines are read back
-----------------------------------------------------------------------------------------

/-- The number that a digit stands for -/
def hexValue (digit : UInt8) : Nat := if digit < 58 then digit.toNat - 48 else digit.toNat - 87

/-- The byte at the front of escaped bytes -/
def unescapeByte : Str → Option (UInt8 × Str)
  | 92 :: 110 :: rest => some (10, rest)
  | 92 :: 114 :: rest => some (13, rest)
  | 92 :: 116 :: rest => some (9, rest)
  | 92 :: 92 :: rest => some (92, rest)
  | 92 :: 34 :: rest => some (34, rest)
  | 92 :: 48 :: rest => some (0, rest)
  | 92 :: 120 :: high :: low :: rest =>
      some ((hexValue high * 16 + hexValue low).toUInt8, rest)
  | byte :: rest => some (byte, rest)
  | [] => none

theorem hexValue_hexLower {digit : Nat} (small : digit < 16)
    : hexValue (hexLower digit) = digit := by
  have all : ∀ digit : Fin 16, hexValue (hexLower digit) = digit := by decide
  exact all ⟨digit, small⟩

/-- No digit is a blank. -/
theorem hexLower_ne_blank {digit : Nat} (small : digit < 16) : hexLower digit ≠ 32 := by
  have all : ∀ digit : Fin 16, hexLower digit ≠ 32 := by decide
  exact all ⟨digit, small⟩

theorem unescapeByte_escapeByte (byte : UInt8) (rest : Str)
    : unescapeByte (escapeByte byte ++ rest) = some (byte, rest) := by
  unfold escapeByte
  split_ifs with newline feed tab quote zero plain
  · rw [newline]
    rfl
  · rw [feed]
    rfl
  · rw [tab]
    rfl
  · rcases quote with rfl | rfl <;> rfl
  · rw [zero]
    rfl
  · have other : byte ≠ 92 := fun same => quote (.inl same)
    unfold unescapeByte
    split <;> simp_all
  · have value := hexValue_hexLower (show byte.toNat / 16 < 16 by have := byte.toNat_lt; omega)
    have low := hexValue_hexLower (Nat.mod_lt byte.toNat (by decide : 16 > 0))
    simp only [List.cons_append, List.nil_append, unescapeByte, value, low]
    rw [Nat.div_add_mod' byte.toNat 16]
    simp

theorem escapeByte_ne_nil (byte : UInt8) : escapeByte byte ≠ [] := by
  unfold escapeByte
  split_ifs <;> simp

/-- Only the closing quote is a quote that nothing stands before. -/
theorem head_escapeByte (byte : UInt8) : (escapeByte byte).head? ≠ some 34 := by
  unfold escapeByte
  split_ifs with newline feed tab quote zero plain
  · simp
  · simp
  · simp
  · simp
  · simp
  · simpa using fun same => quote (.inr same)
  · simp

/-- Escaped bytes are read back. -/
def escapes : Code UInt8 UInt8 where
  write := escapeByte
  read := unescapeByte
  read_write := unescapeByte_escapeByte
  nonempty := escapeByte_ne_nil

/-- So are escaped bytes in quotes. -/
def literals : Code Str UInt8 := escapes.closed (ascii "b\"") 34 head_escapeByte

/-- The number that digits stand for -/
def numberValue (digits : Str) : Nat := Nat.ofDigits 16 (digits.reverse.map hexValue)

/-- The kind of a line, and what comes after it -/
def readKind (text : Str) : Option (Kind × Str) :=
  match text.dropPrefix? Kind.read.text, text.dropPrefix? Kind.write.text with
  | some rest, _ => some (.read, rest)
  | none, some rest => some (.write, rest)
  | none, none => (text.dropPrefix? Kind.vectored.text).map (Prod.mk .vectored)

/-- A line of the log is read: its number up to the first blank, its kind, and its chunks. -/
def Line.ofText (text : Str) : Option Line :=
  (readKind (text.dropWhile (· != 32))).bind (fun found =>
    (literals.readAll found.2.length found.2).map (fun chunks =>
      { id := numberValue (text.takeWhile (· != 32)), kind := found.1, chunks }))

theorem digit_number {id : Nat} {digit : UInt8} (member : digit ∈ number id) : digit ≠ 32 := by
  rw [number, List.leftpad, List.mem_append] at member
  rcases member with pad | digit
  · rw [List.eq_of_mem_replicate pad]
    decide
  · obtain ⟨value, member, rfl⟩ := List.mem_map.mp digit
    exact hexLower_ne_blank (Nat.digits_lt_base (by decide) (List.mem_reverse.mp member))

theorem numberValue_number (id : Nat) : numberValue (number id) = id := by
  have values : (Nat.digits 16 id).map (fun digit => hexValue (hexLower digit))
      = Nat.digits 16 id := by
    rw [List.map_congr_left (g := fun digit => digit)
      (fun digit member => hexValue_hexLower (Nat.digits_lt_base (by decide) member)), List.map_id']
  have zeros (count : Nat)
      : (List.replicate count 48).reverse.map hexValue = List.replicate count 0 := by
    rw [List.reverse_replicate, List.map_replicate]
    rfl
  rw [numberValue, number, List.leftpad, List.reverse_append, List.map_append, zeros,
    Nat.ofDigits_append_replicate_zero]
  simp only [List.map_reverse, List.reverse_reverse, List.map_map, Function.comp_def, values]
  exact Nat.ofDigits_digits 16 id

theorem readKind_text (kind : Kind) (rest : Str)
    : readKind (kind.text ++ rest) = some (kind, rest) := by
  have reads : Kind.read.text = [32, 114, 101, 97, 100, 58, 32] := by decide
  have writes : Kind.write.text = [32, 119, 114, 105, 116, 101, 58, 32] := by decide
  have vectors : Kind.vectored.text
      = [32, 119, 114, 105, 116, 101, 32, 40, 118, 101, 99, 116, 111, 114, 101, 100, 41, 58,
          32] := by
    decide
  cases kind <;> simp [readKind, reads, writes, vectors, List.dropPrefix?]

/-- Each line is read back. -/
theorem Line.ofText_text (line : Line) : Line.ofText line.text = some line := by
  have digits : ∀ digit ∈ number line.id, (digit != 32) = true := by
    intro digit member
    simpa using digit_number member
  have blank : ∃ more, line.kind.text = 32 :: more := by
    cases line.kind <;> exact ⟨_, rfl⟩
  obtain ⟨more, blank⟩ := blank
  have rest := readKind_text line.kind (line.chunks.flatMap literals.write)
  have chunks := literals.readAll_flatMap line.chunks (literals.length_le_flatMap line.chunks)
  rw [blank, List.cons_append] at rest
  rw [Line.ofText, Line.text, blank, List.append_assoc, List.cons_append,
    List.dropWhile_append_of_pos digits, List.takeWhile_append_of_pos digits,
    List.dropWhile_cons_of_neg (by simp), List.takeWhile_cons_of_neg (by simp)]
  rw [show escape = literals.write from rfl, rest]
  rw [Option.bind_some, chunks, Option.map_some, List.append_nil, numberValue_number]

-----------------------------------------------------------------------------------------
-- The log of a run
-----------------------------------------------------------------------------------------

/-- Whether a line is of a read -/
def Kind.reads : Kind → Bool
  | .read => true
  | _ => false

/-- The bytes of a line, if it is of this connection and of this direction -/
def Line.bytes (id : Nat) (reads : Bool) (line : Line) : Str :=
  if line.id = id ∧ line.kind.reads = reads then line.chunks.flatten else []

/-- The bytes that a log has for a connection in a direction -/
def logged (id : Nat) (reads : Bool) (log : List Str) : Str :=
  log.flatMap (fun text => (Line.ofText text).elim [] (Line.bytes id reads))

theorem logged_trace (world : World) (line : Option Line) (id : Nat) (reads : Bool)
    : logged id reads (world.trace line).log
      = logged id reads world.log ++ line.elim [] (Line.bytes id reads) := by
  rw [logged, World.trace, List.flatMap_append]
  cases line with
  | none => rfl
  | some line => simp [logged, Line.ofText_text]

/-- The chunks of a vectored write are the bytes that were written, by induction on the buffers. -/
theorem flatten_vectored (bufs : List Str) (left : Nat)
    : (vectored bufs left).flatten = bufs.flatten.take left := by
  induction bufs generalizing left with
  | nil => simp [vectored]
  | cons buf bufs ih =>
      rw [vectored]
      split
      · next none => simp [none]
      · rw [List.flatten_cons, ih, List.flatten_cons, List.take_append]
        rcases Nat.le_total left buf.length with within | beyond
        · simp [Nat.min_eq_left within, Nat.sub_eq_zero_of_le within]
        · simp [Nat.min_eq_right beyond, List.take_of_length_le beyond]

/-- How much of what a log has of a connection's reads was in its buffers before -/
def Event.stale (conn : Nat) : Event → Nat
  | .read other filled (.ready _) => if other = conn then filled.length else 0
  | _ => 0

/-- What a log has of a connection whose number is its own: all that it wrote, and what it read,
more by what was in its buffers before.
-/
structure World.Told (id conn : Nat) (past : List Event) (world : World) : Prop where
  written : logged id false world.log = world.written conn
  longer
    : (logged id true world.log).length
      = (world.received conn).length + (past.map (Event.stale conn)).sum
  received
    : (past.map (Event.stale conn)).sum = 0 → logged id true world.log = world.received conn

section Runs

variable {ids : Nat → Nat} {conn : Nat} {past : List Event} {world next : World}

/-- A poll tells of the bytes it moves, and of those that were in the buffer before. -/
theorem World.Told.poll {id : Nat} (told : world.Told id conn past) {event : Event}
    {line : Option Line} (sent old new : Str)
    (traced : next.log = world.log ++ line.toList.map Line.text)
    (written : next.written conn = world.written conn ++ sent)
    (received : next.received conn = world.received conn ++ new)
    (writes : line.elim [] (Line.bytes id false) = sent)
    (reads : line.elim [] (Line.bytes id true) = old ++ new)
    (stale : event.stale conn = old.length)
    : next.Told id conn (past ++ [event]) := by
  have log (way : Bool)
      : logged id way next.log = logged id way world.log ++ line.elim [] (Line.bytes id way) := by
    rw [traced]
    exact logged_trace world line id way
  have sum : ((past ++ [event]).map (Event.stale conn)).sum
      = (past.map (Event.stale conn)).sum + old.length := by
    simp [stale]
  constructor
  · rw [log, told.written, written, writes]
  · rw [log, received, reads, sum]
    simp only [List.length_append, told.longer]
    omega
  · intro none
    rw [sum] at none
    have empty : old = [] := List.eq_nil_of_length_eq_zero (Nat.eq_zero_of_add_eq_zero_left none)
    rw [log, told.received (Nat.eq_zero_of_add_eq_zero_right none), received, reads, empty,
      List.nil_append]

/-- What a connection tells is told of no other. -/
theorem bytes_apart {line : Line} {id : Nat} (apart : line.id ≠ id) (reads : Bool)
    : line.bytes id reads = [] := by
  simp [Line.bytes, apart]

/-- A poll that moves nothing tells of nothing. -/
theorem World.Told.idle {id : Nat} (told : world.Told id conn past) {event : Event}
    (stale : event.stale conn = 0)
    : (world.trace none).Told id conn (past ++ [event]) :=
  told.poll [] [] [] rfl (List.append_nil _).symm (List.append_nil _).symm rfl rfl stale

/-- A write tells of the bytes that were written. -/
theorem World.Told.send (told : world.Told (ids conn) conn past)
    (own : ∀ other, ids other = ids conn → other = conn) (other : Nat) {buf : Str}
    {length : Nat} {kind : Kind} {chunks : List Str} {event : Event}
    (writes : kind.reads = false) (whole : chunks.flatten = buf.take length)
    (stale : event.stale conn = 0)
    : ((world.send other buf (.ready length)).trace
          (some { id := ids other, kind, chunks })).Told (ids conn) conn (past ++ [event]) := by
  by_cases here : other = conn
  · subst here
    refine told.poll (buf.take length) [] [] rfl ?_ (List.append_nil _).symm ?_ ?_ stale
    · simp [World.trace, World.send]
    · simp [Line.bytes, writes, whole]
    · simp [Line.bytes, writes]
  · have apart : ids other ≠ ids conn := fun same => here (own other same)
    refine told.poll [] [] [] rfl ?_ (List.append_nil _).symm ?_ ?_ stale
    · simp [World.trace, World.send, Ne.symm here]
    · exact bytes_apart apart false
    · exact bytes_apart apart true

/-- A read tells of the bytes that were read, and of those in the buffer before. -/
theorem World.Told.receive (told : world.Told (ids conn) conn past)
    (own : ∀ other, ids other = ids conn → other = conn) (other : Nat) (filled new : Str)
    : ((world.receive other (.ready new)).trace (pollRead (ids other) filled (.ready new))).Told
        (ids conn) conn (past ++ [.read other filled (.ready new)]) := by
  by_cases here : other = conn
  · subst here
    refine told.poll [] filled new rfl (List.append_nil _).symm ?_ ?_ ?_ ?_
    · simp [World.trace, World.receive]
    · simp [pollRead, Line.bytes, Kind.reads]
    · simp [pollRead, Line.bytes, Kind.reads]
    · simp [Event.stale]
  · have apart : ids other ≠ ids conn := fun same => here (own other same)
    refine told.poll [] [] [] rfl (List.append_nil _).symm ?_ ?_ ?_ ?_
    · simp [World.trace, World.receive, Ne.symm here]
    · exact bytes_apart apart false
    · exact bytes_apart apart true
    · simp [Event.stale, here]

/-- Each poll keeps a log in order. -/
theorem Step.told {event : Event} (step : Step ids world event next)
    (own : ∀ other, ids other = ids conn → other = conn)
    (told : world.Told (ids conn) conn past)
    : next.Told (ids conn) conn (past ++ [event]) := by
  cases event with
  | read other filled answer =>
      cases step
      cases answer with
      | ready new => exact told.receive own other filled new
      | pending => exact told.idle rfl
      | failed => exact told.idle rfl
  | write other buf answer =>
      cases step
      cases answer with
      | ready length => exact told.send own other rfl (by simp) rfl
      | pending => exact told.idle rfl
      | failed => exact told.idle rfl
  | writeVectored other bufs answer =>
      cases step
      cases answer with
      | ready length => exact told.send own other rfl (flatten_vectored bufs length) rfl
      | pending => exact told.idle rfl
      | failed => exact told.idle rfl

/-- In every run of polls of any connections, for a connection whose number is its own: the lines
of its writes, read back, are all the bytes that it wrote; and the lines of its reads are the bytes
that it read if and only if each of its reads found its buffer empty.
-/
theorem log_reads_back {events : List Event} (run : Run (Step ids) {} events world)
    (own : ∀ other, ids other = ids conn → other = conn)
    : logged (ids conn) false world.log = world.written conn
      ∧ (logged (ids conn) true world.log = world.received conn
        ↔ ∀ filled new, .read conn filled (.ready new) ∈ events → filled = []) := by
  have told : world.Told (ids conn) conn events := by
    induction run with
    | nil => exact ⟨rfl, rfl, fun _ => rfl⟩
    | snoc earlier last ih => exact last.told own ih
  refine ⟨told.written, fun same filled new member => ?_, fun empty => told.received ?_⟩
  · have none : (events.map (Event.stale conn)).sum = 0 := by
      have longer := told.longer
      rw [same] at longer
      omega
    have here := List.sum_eq_zero_iff_forall_eq_nat.mp none _ (List.mem_map_of_mem member)
    exact List.eq_nil_of_length_eq_zero (by simpa [Event.stale] using here)
  · refine List.sum_eq_zero_iff_forall_eq_nat.mpr (fun count counted => ?_)
    obtain ⟨event, member, rfl⟩ := List.mem_map.mp counted
    cases event with
    | read other filled answer =>
        cases answer with
        | ready new =>
            simp only [Event.stale]
            split
            · next here =>
                subst here
                rw [empty filled new member, List.length_nil]
            · rfl
        | pending => rfl
        | failed => rfl
    | write other buf answer => rfl
    | writeVectored other bufs answer => rfl

/-- The log of two connections, one of which reads into a buffer that is not empty -/
def sampleEvents : List Event :=
  [.write 0 [71, 69] (.ready 1), .read 1 [104] (.ready [105]), .writeVectored 0 [[69], [84, 10]]
    (.ready 2), .read 0 [] .pending]

/-- What it tells of them -/
def sampleWorld : World :=
  ((({} : World).send 0 [71, 69] (.ready 1)).trace (pollWrite 7 [71, 69] (.ready 1)) |>.receive 1
    (.ready [105]) |>.trace (pollRead 8 [104] (.ready [105])) |>.send 0 [69, 84, 10] (.ready 2)
    |>.trace (pollWriteVectored 7 [[69], [84, 10]] (.ready 2)))

theorem log_reads_back_two
    : logged (0 + 7) false sampleWorld.log = sampleWorld.written 0
      ∧ (logged (0 + 7) true sampleWorld.log = sampleWorld.received 0
        ↔ ∀ filled new, .read 0 filled (.ready new) ∈ sampleEvents → filled = []) := by
  have run : Run (Step (· + 7)) {} sampleEvents sampleWorld := by
    apply Run.cons
    · exact rfl
    apply Run.cons
    · exact rfl
    apply Run.cons
    · exact rfl
    apply Run.cons
    · exact rfl
    exact .nil
  exact log_reads_back run (fun _ same => Nat.add_right_cancel same)

end Runs

end Tlsurl.Verbose
