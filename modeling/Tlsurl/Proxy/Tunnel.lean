import Tlsurl.Http.HeaderEdits
import Tlsurl.Http.Uri
import Tlsurl.Library.Incremental

/-! The CONNECT tunnel (`conn/proxy/tunnel.rs`).
The response is read into a buffer of its own and parsed from its start after every read; the
connection is handed on with what was not read. `httparse` is a parameter.
-/

namespace Tlsurl.Proxy

open Library

/-- `Headers` of a tunnel connector -/
inductive TunnelHeaders where
  | empty
  | auth (auth : HeaderValue)
  | extra (extra : HeaderMap)

/-- `TunnelConnector::with_auth` -/
def TunnelHeaders.withAuth (self : TunnelHeaders) (auth : HeaderValue) : TunnelHeaders :=
  match self with
  | .empty => .auth { auth with sensitive := true }
  | .auth _ => .auth { auth with sensitive := true }
  | .extra map => .extra (map.insert "proxy-authorization" { auth with sensitive := true })

/-- `TunnelConnector::with_headers` -/
def TunnelHeaders.withHeaders (self : TunnelHeaders) (headers : HeaderMap) : TunnelHeaders :=
  match self with
  | .empty => .extra headers
  | .auth value => .extra (headers.orInsert "proxy-authorization" value)
  | .extra map => .extra (map.replaceHeaders headers)

/-- `TunnelError`, as far as `tunnel` makes it; `Io` and `Parse` are the errors of the connection
and of `httparse`.
-/
inductive TunnelError (Io Parse : Type) where
  | io (error : Io)
  | parse (error : Parse)
  | proxyAuthRequired
  | tunnelUnexpectedEof
  | tunnelUnsuccessful
  deriving DecidableEq

/-- What comes after the bytes that the proxy sends: the end of the stream, an error, or nothing.
-/
inductive Ending (Io : Type) where
  | eof
  | failed (error : Io)
  | silent

/-- A connection to a proxy: what was written, the error that writing meets if it fails, the
chunks that the reads to come return, none of which is empty, and what follows them.
-/
structure Conn (Io : Type) where
  written : Str := []
  writeError : Option Io := none
  chunks : List { chunk : Str // chunk ≠ [] }
  ending : Ending Io

variable {Io Parse : Type}

/-- The chunks of the reads to come -/
def Conn.reads (conn : Conn Io) : List Str := conn.chunks.map Subtype.val

/-- The bytes that are read from a connection -/
def Conn.bytes (conn : Conn Io) : Str := conn.reads.flatten

/-- A header line of the request -/
def headerLine (name value : Str) : Str := name ++ ascii ": " ++ value ++ ascii "\r\n"

/-- The request of `tunnel` -/
def connectRequest (host : Str) (port : UInt16) (headers : TunnelHeaders) : Str :=
  ascii "CONNECT " ++ host ++ ascii ":" ++ decimal port.toNat ++ ascii " HTTP/1.1\r\n"
    ++ headerLine (ascii "Host") (host ++ ascii ":" ++ decimal port.toNat)
    ++ (match headers with
      | .auth auth => headerLine (ascii "Proxy-Authorization") auth.bytes
      | .extra extra =>
          extra.iter.flatMap (fun field => headerLine (ascii field.1) field.2.bytes)
      | .empty => [])
    ++ ascii "\r\n"

/-- The code of `httparse::Response` -/
abbrev Code := Option Nat

/-- The loop of `tunnel`: the chunks left after the response, or an error; nothing while the
proxy is silent.
-/
def readResponse (parse : Str → Verdict Parse Code) (ending : Ending Io) (buf : Str)
    : List { chunk : Str // chunk ≠ [] }
      → Option (Except (TunnelError Io Parse) (List { chunk : Str // chunk ≠ [] }))
  | [] =>
      match ending with
      | .eof => some (.error .tunnelUnexpectedEof)
      | .failed error => some (.error (.io error))
      | .silent => none
  | chunk :: rest =>
      match parse (buf ++ chunk.val) with
      | .bad error => some (.error (.parse error))
      | .more => readResponse parse ending (buf ++ chunk.val) rest
      | .head _ code =>
          if code = some 200 then some (.ok rest)
          else if code = some 407 then some (.error .proxyAuthRequired)
          else some (.error .tunnelUnsuccessful)

/-- `tunnel` -/
def tunnel (parse : Str → Verdict Parse Code) (conn : Conn Io) (host : Str) (port : UInt16)
    (headers : TunnelHeaders)
    : Option (Except (TunnelError Io Parse) (Conn Io)) :=
  match conn.writeError with
  | some error => some (.error (.io error))
  | none =>
      (readResponse parse conn.ending [] conn.chunks).map (fun result =>
        result.map (fun rest =>
          { conn with
            written := conn.written ++ connectRequest host port headers
            chunks := rest }))

-----------------------------------------------------------------------------------------
-- The response as a head
-----------------------------------------------------------------------------------------

/-- Whether something was returned or which error, without what was returned -/
def outcome {ε α : Type} (result : Option (Except ε α)) : Option (Except ε Unit) :=
  result.map (fun answer => answer.map (fun _ => ()))

/-- What a code makes of the tunnel -/
def accept (code : Code) : Except (TunnelError Io Parse) Unit :=
  if code = some 200 then .ok ()
  else if code = some 407 then .error .proxyAuthRequired
  else .error .tunnelUnsuccessful

/-- What the end of the stream makes of a tunnel without a response -/
def Ending.result : Ending Io → Option (Except (TunnelError Io Parse) Unit)
  | .eof => some (.error .tunnelUnexpectedEof)
  | .failed error => some (.error (.io error))
  | .silent => none

/-- What reading a head, or running out of chunks, makes of the tunnel -/
def conclude (ending : Ending Io)
    : Option (Except Parse Code) → Option (Except (TunnelError Io Parse) Unit)
  | none => ending.result
  | some (.error error) => some (.error (.parse error))
  | some (.ok code) => some (accept code)

variable {parse : Str → Verdict Parse Code}

/-- The loop reads a head chunk by chunk, by induction on the chunks. -/
theorem outcome_readResponse (ending : Ending Io) (buf : Str)
    (chunks : List { chunk : Str // chunk ≠ [] })
    : outcome (readResponse parse ending buf chunks)
      = conclude ending ((feed parse buf (chunks.map Subtype.val)).map Prod.fst) := by
  induction chunks generalizing buf with
  | nil => cases ending <;> rfl
  | cons chunk others ih =>
      rw [List.map_cons, readResponse, feed]
      cases verdict : parse (buf ++ chunk.val) with
      | more => exact ih _
      | bad error => rfl
      | head length code =>
          by_cases accepted : code = some 200
          · simp [accepted, conclude, accept, outcome, Except.map]
          · by_cases refused : code = some 407
            · simp [refused, conclude, accept, outcome, Except.map]
            · simp [accepted, refused, conclude, accept, outcome, Except.map]

/-- The loop returns the chunks that are left after a head with the code 200, by induction on
the chunks.
-/
theorem readResponse_ok (ending : Ending Io) (buf : Str)
    (chunks rest : List { chunk : Str // chunk ≠ [] })
    : readResponse parse ending buf chunks = some (.ok rest)
      ↔ feed parse buf (chunks.map Subtype.val)
        = some (.ok (some 200), rest.map Subtype.val) := by
  induction chunks generalizing buf with
  | nil => cases ending <;> simp [readResponse, feed]
  | cons chunk others ih =>
      rw [List.map_cons, readResponse, feed]
      cases verdict : parse (buf ++ chunk.val) with
      | more => exact ih _
      | bad error => simp
      | head length code =>
          have unread : others = rest ↔ others.map Subtype.val = rest.map Subtype.val :=
            (List.map_injective_iff.mpr Subtype.val_injective).eq_iff.symm
          by_cases accepted : code = some 200
          · simp [accepted, unread]
          · by_cases refused : code = some 407
            · simp [refused]
            · simp [accepted, refused]

-----------------------------------------------------------------------------------------
-- Chunking
-----------------------------------------------------------------------------------------

variable (host : Str) (port : UInt16) (headers : TunnelHeaders)

/-- A connection that cannot be written to is not read. -/
theorem tunnel_unwritten {conn : Conn Io} {error : Io} (failed : conn.writeError = some error)
    : tunnel parse conn host port headers = some (.error (.io error)) := by
  simp [tunnel, failed]

/-- Whether a tunnel is opened, or with which error it is not, is read off the bytes. -/
theorem outcome_tunnel (lawful : SelfDelimiting parse) {conn : Conn Io}
    (wrote : conn.writeError = none)
    : outcome (tunnel parse conn host port headers)
      = conclude conn.ending (parse conn.bytes).result := by
  have read : outcome (readResponse parse conn.ending [] conn.chunks) = _ :=
    outcome_readResponse conn.ending [] conn.chunks
  have bytes := @SelfDelimiting.feed_result _ _ _ parse lawful [] conn.reads lawful.empty
  rw [Conn.reads, List.nil_append] at bytes
  rw [bytes] at read
  rw [← Conn.reads, ← Conn.bytes] at read
  rw [← read, tunnel, wrote, outcome, outcome, Option.map_map]
  congr 1
  funext result
  cases result <;> rfl

/-- The bytes read after a tunnel was opened are those of the chunks that the response left. -/
theorem tunnel_ok_iff {conn after : Conn Io} (wrote : conn.writeError = none)
    : tunnel parse conn host port headers = some (.ok after)
      ↔ ∃ rest, feed parse [] conn.reads = some (.ok (some 200), rest.map Subtype.val)
        ∧ after = { conn with
            written := conn.written ++ connectRequest host port headers
            chunks := rest } := by
  simp only [tunnel, wrote, Option.map_eq_some_iff]
  constructor
  · rintro ⟨answer, read, opened⟩
    cases answer with
    | error error => cases opened
    | ok rest =>
        cases opened
        exact ⟨rest, (readResponse_ok conn.ending [] conn.chunks rest).mp read, rfl⟩
  · rintro ⟨rest, read, rfl⟩
    exact ⟨.ok rest, (readResponse_ok conn.ending [] conn.chunks rest).mpr read, rfl⟩

/-- The tunnel over a connection comes to what it comes to for every other chunking of the same
bytes, and if it is opened, then what is read next are the bytes after the end of the head.
-/
structure Lossless (parse : Str → Verdict Parse Code) (conn : Conn Io) : Prop where
  chunking
    : ∀ other : Conn Io, other.bytes = conn.bytes → other.ending = conn.ending
      → other.writeError = conn.writeError
      → outcome (tunnel parse other host port headers)
        = outcome (tunnel parse conn host port headers)
  following
    : ∀ after, tunnel parse conn host port headers = some (.ok after)
      → ∃ length code, parse conn.bytes = .head length code
        ∧ after.bytes = conn.bytes.drop length

/-- No read crosses the end of a response that opens the tunnel. -/
def Conn.EndsWithRead (conn : Conn Io) (parse : Str → Verdict Parse Code) : Prop :=
  conn.writeError = none → ∀ length, parse conn.bytes = .head length (some 200)
    → IsCut conn.reads length

/-- Another chunking of the same bytes comes to the same. -/
theorem outcome_tunnel_chunking (lawful : SelfDelimiting parse) {conn other : Conn Io}
    (bytes : other.bytes = conn.bytes) (ending : other.ending = conn.ending)
    (write : other.writeError = conn.writeError)
    : outcome (tunnel parse other host port headers)
      = outcome (tunnel parse conn host port headers) := by
  cases wrote : conn.writeError with
  | some error =>
      rw [tunnel_unwritten host port headers wrote,
        tunnel_unwritten host port headers (write.trans wrote)]
  | none =>
      rw [outcome_tunnel host port headers lawful wrote,
        outcome_tunnel host port headers lawful (write.trans wrote), bytes, ending]

/-- A tunnel is opened by a head with the code 200. -/
theorem head_of_feed (lawful : SelfDelimiting parse) {chunks rest : List Str} {code : Code}
    (read : feed parse [] chunks = some (.ok code, rest))
    : ∃ length, parse chunks.flatten = .head length code := by
  have result := @SelfDelimiting.feed_result _ _ _ parse lawful [] chunks lawful.empty
  rw [read, List.nil_append] at result
  cases verdict : parse chunks.flatten with
  | more => rw [verdict] at result; cases result
  | bad error => rw [verdict] at result; cases result
  | head length found =>
      rw [verdict] at result
      cases result
      exact ⟨length, rfl⟩

/-- A head with the code 200 opens the tunnel. -/
theorem tunnel_of_head (lawful : SelfDelimiting parse) {conn : Conn Io}
    (wrote : conn.writeError = none) {length : Nat}
    (accepted : parse conn.bytes = .head length (some 200))
    : ∃ after, tunnel parse conn host port headers = some (.ok after) := by
  have opened := outcome_tunnel host port headers lawful wrote
  rw [accepted] at opened
  cases result : tunnel parse conn host port headers with
  | none => rw [result] at opened; cases opened
  | some answer =>
      cases answer with
      | error error => rw [result] at opened; cases opened
      | ok after => exact ⟨after, rfl⟩

/-- The tunnel is lossless if and only if no read crosses the end of the response: what was read
after the head stays in the buffer that the head was parsed in.
-/
theorem tunnel_lossless_iff (lawful : SelfDelimiting parse) (conn : Conn Io)
    : Lossless host port headers parse conn ↔ conn.EndsWithRead parse := by
  constructor
  · intro lossless wrote length accepted
    obtain ⟨after, opened⟩ := tunnel_of_head host port headers lawful wrote accepted
    obtain ⟨rest, read, rfl⟩ := (tunnel_ok_iff host port headers wrote).mp opened
    obtain ⟨found, code, verdict, kept⟩ := lossless.following _ opened
    have same : length = found := by
      rw [accepted] at verdict
      cases verdict
      rfl
    rw [← same] at kept
    exact (lawful.feed_rest_iff read accepted).mp kept
  · intro cut
    refine ⟨fun other => outcome_tunnel_chunking host port headers lawful, ?_⟩
    intro after opened
    cases wrote : conn.writeError with
    | some error =>
        rw [tunnel_unwritten host port headers wrote] at opened
        cases opened
    | none =>
        obtain ⟨rest, read, rfl⟩ := (tunnel_ok_iff host port headers wrote).mp opened
        obtain ⟨length, accepted⟩ := head_of_feed lawful read
        exact ⟨length, some 200, accepted,
          (lawful.feed_rest_iff read accepted).mpr (cut wrote length accepted)⟩

/-- `httparse` of the bytes that begin with a known head, or with a part of it -/
def knownHead (head : Str) (code : Code) (buffer : Str) : Verdict Unit Code :=
  if head <+: buffer then .head head.length code
  else if buffer <+: head then .more
  else .bad ()

/-- A known head is accepted and what cannot become it is rejected, whatever follows. -/
theorem knownHead_selfDelimiting {head : Str} (some_bytes : head ≠ []) (code : Code)
    : SelfDelimiting (knownHead head code) where
  empty := by simp [knownHead, some_bytes]
  stable := by
    intro buffer later decided
    by_cases accepted : head <+: buffer
    · simp [knownHead, accepted, accepted.trans (List.prefix_append buffer later)]
    · by_cases early : buffer <+: head
      · simp [knownHead, accepted, early] at decided
      · have beyond : ¬ buffer ++ later <+: head := fun inside =>
          early ((List.prefix_append buffer later).trans inside)
        have other : ¬ head <+: buffer ++ later := fun starts =>
          (List.prefix_or_prefix_of_prefix starts (List.prefix_append buffer later)).elim
            accepted early
        simp [knownHead, accepted, early, beyond, other]
  within := by
    intro buffer length value verdict
    by_cases accepted : head <+: buffer
    · simp only [knownHead, accepted, if_true, Verdict.head.injEq] at verdict
      exact verdict.1 ▸ accepted.length_le
    · by_cases early : buffer <+: head <;> simp [knownHead, accepted, early] at verdict
  alone := by
    intro buffer length value verdict
    by_cases accepted : head <+: buffer
    · simp only [knownHead, accepted, if_true, Verdict.head.injEq] at verdict
      obtain ⟨rfl, rfl⟩ := verdict
      have cut : head = buffer.take head.length := List.prefix_iff_eq_take.mp accepted
      rw [← cut]
      simp [knownHead]
    · by_cases early : buffer <+: head <;> simp [knownHead, accepted, early] at verdict

/-- A connection over which the proxy accepts the tunnel and then sends a byte, in these chunks -/
def accepting (chunks : List { chunk : Str // chunk ≠ [] }) : Conn Unit where
  chunks
  ending := .silent

/-- The response of a proxy that accepts the tunnel -/
def acceptance : Str := ascii "HTTP/1.1 200 OK\r\n\r\n"

/-- A byte that comes in a read of its own is not lost. -/
theorem tunnel_lossless_separate
    : Lossless (ascii "example.com") 443 .empty (knownHead acceptance (some 200))
      (accepting [⟨acceptance, by decide⟩, ⟨[90], by decide⟩]) :=
  (tunnel_lossless_iff (ascii "example.com") 443 .empty
    (knownHead_selfDelimiting (by decide) (some 200)) _).mpr
    (fun _ length accepted => by
      refine ⟨[acceptance], [[90]], rfl, ?_⟩
      have verdict : knownHead acceptance (some 200) (acceptance ++ [90])
          = .head acceptance.length (some 200) := by
        simp [knownHead]
      have same := verdict.symm.trans accepted
      cases same
      rfl)

/-- A byte that comes with the response is lost. -/
theorem payload_with_response_lost
    : ¬ Lossless (ascii "example.com") 443 .empty (knownHead acceptance (some 200))
      (accepting [⟨acceptance ++ [90], by decide⟩]) := by
  intro lossless
  have verdict : knownHead acceptance (some 200) (acceptance ++ [90])
      = .head acceptance.length (some 200) := by
    simp [knownHead]
  obtain ⟨length, code, accepted, kept⟩ := lossless.following
    { accepting [] with written := connectRequest (ascii "example.com") 443 .empty }
    (by simp [tunnel, accepting, readResponse, verdict, Except.map])
  have same := verdict.symm.trans accepted
  cases same
  exact absurd kept (by decide)

end Tlsurl.Proxy
