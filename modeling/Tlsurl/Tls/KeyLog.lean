import Mathlib.Logic.Function.Basic
import Tlsurl.Http.Str
import Tlsurl.Library.Run

/-! The writers of key logs (`tls/keylog.rs`).
Connectors ask for the handle of a path at the same time. A look at the cache under the read lock
comes before one under the write lock, which is kept while the file is opened; a writer thread
takes the lines of its channel in turn, and writes each in as many pieces as it takes. Of the plain
paths, all that counts is which are equal and which file the system finds for each; two of them may
name one file, and then each has a writer of its own.
-/

namespace Tlsurl.KeyLog

open Library

/-- Where a call of `KeyLog::handle` is. -/
inductive Call (Path : Type) where
  | uncalled
  | called (path : Path)
  | looking (path : Path)
  | missed (path : Path)
  | entering (path : Path)
  | opened (path : Path) (handle : Nat)
  | holding (path : Path) (handle : Nat)
  | failed

/-- The channel of a `Handle`, and what its writer thread has left to write of a line -/
structure Writer (Path : Type) where
  path : Path
  queue : List Str := []
  rest : Str := []

/-- The cache with its lock, the calls, the writers and the files -/
structure State (Path File : Type) where
  cache : Path → Option Nat := fun _ => none
  readers : Nat → Bool := fun _ => false
  writer : Option Nat := none
  calls : Nat → Call Path := fun _ => .uncalled
  writers : Nat → Option (Writer Path) := fun _ => none
  files : File → Str

/-- What can happen: a call of `handle` goes on, a line is sent over the handle of a call, or a
writer thread goes on.
-/
inductive Event (Path : Type) where
  | call (id : Nat) (path : Path)
  | read (id : Nat)
  | look (id : Nat)
  | write (id : Nat)
  | occupied (id : Nat)
  | create (id : Nat) (handle : Option Nat)
  | insert (id : Nat)
  | send (id : Nat) (path : Path) (line : Str)
  | recv (handle : Nat)
  | append (handle : Nat) (count : Nat)
  | fail (handle : Nat)

namespace State

variable {Path File : Type} [DecidableEq Path]

def setCall (state : State Path File) (id : Nat) (call : Call Path) : State Path File :=
  { state with calls := Function.update state.calls id call }

def setWriter (state : State Path File) (handle : Nat) (writer : Writer Path) : State Path File :=
  { state with writers := Function.update state.writers handle (some writer) }

/-- `cache.read()` -/
def read (state : State Path File) (id : Nat) (path : Path) : State Path File :=
  { state with readers := Function.update state.readers id true }.setCall id (.looking path)

/-- `get(path).cloned()`, after which the lock is given back -/
def look (state : State Path File) (id : Nat) (path : Path) : State Path File :=
  { state with readers := Function.update state.readers id false }.setCall id
    (match state.cache path with
    | some handle => .holding path handle
    | none => .missed path)

/-- `cache.write()` -/
def write (state : State Path File) (id : Nat) (path : Path) : State Path File :=
  { state with writer := some id }.setCall id (.entering path)

/-- `Entry::Occupied` -/
def occupied (state : State Path File) (id : Nat) (path : Path) (handle : Nat) : State Path File :=
  { state with writer := none }.setCall id (.holding path handle)

/-- `Handle::new`, which fails or opens the file and starts a writer thread -/
def create (state : State Path File) (id : Nat) (path : Path) : Option Nat → State Path File
  | none => { state with writer := none }.setCall id .failed
  | some handle => (state.setWriter handle { path }).setCall id (.opened path handle)

/-- `entry.insert` -/
def insert (state : State Path File) (id : Nat) (path : Path) (handle : Nat) : State Path File :=
  { state with cache := Function.update state.cache path (some handle), writer := none }.setCall id
    (.holding path handle)

/-- `Handle::write` -/
def send (state : State Path File) (handle : Nat) (writer : Writer Path) (line : Str)
    : State Path File :=
  state.setWriter handle { writer with queue := writer.queue ++ [line ++ [10]] }

/-- A piece of a line goes to the end of a file. -/
def append [DecidableEq File] (state : State Path File) (handle : Nat) (writer : Writer Path)
    (file : File) (count : Nat)
    : State Path File :=
  { state.setWriter handle { writer with rest := writer.rest.drop count } with
    files := Function.update state.files file (state.files file ++ writer.rest.take count) }

end State

variable {Path File : Type} [DecidableEq Path]

/-- One step, where each path has its file. A handle that is new has no writer yet. -/
def Step [DecidableEq File] (file : Path → File) (state : State Path File)
    : Event Path → State Path File → Prop
  | .call id path, next => state.calls id = .uncalled ∧ next = state.setCall id (.called path)
  | .read id, next =>
      ∃ path, state.calls id = .called path ∧ state.writer = none ∧ next = state.read id path
  | .look id, next => ∃ path, state.calls id = .looking path ∧ next = state.look id path
  | .write id, next =>
      ∃ path, state.calls id = .missed path ∧ state.writer = none
        ∧ (∀ reader, state.readers reader = false) ∧ next = state.write id path
  | .occupied id, next =>
      ∃ path handle, state.calls id = .entering path ∧ state.cache path = some handle
        ∧ next = state.occupied id path handle
  | .create id handle, next =>
      ∃ path, state.calls id = .entering path ∧ state.cache path = none
        ∧ (∀ fresh, handle = some fresh → state.writers fresh = none)
        ∧ next = state.create id path handle
  | .insert id, next =>
      ∃ path handle, state.calls id = .opened path handle ∧ next = state.insert id path handle
  | .send id path line, next =>
      ∃ handle writer, state.calls id = .holding path handle
        ∧ state.writers handle = some writer ∧ next = state.send handle writer line
  | .recv handle, next =>
      ∃ writer line queue, state.writers handle = some writer ∧ writer.rest = []
        ∧ writer.queue = line :: queue
        ∧ next = state.setWriter handle { writer with queue, rest := line }
  | .append handle count, next =>
      ∃ writer, state.writers handle = some writer ∧ 0 < count ∧ count ≤ writer.rest.length
        ∧ next = state.append handle writer (file writer.path) count
  | .fail handle, next =>
      ∃ writer, state.writers handle = some writer ∧ writer.rest ≠ []
        ∧ next = state.setWriter handle { writer with rest := [] }

-----------------------------------------------------------------------------------------
-- What a file holds
-----------------------------------------------------------------------------------------

/-- The line that an event sends to the log of a path -/
def Event.line (path : Path) : Event Path → Option Str
  | .send _ sent line => if sent = path then some (line ++ [10]) else none
  | _ => none

/-- The lines sent to the log of a path, in order -/
def sent (path : Path) (events : List (Event Path)) : List Str :=
  events.filterMap (Event.line path)

/-- What an event tells of the lines that a writer has taken: one more is taken, or a write of the
last one fails.
-/
def Event.outcome (handle : Nat) (intact : List Bool) : Event Path → List Bool
  | .recv taking => if taking = handle then intact ++ [true] else intact
  | .fail failing => if failing = handle then intact.dropLast ++ [false] else intact
  | _ => intact

/-- For each line that a writer has taken, whether no write of it has failed -/
def intact (handle : Nat) (events : List (Event Path)) : List Bool :=
  events.foldl (Event.outcome handle) []

/-- The same for the writer of a path -/
def State.intact (state : State Path File) (past : List (Event Path)) (path : Path) : List Bool :=
  match state.cache path with
  | some handle => KeyLog.intact handle past
  | none => []

/-- What the writer of a path has in its channel, and has left of a line -/
def State.pending (state : State Path File) (path : Path) : List Str × Str :=
  match (state.cache path).bind state.writers with
  | some writer => (writer.queue, writer.rest)
  | none => ([], [])

/-- No writer of another path writes to the file of a path. -/
def State.Unshared (file : Path → File) (state : State Path File) (path : Path) : Prop :=
  ∀ handle writer, state.writers handle = some writer → file writer.path = file path
    → writer.path = path

/-- A line that is done, and what of it is in the file: all of it if and only if no write of it has
failed, and else its beginning.
-/
structure Piece where
  line : Str
  intact : Bool
  written : Str
  begins : written <+: line
  whole : intact = true ↔ written = line

/-- A file holds what it held before, and then its lines one after another: those that are done, and
what is begun of one. The others wait in the channel.
-/
def Holds (before : Str) (lines : List Str) (pending : List Str × Str) (intact : List Bool)
    (file : Str)
    : Prop :=
  ∃ (done : List Piece) (begun : Str),
    lines
        = done.map Piece.line ++ (if pending.2 = [] then [] else [begun ++ pending.2]) ++ pending.1
      ∧ intact = done.map Piece.intact ++ (if pending.2 = [] then [] else [true])
      ∧ (pending.2 = [] → begun = [])
      ∧ file = before ++ done.flatMap Piece.written ++ begun

section Files

variable {before file : Str} {lines queue : List Str} {rest : Str} {intact : List Bool}

/-- A line is sent. -/
theorem Holds.send (holds : Holds before lines (queue, rest) intact file) (line : Str)
    : Holds before (lines ++ [line]) (queue ++ [line], rest) intact file := by
  obtain ⟨done, begun, all, others⟩ := holds
  exact ⟨done, begun, by simp [all], others⟩

/-- A line is taken from the channel. -/
theorem Holds.recv {line : Str} (holds : Holds before lines (line :: queue, []) intact file)
    (filled : line ≠ [])
    : Holds before lines (queue, line) (intact ++ [true]) file := by
  obtain ⟨done, begun, all, outcomes, none, same⟩ := holds
  refine ⟨done, [], ?_, ?_, fun _ => rfl, ?_⟩
  · simp [all, filled]
  · simp [outcomes, filled]
  · rw [same, none rfl]

/-- A piece of a line is written. -/
theorem Holds.append (holds : Holds before lines (queue, rest) intact file) {count : Nat}
    (some : 0 < count) (bound : count ≤ rest.length)
    : Holds before lines (queue, rest.drop count) intact (file ++ rest.take count) := by
  obtain ⟨done, begun, all, outcomes, none, same⟩ := holds
  have filled : rest ≠ [] := List.ne_nil_of_length_pos (Nat.lt_of_lt_of_le some bound)
  by_cases last : rest.drop count = []
  · have written : rest.take count = rest := by
      simpa [last] using List.take_append_drop count rest
    let piece : Piece := ⟨begun ++ rest, true, begun ++ rest, List.prefix_refl _, by simp⟩
    refine ⟨done ++ [piece], [], ?_, ?_, fun _ => rfl, ?_⟩
    · simp [all, filled, last, piece]
    · simp [outcomes, filled, last, piece]
    · simp [same, written, piece]
  · refine ⟨done, begun ++ rest.take count, ?_, ?_, fun empty => absurd empty last, ?_⟩
    · simp [all, filled, last]
    · simp [outcomes, filled, last]
    · simp [same]

/-- The rest of a line is lost. -/
theorem Holds.fail (holds : Holds before lines (queue, rest) intact file) (filled : rest ≠ [])
    : Holds before lines (queue, []) (intact.dropLast ++ [false]) file := by
  obtain ⟨done, begun, all, outcomes, none, same⟩ := holds
  let piece : Piece :=
    ⟨begun ++ rest, false, begun, List.prefix_append _ _, by simpa using filled⟩
  refine ⟨done ++ [piece], [], ?_, ?_, fun _ => rfl, ?_⟩
  · simp [all, filled, piece]
  · simp [outcomes, filled, piece]
  · simp [same, piece]

/-- With nothing pending and no failure, a file holds its lines. -/
theorem Holds.idle (holds : Holds before lines ([], []) intact file) (whole : false ∉ intact)
    : file = before ++ lines.flatten := by
  obtain ⟨done, begun, all, outcomes, none, same⟩ := holds
  have written : done.map Piece.written = done.map Piece.line := by
    refine List.map_congr_left (fun piece member => piece.whole.mp ?_)
    have listed : piece.intact ∈ intact := by
      rw [outcomes]
      exact List.mem_append_left _ (List.mem_map_of_mem member)
    cases kept : piece.intact with
    | false => exact absurd (kept ▸ listed) whole
    | true => rfl
  rw [same, none rfl, List.append_nil, List.flatMap_def, written, all]
  simp

end Files

-----------------------------------------------------------------------------------------
-- One writer for each path
-----------------------------------------------------------------------------------------

/-- What holds in every state that is reached: a path of the cache has its writer, a handle that
was returned is the one of the cache, the lock is held by the call that looks or opens under it,
nothing was sent to a writer that is not in the cache, and files hold their lines.
-/
structure State.Sound (file : Path → File) (before : File → Str) (past : List (Event Path))
    (state : State Path File)
    : Prop where
  cached
    : ∀ path handle, state.cache path = some handle
      → ∃ writer, state.writers handle = some writer ∧ writer.path = path
  held : ∀ id path handle, state.calls id = .holding path handle → state.cache path = some handle
  entering : ∀ id path, state.calls id = .entering path → state.writer = some id
  opened
    : ∀ id path handle, state.calls id = .opened path handle
      → state.writer = some id ∧ state.cache path = none
        ∧ state.writers handle = some { path }
  alone
    : ∀ handle writer, state.writers handle = some writer
      → state.cache writer.path = some handle
        ∨ (writer.queue = [] ∧ writer.rest = [] ∧ KeyLog.intact handle past = [])
  fresh : ∀ handle, state.writers handle = none → KeyLog.intact handle past = []
  holds
    : ∀ path, state.Unshared file path
      → Holds (before (file path)) (sent path past) (state.pending path) (state.intact past path)
        (state.files (file path))

section Steps

variable {file : Path → File} {before : File → Str} {past : List (Event Path)}
variable {event : Event Path} {state next : State Path File}

theorem sent_append (path : Path)
    : sent path (past ++ [event]) = sent path past ++ (event.line path).toList := by
  rw [sent, List.filterMap_append]
  cases line : event.line path <;> simp [sent, line]

omit [DecidableEq Path] in
theorem intact_append (handle : Nat)
    : intact handle (past ++ [event]) = event.outcome handle (intact handle past) := by
  rw [intact, List.foldl_append]
  rfl

omit [DecidableEq Path] in
/-- Where the events of its writer tell nothing new, the same lines of a path are intact. -/
theorem State.intact_silent {path : Path}
    (works
      : ∀ handle, state.cache path = some handle
        → event.outcome handle (KeyLog.intact handle past) = KeyLog.intact handle past)
    : state.intact (past ++ [event]) path = state.intact past path := by
  cases listed : state.cache path with
  | none => simp only [State.intact, listed]
  | some handle => simp only [State.intact, listed, intact_append, works handle listed]

/-- No line that was sent is empty. -/
theorem ne_nil_of_mem_sent {path : Path} {line : Str}
    (member : line ∈ sent path past)
    : line ≠ [] := by
  obtain ⟨event, _, made⟩ := List.mem_filterMap.mp member
  cases event with
  | send id named text =>
      simp only [Event.line, Option.ite_none_right_eq_some, Option.some.injEq] at made
      simp [← made.2]
  | _ => cases made

/-- A call goes on, and neither the cache, a writer nor a file changes. -/
theorem State.Sound.call (sound : state.Sound file before past) {id : Nat} {call : Call Path}
    {readers : Nat → Bool} {writer : Option Nat}
    (silent : ∀ path, event.line path = none)
    (works : ∀ handle intact, event.outcome handle intact = intact)
    (held : ∀ path handle, call = .holding path handle → state.cache path = some handle)
    (locked
      : (∃ path, call = .entering path) → writer = some id)
    (unopened : ∀ path handle, call ≠ .opened path handle)
    (excluded
      : ∀ other path, other ≠ id
        → (state.calls other = .entering path ∨ ∃ handle, state.calls other = .opened path handle)
        → writer = state.writer)
    : ({ state with readers, writer }.setCall id call).Sound file before (past ++ [event]) where
  cached := sound.cached
  held other path handle holding := by
    by_cases same : other = id
    · exact held path handle (by simpa [State.setCall, same] using holding)
    · exact sound.held other path handle (by simpa [State.setCall, same] using holding)
  entering other path enters := by
    by_cases same : other = id
    · subst same
      exact locked ⟨path, by simpa [State.setCall] using enters⟩
    · have old : state.calls other = .entering path := by simpa [State.setCall, same] using enters
      exact (excluded other path same (.inl old)).trans (sound.entering other path old)
  opened other path handle opens := by
    by_cases same : other = id
    · exact absurd (by simpa [State.setCall, same] using opens) (unopened path handle)
    · have old : state.calls other = .opened path handle := by
        simpa [State.setCall, same] using opens
      obtain ⟨holder, rest⟩ := sound.opened other path handle old
      exact ⟨(excluded other path same (.inr ⟨handle, old⟩)).trans holder, rest⟩
  alone handle there found := by
    rw [intact_append, works]
    exact sound.alone handle there found
  fresh handle absent := by
    rw [intact_append, works]
    exact sound.fresh handle absent
  holds path unshared := by
    rw [sent_append, silent path, Option.toList_none, List.append_nil]
    rw [State.intact_silent (fun handle _ => works handle _)]
    exact sound.holds path unshared

/-- The writer of a path goes on, or is sent a line; the writers of other paths stay. -/
theorem State.Sound.write (sound : state.Sound file before past) {handle : Nat}
    {writer after : Writer Path} (has : state.writers handle = some writer)
    (cached : state.cache writer.path = some handle) (same : after.path = writer.path)
    (files : File → Str)
    (kept : ∀ other, other ≠ file writer.path → files other = state.files other)
    (silent : ∀ path, path ≠ writer.path → event.line path = none)
    (works : ∀ other intact, other ≠ handle → event.outcome other intact = intact)
    (holds
      : state.Unshared file writer.path
        → Holds (before (file writer.path)) (sent writer.path (past ++ [event]))
          (after.queue, after.rest) (KeyLog.intact handle (past ++ [event]))
          (files (file writer.path)))
    : ({ state.setWriter handle after with files } : State Path File).Sound file before
      (past ++ [event]) where
  cached path other listed := by
    obtain ⟨there, found, names⟩ := sound.cached path other listed
    by_cases here : other = handle
    · subst here
      cases has.symm.trans found
      exact ⟨after, by simp [State.setWriter], same.trans names⟩
    · exact ⟨there, by simpa [State.setWriter, here] using found, names⟩
  held := sound.held
  entering := sound.entering
  opened id path other opens := by
    obtain ⟨holder, absent, fresh⟩ := sound.opened id path other opens
    refine ⟨holder, absent, ?_⟩
    have different : other ≠ handle := by
      rintro rfl
      cases has.symm.trans fresh
      cases absent.symm.trans cached
    simpa [State.setWriter, different] using fresh
  alone other there found := by
    by_cases here : other = handle
    · subst here
      have self : after = there := by simpa [State.setWriter] using found
      rw [← self, same]
      exact .inl cached
    · rw [intact_append, works other _ here]
      exact sound.alone other there (by simpa [State.setWriter, here] using found)
  fresh other absent := by
    have different : other ≠ handle := by
      rintro rfl
      simp [State.setWriter] at absent
    rw [intact_append, works other _ different]
    exact sound.fresh other (by simpa [State.setWriter, different] using absent)
  holds path unshared := by
    have earlier : state.Unshared file path := by
      intro other there found
      by_cases here : other = handle
      · subst here
        cases has.symm.trans found
        rw [← same]
        exact unshared other after (by simp [State.setWriter])
      · exact unshared other there (by simpa [State.setWriter, here] using found)
    by_cases here : path = writer.path
    · subst here
      have pending
          : ({ state.setWriter handle after with files } : State Path File).pending writer.path
            = (after.queue, after.rest) := by
        simp [State.pending, State.setWriter, cached]
      have known
          : ({ state.setWriter handle after with files } : State Path File).intact
              (past ++ [event]) writer.path
            = KeyLog.intact handle (past ++ [event]) := by
        simp [State.intact, State.setWriter, cached]
      rw [pending, known]
      exact holds earlier
    · have elsewhere : state.cache path ≠ some handle := by
        intro listed
        obtain ⟨there, found, names⟩ := sound.cached path handle listed
        cases has.symm.trans found
        exact here names.symm
      have pending : ({ state.setWriter handle after with files } : State Path File).pending path
          = state.pending path := by
        cases listed : state.cache path with
        | none => simp [State.pending, State.setWriter, listed]
        | some other =>
            have different : other ≠ handle := by
              rintro rfl
              exact elsewhere listed
            simp [State.pending, State.setWriter, listed, different]
      have known : state.intact (past ++ [event]) path = state.intact past path := by
        refine State.intact_silent (fun other listed => works other _ ?_)
        rintro rfl
        exact elsewhere listed
      have apart : file path ≠ file writer.path := by
        intro shared
        exact here (earlier handle writer has shared.symm).symm
      rw [pending, sent_append, silent path here, Option.toList_none, List.append_nil]
      show Holds _ _ _ (state.intact (past ++ [event]) path) (files (file path))
      rw [known, kept _ apart]
      exact sound.holds path earlier

/-- A file is opened under the lock, for a path that has no writer. -/
theorem State.Sound.create (sound : state.Sound file before past) {id handle : Nat} {path : Path}
    (enters : state.calls id = .entering path) (empty : state.cache path = none)
    (fresh : state.writers handle = none)
    : (state.create id path (some handle)).Sound file before
      (past ++ [.create id (some handle)]) := by
  have holder := sound.entering id path enters
  have listed {named : Path} {other : Nat} (has : state.cache named = some other)
      : other ≠ handle := by
    rintro rfl
    obtain ⟨writer, found, _⟩ := sound.cached named other has
    cases fresh.symm.trans found
  have quiet (other : Nat)
      : KeyLog.intact other (past ++ [.create id (some handle)]) = KeyLog.intact other past :=
    intact_append other
  constructor
  · intro named other has
    obtain ⟨writer, found, names⟩ := sound.cached named other has
    refine ⟨writer, ?_, names⟩
    simpa [State.create, State.setCall, State.setWriter, listed has] using found
  · intro other named owned holding
    by_cases same : other = id
    · simp [State.create, State.setCall, State.setWriter, same] at holding
    · exact sound.held other named owned
        (by simpa [State.create, State.setCall, State.setWriter, same] using holding)
  · intro other named enters
    by_cases same : other = id
    · simp [State.create, State.setCall, State.setWriter, same] at enters
    · exact sound.entering other named
        (by simpa [State.create, State.setCall, State.setWriter, same] using enters)
  · intro other named owned opens
    by_cases same : other = id
    · subst same
      have both : path = named ∧ handle = owned := by
        simpa [State.create, State.setCall] using opens
      obtain ⟨rfl, rfl⟩ := both
      exact ⟨holder, empty, by simp [State.create, State.setCall, State.setWriter]⟩
    · have old : state.calls other = .opened named owned := by
        simpa [State.create, State.setCall, State.setWriter, same] using opens
      have also := (sound.opened other named owned old).1
      rw [holder] at also
      exact absurd (Option.some.inj also).symm same
  · intro other writer found
    rw [quiet]
    by_cases same : other = handle
    · have made : ({ path } : Writer Path) = writer := by
        simpa [State.create, State.setCall, State.setWriter, same] using found
      rw [← made, same]
      exact .inr ⟨rfl, rfl, sound.fresh handle fresh⟩
    · refine sound.alone other writer ?_
      simpa [State.create, State.setCall, State.setWriter, same] using found
  · intro other absent
    have different : other ≠ handle := by
      rintro rfl
      simp [State.create, State.setCall, State.setWriter] at absent
    rw [quiet]
    refine sound.fresh other ?_
    simpa [State.create, State.setCall, State.setWriter, different] using absent
  · intro named unshared
    have pending : (state.create id path (some handle)).pending named = state.pending named := by
      cases has : state.cache named with
      | none => simp [State.pending, State.create, State.setCall, State.setWriter, has]
      | some other =>
          simp [State.pending, State.create, State.setCall, State.setWriter, has, listed has]
    have known
        : (state.create id path (some handle)).intact (past ++ [.create id (some handle)]) named
          = state.intact past named := by
      simp [State.intact, State.create, State.setCall, State.setWriter, quiet]
    have earlier : state.Unshared file named := by
      intro other writer found
      have different : other ≠ handle := by
        rintro rfl
        cases fresh.symm.trans found
      refine unshared other writer ?_
      simpa [State.create, State.setCall, State.setWriter, different] using found
    rw [pending, known, sent_append]
    simp only [Event.line, Option.toList_none, List.append_nil]
    exact sound.holds named earlier

/-- The handle of an opened file comes into the cache. -/
theorem State.Sound.insert (sound : state.Sound file before past) {id handle : Nat} {path : Path}
    (opens : state.calls id = .opened path handle)
    : (state.insert id path handle).Sound file before (past ++ [.insert id]) := by
  obtain ⟨holder, empty, fresh⟩ := sound.opened id path handle opens
  have listed {named : Path} (other : named ≠ path)
      : (state.insert id path handle).cache named = state.cache named := by
    simp [State.insert, State.setCall, other]
  have quiet (other : Nat)
      : KeyLog.intact other (past ++ [.insert id]) = KeyLog.intact other past :=
    intact_append other
  constructor
  · intro named other has
    by_cases same : named = path
    · subst same
      have self : handle = other := by simpa [State.insert, State.setCall] using has
      subst self
      exact ⟨_, fresh, rfl⟩
    · rw [listed same] at has
      exact sound.cached named other has
  · intro other named owned holding
    by_cases same : other = id
    · have both : path = named ∧ handle = owned := by
        simpa [State.insert, State.setCall, same] using holding
      obtain ⟨rfl, rfl⟩ := both
      simp [State.insert, State.setCall]
    · have old := sound.held other named owned
        (by simpa [State.insert, State.setCall, same] using holding)
      have different : named ≠ path := by
        rintro rfl
        cases empty.symm.trans old
      rwa [listed different]
  · intro other named enters
    by_cases same : other = id
    · simp [State.insert, State.setCall, same] at enters
    · have also := sound.entering other named
        (by simpa [State.insert, State.setCall, same] using enters)
      rw [holder] at also
      exact absurd (Option.some.inj also).symm same
  · intro other named owned opens
    by_cases same : other = id
    · simp [State.insert, State.setCall, same] at opens
    · have old : state.calls other = .opened named owned := by
        simpa [State.insert, State.setCall, same] using opens
      have also := (sound.opened other named owned old).1
      rw [holder] at also
      exact absurd (Option.some.inj also).symm same
  · intro other writer found
    rw [quiet]
    rcases sound.alone other writer found with has | still
    · refine .inl ?_
      have different : writer.path ≠ path := by
        intro same
        rw [same] at has
        cases empty.symm.trans has
      rwa [listed different]
    · exact .inr still
  · intro other absent
    rw [quiet]
    exact sound.fresh other absent
  · intro named unshared
    have pending : (state.insert id path handle).pending named = state.pending named := by
      by_cases same : named = path
      · simp [State.pending, State.insert, State.setCall, same, empty, fresh]
      · simp [State.pending, State.insert, State.setCall, same]
    have known
        : (state.insert id path handle).intact (past ++ [.insert id]) named
          = state.intact past named := by
      by_cases same : named = path
      · have none := (sound.alone handle _ fresh).resolve_left (by simp [empty])
        simp [State.intact, State.insert, State.setCall, same, empty, quiet, none.2.2]
      · simp [State.intact, State.insert, State.setCall, same, quiet]
    rw [pending, known, sent_append]
    simp only [Event.line, Option.toList_none, List.append_nil]
    exact sound.holds named unshared

/-- A call that is new goes on without the lock, or under that of a reader. -/
theorem State.Sound.reads (sound : state.Sound file before past) {id : Nat} {call : Call Path}
    {readers : Nat → Bool} (silent : ∀ path, event.line path = none)
    (works : ∀ handle intact, event.outcome handle intact = intact)
    (held : ∀ path handle, call = .holding path handle → state.cache path = some handle)
    (outside : ∀ path, call ≠ .entering path ∧ ∀ handle, call ≠ .opened path handle)
    : ({ state with readers }.setCall id call).Sound file before (past ++ [event]) :=
  sound.call silent works held (fun ⟨path, enters⟩ => absurd enters (outside path).1)
    (fun path => (outside path).2) (fun _ _ _ _ => rfl)

/-- Each step keeps the state in order. -/
theorem Step.sound [DecidableEq File] (step : Step file state event next)
    (sound : state.Sound file before past)
    : next.Sound file before (past ++ [event]) := by
  have sole {id other : Nat} {path named : Path} (mine : state.calls id = .entering path)
      (also
        : state.calls other = .entering named
          ∨ ∃ handle, state.calls other = .opened named handle)
      : other = id := by
    have holder := sound.entering id path mine
    rcases also with enters | ⟨handle, opens⟩
    · exact Option.some.inj ((sound.entering other named enters).symm.trans holder)
    · exact Option.some.inj ((sound.opened other named handle opens).1.symm.trans holder)
  have holding {handle : Nat} {writer : Writer Path}
      (cached : state.cache writer.path = some handle) (has : state.writers handle = some writer)
      (unshared : state.Unshared file writer.path)
      : Holds (before (file writer.path)) (sent writer.path past) (writer.queue, writer.rest)
        (KeyLog.intact handle past) (state.files (file writer.path)) := by
    have holds := sound.holds writer.path unshared
    simpa only [State.pending, State.intact, cached, has, Option.bind_some] using holds
  cases event with
  | call id path =>
      obtain ⟨_, rfl⟩ := step
      exact sound.reads (fun _ => rfl) (fun _ _ => rfl) (by simp) (by simp)
  | read id =>
      obtain ⟨path, _, _, rfl⟩ := step
      exact sound.reads (fun _ => rfl) (fun _ _ => rfl) (by simp) (by simp)
  | look id =>
      obtain ⟨path, _, rfl⟩ := step
      refine sound.reads (fun _ => rfl) (fun _ _ => rfl) ?_ ?_
      · intro named handle holding
        split at holding
        · next has =>
            cases holding
            exact has
        · cases holding
      · intro named
        split <;> simp
  | write id =>
      obtain ⟨path, _, free, _, rfl⟩ := step
      refine sound.call (fun _ => rfl) (fun _ _ => rfl) (by simp) (fun _ => rfl) (by simp) ?_
      intro other named _ inside
      rcases inside with enters | ⟨handle, opens⟩
      · have holder := sound.entering other named enters
        cases free.symm.trans holder
      · have holder := (sound.opened other named handle opens).1
        cases free.symm.trans holder
  | occupied id =>
      obtain ⟨path, handle, enters, has, rfl⟩ := step
      refine sound.call (fun _ => rfl) (fun _ _ => rfl) ?_ (by simp) (by simp) ?_
      · intro named owned holding
        cases holding
        exact has
      · exact fun other named different inside => absurd (sole enters inside) different
  | create id made =>
      obtain ⟨path, enters, empty, fresh, rfl⟩ := step
      cases made with
      | none =>
          refine sound.call (fun _ => rfl) (fun _ _ => rfl) (by simp) (by simp) (by simp) ?_
          exact fun other named different inside => absurd (sole enters inside) different
      | some handle => exact sound.create enters empty (fresh handle rfl)
  | insert id =>
      obtain ⟨path, handle, opens, rfl⟩ := step
      exact sound.insert opens
  | send id path line =>
      obtain ⟨handle, writer, owns, has, rfl⟩ := step
      have cached := sound.held id path handle owns
      obtain ⟨there, found, names⟩ := sound.cached path handle cached
      cases has.symm.trans found
      subst names
      refine sound.write has cached ?_ state.files (fun _ _ => rfl) ?_ (fun _ _ _ => rfl) ?_
      · rfl
      · intro named different
        simp [Event.line, Ne.symm different]
      · intro unshared
        rw [sent_append, intact_append]
        simp only [Event.line, if_true, Option.toList_some]
        exact (holding cached has unshared).send (line ++ [10])
  | recv handle =>
      obtain ⟨writer, line, queue, has, idle, taken, rfl⟩ := step
      have cached := (sound.alone handle writer has).resolve_right (by simp [taken])
      refine sound.write has cached ?_ state.files (fun _ _ => rfl) (fun _ _ => rfl) ?_ ?_
      · rfl
      · exact fun other _ different => if_neg different.symm
      · intro unshared
        have holds := holding cached has unshared
        rw [taken, idle] at holds
        have filled : line ≠ [] := by
          obtain ⟨done, begun, all, _⟩ := holds
          exact ne_nil_of_mem_sent (show line ∈ sent writer.path past by simp [all])
        rw [sent_append, intact_append]
        simp only [Event.line, Event.outcome, if_true, Option.toList_none, List.append_nil]
        exact holds.recv filled
  | append handle count =>
      obtain ⟨writer, has, some, bound, rfl⟩ := step
      have filled : writer.rest ≠ [] :=
        List.ne_nil_of_length_pos (Nat.lt_of_lt_of_le some bound)
      have cached := (sound.alone handle writer has).resolve_right (by simp [filled])
      refine sound.write has cached ?_ _ ?_ (fun _ _ => rfl) (fun _ _ _ => rfl) ?_
      · rfl
      · exact fun other different => Function.update_of_ne different _ _
      · intro unshared
        rw [sent_append, intact_append, Function.update_self]
        simp only [Event.line, Option.toList_none, List.append_nil]
        exact (holding cached has unshared).append some bound
  | fail handle =>
      obtain ⟨writer, has, filled, rfl⟩ := step
      have cached := (sound.alone handle writer has).resolve_right (by simp [filled])
      refine sound.write has cached ?_ state.files (fun _ _ => rfl) (fun _ _ => rfl) ?_ ?_
      · rfl
      · exact fun other _ different => if_neg different.symm
      · intro unshared
        rw [sent_append, intact_append]
        simp only [Event.line, Event.outcome, if_true, Option.toList_none, List.append_nil]
        exact (holding cached has unshared).fail filled

/-- Before the first call, files hold what they held. -/
theorem State.sound_new : ({ files := before } : State Path File).Sound file before [] where
  cached _ _ has := by cases has
  held _ _ _ holding := by cases holding
  entering _ _ enters := by cases enters
  opened _ _ _ opens := by cases opens
  alone _ _ found := by cases found
  fresh _ _ := rfl
  holds path _ := ⟨[], [], rfl, rfl, fun _ => rfl, by simp⟩

/-- However calls and writers interleave, all handles that were returned for a path are one. Unless
another path has a writer of the same file, its file holds the lines that were sent over the handle,
one after another and in this order, each whole, or cut if a write of this line failed; and once the
writer is idle and no write has failed it holds just these.
-/
theorem lines_stay_whole [DecidableEq File]
    (run : Run (Step file) { files := before } past state) (path : Path)
    : (∀ id other handle owned, state.calls id = .holding path handle
        → state.calls other = .holding path owned → handle = owned)
      ∧ (state.Unshared file path
        → Holds (before (file path)) (sent path past) (state.pending path)
            (state.intact past path) (state.files (file path))
          ∧ (state.pending path = ([], []) → false ∉ state.intact past path
            → state.files (file path) = before (file path) ++ (sent path past).flatten)) := by
  have sound : state.Sound file before past :=
    run.history (fun sound step => step.sound sound) State.sound_new
  refine ⟨fun id other handle owned mine theirs => ?_, fun unshared => ?_⟩
  · have cached := sound.held id path handle mine
    have also := sound.held other path owned theirs
    exact Option.some.inj (cached.symm.trans also)
  · have holds := sound.holds path unshared
    refine ⟨holds, fun idle whole => ?_⟩
    rw [idle] at holds
    exact holds.idle whole

end Steps

-----------------------------------------------------------------------------------------
-- A race
-----------------------------------------------------------------------------------------

/-- Two calls for one path, neither of which finds a handle before the other has looked -/
def looked : State Unit Unit :=
  ({ files := fun _ => [] } : State Unit Unit).setCall 0 (.called ()) |>.setCall 1 (.called ())
    |>.read 0 () |>.read 1 () |>.look 0 () |>.look 1 ()

def looking : List (Event Unit) := [.call 0 (), .call 1 (), .read 0, .read 1, .look 0, .look 1]

theorem looked_run : Run (Step id) { files := fun _ => [] } looking looked := by
  apply Run.cons
  · exact ⟨rfl, rfl⟩
  apply Run.cons
  · exact ⟨rfl, rfl⟩
  apply Run.cons
  · exact ⟨(), rfl, rfl, rfl⟩
  apply Run.cons
  · exact ⟨(), rfl, rfl, rfl⟩
  apply Run.cons
  · exact ⟨(), rfl, rfl⟩
  apply Run.cons
  · exact ⟨(), rfl, rfl⟩
  exact .nil

/-- One of the calls opens the file, and the other finds its handle. -/
def raced : State Unit Unit :=
  looked.write 0 () |>.create 0 () (some 0) |>.insert 0 () 0 |>.write 1 () |>.occupied 1 () 0

def racing : List (Event Unit) :=
  [.write 0, .create 0 (some 0), .insert 0, .write 1, .occupied 1]

theorem looked_unread (reader : Nat) : looked.readers reader = false := by
  rcases reader with _ | _ | reader <;> rfl

theorem raced_run : Run (Step id) looked racing raced := by
  apply Run.cons
  · exact ⟨(), rfl, rfl, looked_unread, rfl⟩
  apply Run.cons
  · exact ⟨(), rfl, rfl, fun _ _ => rfl, rfl⟩
  apply Run.cons
  · exact ⟨(), 0, rfl, rfl⟩
  apply Run.cons
  · exact ⟨(), rfl, rfl, looked_unread, rfl⟩
  apply Run.cons
  · exact ⟨(), 0, rfl, rfl, rfl⟩
  exact .nil

/-- What follows differs in the writer and in the file. -/
def logging (queue : List Str) (rest file : Str) : State Unit Unit :=
  { raced.setWriter 0 { path := (), queue, rest } with files := fun _ => file }

theorem logging_setWriter {queue later : List Str} {rest left file : Str}
    : (logging queue rest file).setWriter 0 { path := (), queue := later, rest := left }
      = logging later left file := by
  simp only [logging, State.setWriter, Function.update_idem]

theorem logging_append {queue : List Str} {rest file : Str} {count : Nat}
    : (logging queue rest file).append 0 { path := (), queue, rest } () count
      = logging queue (rest.drop count) (file ++ rest.take count) := by
  rw [State.append, logging_setWriter]
  exact congrArg (State.mk _ _ _ _ _) (funext (fun _ => Function.update_self _ _ _))

theorem raced_eq : raced = logging [] [] [] :=
  congrArg (State.mk _ _ _ _ · _) (Function.update_idem _ _ _).symm

/-- Both calls send a line, of the first of which a byte is written and the rest is lost. -/
theorem torn_run
    : Run (Step id) raced [.send 0 () [65], .recv 0, .append 0 1, .send 1 () [66], .fail 0]
        (logging [[66, 10]] [] [65]) := by
  rw [raced_eq]
  apply Run.cons
  · exact ⟨0, { path := () }, rfl, rfl, logging_setWriter.symm⟩
  apply Run.cons
  · exact ⟨{ path := (), queue := [[65, 10]] }, _, [], rfl, rfl, rfl, logging_setWriter.symm⟩
  apply Run.cons
  · exact ⟨{ path := (), rest := [65, 10] }, rfl, by decide, by decide, logging_append.symm⟩
  apply Run.cons
  · exact ⟨0, { path := (), rest := [10] }, rfl, rfl, logging_setWriter.symm⟩
  apply Run.cons
  · exact ⟨{ path := (), queue := [[66, 10]], rest := [10] }, rfl, by decide,
      logging_setWriter.symm⟩
  exact .nil

/-- The second line is written in one piece. -/
theorem written_run
    : Run (Step id) (logging [[66, 10]] [] [65]) [.recv 0, .append 0 2]
        (logging [] [] [65, 66, 10]) := by
  apply Run.cons
  · exact ⟨{ path := (), queue := [[66, 10]] }, _, [], rfl, rfl, rfl, logging_setWriter.symm⟩
  apply Run.cons
  · exact ⟨{ path := (), rest := [66, 10] }, rfl, by decide, by decide, logging_append.symm⟩
  exact .nil

/-- The first line is cut, since its own write has failed, and the second is whole. -/
theorem lines_stay_whole_raced
    : Holds [] [[65, 10], [66, 10]] ([], []) [false, true] [65, 66, 10] := by
  have run : Run (Step id) { files := fun _ => [] } _ (logging [] [] [65, 66, 10]) :=
    ((looked_run.append raced_run).append torn_run).append written_run
  exact ((lines_stay_whole run ()).2 (fun _ _ _ _ => rfl)).1

end Tlsurl.KeyLog
