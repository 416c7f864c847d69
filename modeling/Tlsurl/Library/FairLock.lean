import Mathlib.Data.List.Nodup
import Mathlib.Logic.Function.Basic

/-! A mutex that serves its waiters in the order of arrival.
Whoever lets go hands the lock to the first waiter, which owns it before it has noticed.
-/

namespace Tlsurl.Library

/-- The tasks in line for a lock. The first of them has it. -/
structure FairLock (Task : Type*) where
  order : List Task
  distinct : order.Nodup

/-- Where a task is with respect to a lock: not in line, in line without having noticed its
turn, or past the lock.
-/
inductive Station where
  | away
  | waiting
  | inside
  deriving DecidableEq

namespace FairLock

variable {Task : Type*}

/-- A lock that nobody asked for. -/
def free : FairLock Task := ⟨[], List.nodup_nil⟩

/-- The task that has the lock. -/
def holder (lock : FairLock Task) : Option Task := lock.order.head?

def isFree (lock : FairLock Task) : Bool := lock.order.isEmpty

/-- A lock that is taken at once, if it is free. -/
def tryLock (lock : FairLock Task) (task : Task) : Option (FairLock Task) :=
  if lock.isFree then some ⟨[task], List.nodup_singleton task⟩ else none

variable [DecidableEq Task]

/-- A task gets in line, unless it is there. -/
def join (lock : FairLock Task) (task : Task) : FairLock Task :=
  if present : task ∈ lock.order then lock
  else ⟨lock.order ++ [task], List.nodup_append.mpr
    ⟨lock.distinct, List.nodup_singleton task, fun other old _ new =>
      fun same => present (by rw [← List.mem_singleton.mp new, ← same]; exact old)⟩⟩

/-- A task leaves the line. If it had the lock, the next in line has it now. -/
def leave (lock : FairLock Task) (task : Task) : FairLock Task :=
  ⟨lock.order.erase task, lock.distinct.erase task⟩

-----------------------------------------------------------------------------------------
-- Who has the lock
-----------------------------------------------------------------------------------------

omit [DecidableEq Task] in
@[simp] theorem holder_free : (free : FairLock Task).holder = none := rfl

omit [DecidableEq Task] in
theorem isFree_iff {lock : FairLock Task} : lock.isFree = true ↔ lock.holder = none := by
  simp [isFree, holder]

omit [DecidableEq Task] in
/-- The holder of a lock is in line. -/
theorem mem_of_holder {lock : FairLock Task} {task : Task} (has : lock.holder = some task)
    : task ∈ lock.order :=
  List.mem_of_head? has

omit [DecidableEq Task] in
/-- A lock that is taken at once was free, and has its taker as the only task in line. -/
theorem tryLock_some {lock after : FairLock Task} {task : Task}
    (taken : lock.tryLock task = some after)
    : lock.order = [] ∧ after.order = [task] := by
  unfold tryLock at taken
  split at taken
  · next empty =>
      cases taken
      exact ⟨by simpa [isFree] using empty, rfl⟩
  · cases taken

omit [DecidableEq Task] in
/-- A lock that cannot be taken at once has a holder. -/
theorem tryLock_none {lock : FairLock Task} {task : Task} (refused : lock.tryLock task = none)
    : ∃ other, lock.holder = some other := by
  cases holds : lock.holder with
  | some other => exact ⟨other, rfl⟩
  | none => simp [tryLock, isFree_iff.mpr holds] at refused

theorem order_join {lock : FairLock Task} {task : Task} (absent : task ∉ lock.order)
    : (lock.join task).order = lock.order ++ [task] := by
  simp [join, absent]

/-- Who gets in line does not change who has the lock, unless nobody had it. -/
theorem holder_join {lock : FairLock Task} {task : Task} (absent : task ∉ lock.order)
    : (lock.join task).holder = if lock.isFree then some task else lock.holder := by
  rw [holder, order_join absent, isFree, holder]
  cases lock.order <;> rfl

theorem mem_leave {lock : FairLock Task} {task other : Task}
    : other ∈ (lock.leave task).order ↔ other ≠ task ∧ other ∈ lock.order :=
  lock.distinct.mem_erase_iff

/-- A waiter that leaves does not change who has the lock. -/
theorem holder_leave_ne {lock : FairLock Task} {task other : Task} (different : other ≠ task)
    (has : lock.holder = some other)
    : (lock.leave task).holder = some other := by
  obtain ⟨rest, order⟩ : ∃ rest, lock.order = other :: rest := List.head?_eq_some_iff.mp has
  simp [holder, leave, order, List.erase_cons_tail, different]

/-- If nobody gets the lock from its holder, the holder was alone in line. -/
theorem holder_leave_none {lock : FairLock Task} {task : Task} (has : lock.holder = some task)
    (last : (lock.leave task).holder = none)
    : lock.order = [task] := by
  obtain ⟨rest, order⟩ : ∃ rest, lock.order = task :: rest := List.head?_eq_some_iff.mp has
  have empty : rest = [] := by simpa [holder, leave, order] using last
  rw [order, empty]

-----------------------------------------------------------------------------------------
-- Tasks and their places
-----------------------------------------------------------------------------------------

/-- A lock and the places of the tasks agree: who is in line is not away, and only the holder
is past the lock.
-/
structure Tracks (lock : FairLock Task) (station : Task → Station) : Prop where
  member : ∀ task, task ∈ lock.order ↔ station task ≠ .away
  holds : ∀ task, station task = .inside → lock.holder = some task

variable {lock : FairLock Task} {station : Task → Station} {task : Task}

omit [DecidableEq Task] in
theorem tracks_free (away : ∀ task, station task = .away) : (free : FairLock Task).Tracks station
    where
  member task := by simp [free, away task]
  holds task inside := by simp [away task] at inside

omit [DecidableEq Task] in
/-- Two tasks are never both past the lock. -/
theorem Tracks.exclusive (tracks : lock.Tracks station) {other : Task}
    (first : station task = .inside) (second : station other = .inside)
    : task = other :=
  Option.some.inj ((tracks.holds task first).symm.trans (tracks.holds other second))

omit [DecidableEq Task] in
/-- The holder waits for its turn or is past the lock. -/
theorem Tracks.holder_present (tracks : lock.Tracks station) (has : lock.holder = some task)
    : station task = .waiting ∨ station task = .inside := by
  have present := (tracks.member task).mp (mem_of_holder has)
  cases place : station task with
  | away => exact absurd place present
  | waiting => exact .inl rfl
  | inside => exact .inr rfl

omit [DecidableEq Task] in
/-- The first waiter notices that it has the lock. -/
theorem Tracks.enter [DecidableEq Task] (tracks : lock.Tracks station)
    (has : lock.holder = some task)
    : lock.Tracks (Function.update station task .inside) where
  member other := by
    by_cases same : other = task
    · subst same
      simpa using mem_of_holder has
    · simpa [same] using tracks.member other
  holds other inside := by
    by_cases same : other = task
    · rw [same]
      exact has
    · exact tracks.holds other (by simpa [same] using inside)

/-- A task that was away gets in line. -/
theorem Tracks.join (tracks : lock.Tracks station) (away : station task = .away)
    : (lock.join task).Tracks (Function.update station task .waiting) := by
  have absent : task ∉ lock.order := fun present => (tracks.member task).mp present away
  refine ⟨fun other => ?_, fun other inside => ?_⟩
  · rw [order_join absent]
    by_cases same : other = task
    · subst same
      simp
    · simpa [same] using tracks.member other
  · by_cases same : other = task
    · simp [same] at inside
    · have has := tracks.holds other (by simpa [same] using inside)
      rw [holder_join absent, has]
      simp [isFree_iff, has]

omit [DecidableEq Task] in
/-- A task that was away takes a free lock at once. -/
theorem Tracks.tryLock [DecidableEq Task] (tracks : lock.Tracks station) {after : FairLock Task}
    (taken : lock.tryLock task = some after)
    : after.Tracks (Function.update station task .inside) := by
  obtain ⟨empty, single⟩ := tryLock_some taken
  refine ⟨fun other => ?_, fun other inside => ?_⟩
  · rw [single]
    by_cases same : other = task
    · simp [same]
    · simpa [same, empty] using tracks.member other
  · by_cases same : other = task
    · simp [holder, single, same]
    · have present := tracks.holds other (by simpa [same] using inside)
      simp [holder, empty] at present

/-- A task that leaves is away. -/
theorem Tracks.leave (tracks : lock.Tracks station)
    : (lock.leave task).Tracks (Function.update station task .away) where
  member other := by
    rw [mem_leave]
    by_cases same : other = task
    · simp [same]
    · simpa [same] using tracks.member other
  holds other inside := by
    by_cases same : other = task
    · simp [same] at inside
    · exact holder_leave_ne same (tracks.holds other (by simpa [same] using inside))

/-- Who gets the lock from its holder has waited for it. -/
theorem Tracks.next_waits (tracks : lock.Tracks station) {other : Task}
    (has : lock.holder = some task) (next : (lock.leave task).holder = some other)
    : other ≠ task ∧ station other = .waiting := by
  obtain ⟨different, present⟩ := mem_leave.mp (mem_of_holder next)
  refine ⟨different, ?_⟩
  cases place : station other with
  | away => exact absurd place ((tracks.member other).mp present)
  | waiting => rfl
  | inside =>
      cases has.symm.trans (tracks.holds other place)
      exact absurd rfl different

end FairLock

end Tlsurl.Library
