import Tlsurl.Pool.Handout
import Tlsurl.Pool.Keys
import Tlsurl.Pool.Uses

/-! Exclusive use of connections that are not shared.
Such a connection is idle, on its way to a checkout, or in use, and only one of these; it
serves the key it was opened for, and does not come back once it was dropped closed.
-/

namespace Tlsurl.Pool

open Library

variable {K : Type} [DecidableEq K]

/-- A connection that is not shared is in one place at most, and in none before it is opened.
-/
def InOnePlace (value : ConnId) (state : State K) : Prop :=
  state.canShare value = false → state.uses value ≤ wasOpened value state

theorem run_inOnePlace {config : Config} {timerIsEmpty : Bool} {events : List (Event K)}
    {state : State K} (run : Run Step (State.new config timerIsEmpty) events state)
    (value : ConnId)
    : InOnePlace value state := by
  apply run.invariant
  · intro _ before event after _ bounded step unique
    have earlier := bounded (step.grown.canShare unique)
    have moved := step.uses_le value unique
    omega
  · intro _
    unfold State.new
    split <;> exact Nat.zero_le _

theorem InOnePlace.uses_le_one {value : ConnId} {state : State K}
    (once : InOnePlace value state) (unique : state.canShare value = false)
    : state.uses value ≤ 1 := by
  have bound := once unique
  unfold wasOpened at bound
  split at bound <;> omega

/-- A connection that is in no place stays in none. -/
theorem run_stays_out {state later : State K} {events : List (Event K)}
    (run : Run Step state events later) {value : ConnId} {conn : Conn K}
    (found : state.conns.get? value = some conn) (unique : conn.http2 = false)
    (gone : state.uses value = 0)
    : later.uses value = 0 := by
  induction run with
  | nil => exact gone
  | @snoc events middle event finish earlier last ih =>
      obtain ⟨held, foundHeld, _, http2, _⟩ := (run_grown earlier).kept value conn found
      obtain ⟨kept, foundKept, _, sameHttp2, _⟩ := last.grown.kept value held foundHeld
      have notShared : finish.canShare value = false := by
        simp [State.canShare, foundKept, sameHttp2, http2, unique]
      have moved := last.uses_le value notShared
      have one : wasOpened value middle = 1 := if_pos (Table.lt_size foundHeld)
      have still : wasOpened value finish = 1 := if_pos (Table.lt_size foundKept)
      omega

/-- A live handle is a use. -/
theorem one_le_uses {state : State K} {id : Nat} {pooled : Pooled K}
    (found : state.pooleds.get? id = some pooled)
    : 1 ≤ state.pooleds.weight (pooledUses pooled.value) := by
  have held := Table.le_weight (pooledUses pooled.value) found
  simpa [pooledUses, oneIf] using held

/-- A connection that is not shared and that a checkout resolves to has no handle yet. -/
theorem poll_ok_unused {config : Config} {timerIsEmpty : Bool} {events : List (Event K)}
    {state next : State K} (run : Run Step (State.new config timerIsEmpty) events state)
    {id : Nat} {value : ConnId} {idleSince : Option Time}
    (step : Step state (.poll id (.ok value idleSince)) next)
    (unique : state.canShare value = false)
    : ∀ other pooled, state.pooleds.get? other = some pooled → pooled.value ≠ value := by
  intro other pooled found same
  subst same
  have after := run_inOnePlace (run.snoc step) pooled.value
  obtain ⟨checkout, _, _, polled⟩ := step
  obtain ⟨_, _, pool, pooleds⟩ := State.poll_ok polled
  have conns : next.conns = state.conns := by
    have same := state.poll_conns id checkout
    rwa [polled] at same
  have once := after.uses_le_one (by simpa only [State.canShare, conns] using unique)
  have held := one_le_uses found
  simp only [State.uses, pooleds, Table.weight_alloc, pooledUses, oneIf, if_true] at once held
  omega

/-- In every run, a connection that is not shared is in at most one of an idle slot, a channel
and a live handle, so that a checkout never gets one that is in use; checkouts and handles
have connections of their key; and a connection that was closed when its handle was dropped
is in none of these places ever after.
-/
theorem unique_connections_exclusive {config : Config} {timerIsEmpty : Bool}
    {events : List (Event K)} {state : State K}
    (run : Run Step (State.new config timerIsEmpty) events state)
    : (∀ value, state.canShare value = false → state.uses value ≤ 1)
      ∧ (∀ id value idleSince next, Step state (.poll id (.ok value idleSince)) next
        → (state.canShare value = false
            → ∀ other pooled, state.pooleds.get? other = some pooled → pooled.value ≠ value)
          ∧ ∃ checkout, state.checkouts.get? id = some checkout
              ∧ openedFor state.conns value = some checkout.key)
      ∧ (∀ id pooled, state.pooleds.get? id = some pooled
        → openedFor state.conns pooled.value = some pooled.key)
      ∧ (∀ closing id pooled next later after, state.pooleds.get? id = some pooled
        → state.canShare pooled.value = false → state.isOpen pooled.value = false
        → Step state (.dropPooled closing id) next → Run Step next later after
        → after.uses pooled.value = 0) := by
  have keyed := run_keyed run
  refine ⟨?_, ?_, keyed.pooleds, ?_⟩
  · intro value unique
    exact (run_inOnePlace run value).uses_le_one unique
  · intro id value idleSince next step
    exact ⟨poll_ok_unused run step, step.poll_opened keyed⟩
  · intro closing id pooled next later after found unique closed step rest
    obtain ⟨handle, foundHandle, rfl⟩ := step
    cases found.symm.trans foundHandle
    obtain ⟨conn, foundConn, _⟩ := Option.map_eq_some_iff.mp (keyed.pooleds id pooled found)
    have http2 : conn.http2 = false := by simpa [State.canShare, foundConn] using unique
    have dropped := state.uses_dropPooled_le pooled.value closing found unique
    have once := (run_inOnePlace run pooled.value).uses_le_one unique
    have own : oneIf pooled.value pooled.value = 1 := if_pos rfl
    simp only [closed, Bool.false_eq_true, if_false] at dropped
    exact run_stays_out rest (by rwa [State.dropPooled_conns]) http2 (by omega)

/-- The connection of host 7 has gone idle and is in that one place. -/
theorem unique_connections_exclusive_sample
    : 1 ≤ sampleIdle.uses 0 ∧ sampleIdle.uses 0 ≤ 1 :=
  ⟨by decide, (unique_connections_exclusive sampleIdle_run).1 0 rfl⟩

end Tlsurl.Pool
