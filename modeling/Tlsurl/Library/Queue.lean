import Mathlib.Data.List.Basic
import Mathlib.Data.List.TakeWhile

/-! Queues whose members leave from anywhere and whose newcomers line up at the end.
Nobody gets ahead of a member that stays.
-/

namespace Tlsurl.Library.Queue

variable {A : Type*}

-----------------------------------------------------------------------------------------
-- Change of a queue
-----------------------------------------------------------------------------------------

/-- A queue after members have left and newcomers have lined up -/
def Follows (fresh : A → Prop) (before after : List A) : Prop :=
  ∃ kept newcomers, after = kept ++ newcomers ∧ kept.Sublist before
    ∧ ∀ other ∈ newcomers, fresh other

variable {fresh : A → Prop} {before middle after : List A}

theorem Follows.of_sublist (part : after.Sublist before) : Follows fresh before after :=
  ⟨after, [], by simp, part, by simp⟩

theorem Follows.refl (queue : List A) : Follows fresh queue queue :=
  .of_sublist (List.Sublist.refl queue)

theorem Follows.push {member : A} (new : fresh member)
    : Follows fresh before (before ++ [member]) :=
  ⟨before, [member], rfl, List.Sublist.refl before, by simpa using new⟩

theorem Follows.trans (first : Follows fresh before middle) (second : Follows fresh middle after)
    : Follows fresh before after := by
  obtain ⟨kept, newcomers, rfl, part, new⟩ := first
  obtain ⟨keptLater, latecomers, rfl, partLater, newLater⟩ := second
  obtain ⟨old, young, rfl, oldPart, youngPart⟩ := List.sublist_append_iff.mp partLater
  refine ⟨old, young ++ latecomers, by simp, oldPart.trans part, ?_⟩
  intro other member
  rcases List.mem_append.mp member with inYoung | late
  · exact new other (youngPart.subset inYoung)
  · exact newLater other late

-----------------------------------------------------------------------------------------
-- Who is ahead
-----------------------------------------------------------------------------------------

variable [DecidableEq A]

/-- Who is ahead of a member -/
def ahead (queue : List A) (member : A) : List A := queue.takeWhile (fun other => other ≠ member)

@[simp] theorem ahead_cons (head : A) (queue : List A) (member : A)
    : ahead (head :: queue) member = if head = member then [] else head :: ahead queue member := by
  by_cases same : head = member <;> simp [ahead, same]

/-- Nobody behind a member is ahead of it. -/
theorem ahead_append {queue : List A} {member : A} (there : member ∈ queue) (behind : List A)
    : ahead (queue ++ behind) member = ahead queue member := by
  induction queue with
  | nil => cases there
  | cons head queue ih =>
      rw [List.cons_append, ahead_cons, ahead_cons]
      split
      · rfl
      · next different =>
          rw [ih ((List.mem_cons.mp there).resolve_left (Ne.symm different))]

/-- All of a part that a member is not in are ahead of it. -/
theorem ahead_append_of_notMem {front : List A} {member : A} (absent : member ∉ front)
    (queue : List A)
    : ahead (front ++ queue) member = front ++ ahead queue member := by
  induction front with
  | nil => rfl
  | cons head front ih =>
      have different : head ≠ member := fun same => absent (same ▸ List.mem_cons_self)
      have rest : member ∉ front := fun inFront => absent (List.mem_cons_of_mem head inFront)
      rw [List.cons_append, ahead_cons, if_neg different, ih rest, List.cons_append]

/-- When others leave, nobody gets ahead, by induction on who leaves. -/
theorem ahead_sublist {rest queue : List A} (part : rest.Sublist queue) (once : queue.Nodup)
    {member : A} (stays : member ∈ rest)
    : (ahead rest member).Sublist (ahead queue member) := by
  induction part with
  | slnil => cases stays
  | cons head part ih =>
      obtain ⟨new, apart⟩ := List.nodup_cons.mp once
      have different : head ≠ member := fun same => new (same ▸ part.subset stays)
      rw [ahead_cons, if_neg different]
      exact (ih apart stays).cons head
  | cons_cons head part ih =>
      rw [ahead_cons, ahead_cons]
      split
      · exact List.Sublist.refl []
      · next different =>
          have behind := (List.mem_cons.mp stays).resolve_left (Ne.symm different)
          exact (ih (List.nodup_cons.mp once).2 behind).cons_cons head

/-- When the front leaves, whoever stays has as many fewer ahead. -/
theorem length_ahead_suffix {rest queue : List A} (suffix : rest <:+ queue) (once : queue.Nodup)
    {member : A} (stays : member ∈ rest)
    : (ahead queue member).length + rest.length = (ahead rest member).length + queue.length := by
  obtain ⟨front, rfl⟩ := suffix
  have absent : member ∉ front := fun inFront =>
    (List.nodup_append.mp once).2.2 member inFront member stays rfl
  rw [ahead_append_of_notMem absent, List.length_append, List.length_append]
  omega

/-- Nobody gets ahead of a member that stays. -/
theorem Follows.ahead (follows : Follows fresh before after) (once : before.Nodup) {member : A}
    (stays : member ∈ after) (old : ¬ fresh member)
    : (ahead after member).Sublist (ahead before member) := by
  obtain ⟨kept, newcomers, rfl, part, new⟩ := follows
  have there : member ∈ kept :=
    (List.mem_append.mp stays).resolve_right (fun late => old (new member late))
  rw [ahead_append there]
  exact ahead_sublist part once there

end Tlsurl.Library.Queue
