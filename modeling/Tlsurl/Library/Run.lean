import Mathlib.Tactic.TypeStar

/-! Finite runs of a labelled step relation and the rules that carry a step fact to a run.
Labels are listed oldest first, so a history invariant may read the whole past.
-/

namespace Tlsurl.Library

/-- `Run step start labels finish` holds when the labelled steps lead from `start` to
`finish`. The last step is the outermost constructor.
-/
inductive Run {State Label : Type*} (step : State → Label → State → Prop)
    : State → List Label → State → Prop
  | nil {start} : Run step start [] start
  | snoc {start labels middle label finish}
    (earlier : Run step start labels middle) (last : step middle label finish)
    : Run step start (labels ++ [label]) finish

/-- `Guarded allowed step` keeps the steps whose source state and label are allowed.
A run of it is a run all of whose steps meet the condition.
-/
def Guarded {State Label : Type*} (allowed : State → Label → Prop)
    (step : State → Label → State → Prop) (start : State) (label : Label) (finish : State)
    : Prop :=
  allowed start label ∧ step start label finish

/-- `Having property step` keeps the steps with a property of their own. A run of it is a run all
of whose steps have the property.
-/
def Having {State Label : Type*} (property : State → Label → State → Prop)
    (step : State → Label → State → Prop) (start : State) (label : Label) (finish : State)
    : Prop :=
  property start label finish ∧ step start label finish

/-- `Through property step` keeps the steps that end in a state with the property. A run of it is
a run whose states, past the first, all have the property.
-/
def Through {State Label : Type*} (property : State → Prop)
    (step : State → Label → State → Prop) (start : State) (label : Label) (finish : State)
    : Prop :=
  step start label finish ∧ property finish

/-- `Tallied counts step` adds up what the steps count for. -/
def Tallied {State Label : Type*} (counts : State → Label → Nat)
    (step : State → Label → State → Prop) (start : State × Nat) (label : Label)
    (finish : State × Nat)
    : Prop :=
  step start.1 label finish.1 ∧ finish.2 = start.2 + counts start.1 label

variable {State Label : Type*} {step : State → Label → State → Prop}

/-- A predicate that steps from reached states preserve holds at the end of every run that
starts inside it, by induction on the last step.
-/
theorem Run.invariant {inv : State → Prop} {start labels finish}
    (run : Run step start labels finish)
    (preserved : ∀ {past s label t}, Run step start past s → inv s → step s label t → inv t)
    (initial : inv start)
    : inv finish := by
  induction run with
  | nil => exact initial
  | snoc earlier last ih => exact preserved earlier ih last

/-- A predicate on the labels so far and the current state is a run fact as soon as each
appended step preserves it.
-/
theorem Run.history {inv : List Label → State → Prop} {start labels finish}
    (run : Run step start labels finish)
    (preserved
      : ∀ {past s label t}, inv past s → step s label t → inv (past ++ [label]) t)
    (initial : inv [] start)
    : inv labels finish := by
  induction run with
  | nil => exact initial
  | snoc _ last ih => exact preserved ih last

/-- Runs compose end to start, by induction on the later run. -/
theorem Run.append {start labels middle later finish}
    (first : Run step start labels middle) (second : Run step middle later finish)
    : Run step start (labels ++ later) finish := by
  induction second with
  | nil => simpa using first
  | snoc _ last ih => simpa [← List.append_assoc] using Run.snoc ih last

/-- A run may also be extended at its start. -/
theorem Run.cons {start label middle labels finish} (first : step start label middle)
    (later : Run step middle labels finish)
    : Run step start (label :: labels) finish :=
  Run.append (.snoc .nil first) later

/-- Folding a function over the labels is a run of its steps, by induction on the labels. -/
theorem Run.foldl {next : State → Label → State} (start : State) (labels : List Label)
    : Run (fun state label result => result = next state label) start labels
        (labels.foldl next start) := by
  induction labels generalizing start with
  | nil => exact .nil
  | cons label labels ih => exact .cons rfl (ih (next start label))

/-- Weakening the step relation keeps the run, by induction on its steps. -/
theorem Run.mono {weaker : State → Label → State → Prop} {start labels finish}
    (run : Run step start labels finish)
    (weaken : ∀ {s label t}, step s label t → weaker s label t)
    : Run weaker start labels finish := by
  induction run with
  | nil => exact .nil
  | snoc _ last ih => exact .snoc ih (weaken last)

/-- A run with a last label ends in a step, by cases on the run. -/
theorem Run.snoc_inv {start labels label finish}
    (run : Run step start (labels ++ [label]) finish)
    : ∃ middle, Run step start labels middle ∧ step middle label finish := by
  generalize split : labels ++ [label] = all at run
  cases run with
  | nil => simp at split
  | snoc earlier last =>
      obtain ⟨rfl, same⟩ := List.append_inj' split rfl
      cases same
      exact ⟨_, earlier, last⟩

/-- A functional step relation leads each label list to one state, by induction on the run.
-/
theorem Run.functional {start labels finish other}
    (functional : ∀ {s label t u}, step s label t → step s label u → t = u)
    (run : Run step start labels finish) (again : Run step start labels other)
    : finish = other := by
  induction run generalizing other with
  | nil =>
      generalize empty : ([] : List Label) = all at again
      cases again with
      | nil => rfl
      | snoc _ _ => simp at empty
  | snoc _ last ih =>
      obtain ⟨middle, earlier, lastAgain⟩ := again.snoc_inv
      cases ih earlier
      exact functional last lastAgain

/-- A property that each step of a functional relation keeps exactly when the step is
allowed holds at the end of a run exactly when all of the run's steps are.
-/
theorem Run.guarded_iff {allowed : State → Label → Prop} {property : State → Prop}
    {start labels finish}
    (functional : ∀ {s label t u}, step s label t → step s label u → t = u)
    (initial : property start)
    (decided
      : ∀ {past s label t}, Run step start past s → step s label t
        → (property t ↔ property s ∧ allowed s label))
    (run : Run step start labels finish)
    : property finish ↔ Run (Guarded allowed step) start labels finish := by
  induction run with
  | nil => exact iff_of_true initial .nil
  | snoc earlier last ih =>
      rw [decided earlier last, ih]
      constructor
      · rintro ⟨guarded, permitted⟩
        exact guarded.snoc ⟨permitted, last⟩
      · intro guarded
        obtain ⟨middle, front, permitted, lastAgain⟩ := guarded.snoc_inv
        have plain : Run step _ _ middle := front.mono (fun both => both.2)
        cases Run.functional @functional earlier plain
        exact ⟨front, permitted⟩

/-- A run is guarded if its labels are allowed in every state, by induction on its steps. -/
theorem Run.guarded {allowed : State → Label → Prop} {start labels finish}
    (run : Run step start labels finish) (always : ∀ label ∈ labels, ∀ s, allowed s label)
    : Run (Guarded allowed step) start labels finish := by
  induction run with
  | nil => exact .nil
  | snoc _ last ih =>
      refine .snoc (ih (fun label member => always label (List.mem_append_left _ member))) ?_
      exact ⟨always _ (by simp) _, last⟩

/-- If, under an invariant, a step has a good label exactly when it is allowed, the labels of a
run are good exactly when its steps are allowed, by induction on the run.
-/
theorem Run.labels_iff {allowed : State → Label → Prop} {good : Label → Prop}
    {inv : State → Prop} {start labels finish} (run : Run step start labels finish)
    (initial : inv start) (kept : ∀ {s label t}, inv s → step s label t → inv t)
    (decided : ∀ {s label t}, inv s → step s label t → (good label ↔ allowed s label))
    : (∀ label ∈ labels, good label) ↔ Run (Guarded allowed step) start labels finish := by
  have always {labels finish} (run : Run step start labels finish) : inv finish :=
    run.invariant (fun _ => kept) initial
  constructor
  · intro all
    induction run with
    | nil => exact .nil
    | snoc earlier last ih =>
        have front := ih (fun label member => all label (List.mem_append_left _ member))
        exact front.snoc ⟨(decided (always earlier) last).mp (all _ (by simp)), last⟩
  · intro guarded
    induction guarded with
    | nil => simp
    | snoc earlier last ih =>
        have plain : Run step start _ _ := earlier.mono (fun both => both.2)
        intro label member
        rcases List.mem_append.mp member with before | here
        · exact ih plain label before
        · rw [List.mem_singleton.mp here]
          exact (decided (always plain) last.2).mpr last.1

/-- Steps from states that two relations both reach are steps of the other relation, and so are
runs, by induction on the run.
-/
theorem Run.transfer {other : State → Label → State → Prop} {start labels finish}
    (run : Run step start labels finish)
    (follows
      : ∀ {past s label t}, Run step start past s → Run other start past s → step s label t
        → other s label t)
    : Run other start labels finish := by
  induction run with
  | nil => exact .nil
  | snoc earlier last ih => exact ih.snoc (follows earlier ih last)

/-- The states of a run through a property have it, from a state that has it on. -/
theorem Run.through_holds {property : State → Prop} {start labels finish}
    (run : Run (Through property step) start labels finish) (initial : property start)
    : property finish :=
  run.invariant (fun _ _ both => both.2) initial

/-- Where the allowed steps are exactly those that keep a property, the runs of allowed steps
are exactly the runs that never leave it.
-/
theorem Run.through_iff_guarded {allowed : State → Label → Prop} {property : State → Prop}
    {start labels finish} (initial : property start)
    (decided
      : ∀ {past s label t}, Run step start past s → property s → step s label t
        → (property t ↔ allowed s label))
    : Run (Through property step) start labels finish
      ↔ Run (Guarded allowed step) start labels finish := by
  constructor
  · intro run
    apply run.transfer
    intro past s label t earlier _ last
    have plain : Run step start past s := earlier.mono (fun both => both.1)
    have before := earlier.through_holds initial
    exact ⟨(decided plain before last.1).mp last.2, last.1⟩
  · intro run
    apply run.transfer
    intro past s label t earlier through last
    have plain : Run step start past s := earlier.mono (fun both => both.2)
    have before := through.through_holds initial
    exact ⟨last.2, (decided plain before last.2).mpr last.1⟩

/-- If, under an invariant that the steps with a property keep, a step has the property exactly
when it is allowed, the runs whose steps all have it are exactly the runs of allowed steps.
-/
theorem Run.having_iff_guarded {allowed : State → Label → Prop}
    {property : State → Label → State → Prop} {inv : State → Prop} {start labels finish}
    (initial : inv start)
    (kept : ∀ {s label t}, inv s → step s label t → property s label t → inv t)
    (decided
      : ∀ {s label t}, inv s → step s label t → (property s label t ↔ allowed s label))
    : Run (Having property step) start labels finish
      ↔ Run (Guarded allowed step) start labels finish := by
  have always {labels finish} (run : Run (Having property step) start labels finish)
      : inv finish :=
    run.invariant (fun _ before last => kept before last.2 last.1) initial
  constructor
  · intro run
    apply run.transfer
    intro past s label t earlier _ last
    exact ⟨(decided (always earlier) last.2).mp last.1, last.2⟩
  · intro run
    apply run.transfer
    intro past s label t _ earlier last
    exact ⟨(decided (always earlier) last.2).mpr last.1, last.2⟩

/-- A run with a tally is a run. -/
theorem Run.untallied {counts : State → Label → Nat} {start finish : State × Nat} {labels}
    (run : Run (Tallied counts step) start labels finish)
    : Run step start.1 labels finish.1 := by
  induction run with
  | nil => exact .nil
  | snoc _ last ih => exact .snoc ih last.1

/-- Where each step lowers a measure by what it counts for, a run counts for no more than it lowers
the measure, by induction on its steps.
-/
theorem Run.tally_le {counts : State → Label → Nat} {start finish : State × Nat} {labels}
    (run : Run (Tallied counts step) start labels finish) (measure : State → Nat)
    (pays
      : ∀ {past s label t}, Run step start.1 past s → step s label t
        → measure t + counts s label ≤ measure s)
    : measure finish.1 + finish.2 ≤ measure start.1 + start.2 := by
  induction run with
  | nil => exact Nat.le_refl _
  | snoc earlier last ih =>
      have paid := pays earlier.untallied last.1
      have tally := last.2
      omega

end Tlsurl.Library
