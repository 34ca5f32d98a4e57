import Mathlib.Init

/-!
This module contains value observers as event driven databases offer them. While an observer is
registered, changes of the observed value are put into a queue from which the callbacks run later and
in order. Several changes may be seen as one, but no change is seen twice, and what is queued already
when the observer is removed is still handed to the callback.
-/

structure Observer (β : Type) where
  active : Bool := false
  last : Option β := none
  queue : List β := []
  deriving DecidableEq

namespace Observer

variable {β : Type}

def observe (o : Observer β) : Observer β := { o with active := true, last := none }

def stop (o : Observer β) : Observer β := { o with active := false }

@[simp]
theorem observe_active (o : Observer β) : o.observe.active = true := rfl

@[simp]
theorem observe_last (o : Observer β) : o.observe.last = none := rfl

@[simp]
theorem observe_queue (o : Observer β) : o.observe.queue = o.queue := rfl

@[simp]
theorem stop_active (o : Observer β) : o.stop.active = false := rfl

@[simp]
theorem stop_queue (o : Observer β) : o.stop.queue = o.queue := rfl

/-- Queue a callback for the current value `v`, if the observer has not seen it yet. -/
def raise [DecidableEq β] (o : Observer β) (v : β) : Option (Observer β) :=
  if o.active = true ∧ o.last ≠ some v then
    some { o with last := some v, queue := o.queue ++ [v] }
  else
    none

theorem raise_eq_some [DecidableEq β] {o o' : Observer β} {v : β}
    : o.raise v = some o'
        ↔
      o.active = true ∧ o.last ≠ some v ∧ o' = { o with last := some v, queue := o.queue ++ [v] } := by
  unfold raise
  split
  . next h =>
    simp only [Option.some.injEq]
    constructor
    . rintro rfl
      exact ⟨h.1, h.2, rfl⟩
    . rintro ⟨_, _, rfl⟩
      rfl
  . next h =>
    simp only [reduceCtorEq, false_iff]
    rintro ⟨h₁, h₂, _⟩
    exact h ⟨h₁, h₂⟩

def deliver (o : Observer β) : Option (β × Observer β) :=
  match o.queue with
  | [] => none
  | v :: queue => some (v, { o with queue := queue })

theorem deliver_eq_some {o o' : Observer β} {v : β}
    : o.deliver = some (v, o') ↔ ∃ queue, o.queue = v :: queue ∧ o' = { o with queue := queue } := by
  unfold deliver
  split
  . next h => simp [h]
  . next w queue h =>
    rw [h]
    simp only [Option.some.injEq, Prod.mk.injEq, List.cons.injEq]
    constructor
    . rintro ⟨rfl, rfl⟩
      exact ⟨queue, ⟨rfl, rfl⟩, rfl⟩
    . rintro ⟨_, ⟨rfl, rfl⟩, rfl⟩
      exact ⟨rfl, rfl⟩

end Observer
