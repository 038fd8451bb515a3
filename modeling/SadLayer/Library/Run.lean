import Mathlib.Data.List.Induction

/-! Runs of a system that answers one label at a time. A property of the state
and of what was answered so far holds of every run once each step preserves it. -/
namespace SadLayer.Library

/-- A state together with the labels that led to it and their answers. -/
structure Run (State Label Answer : Type) where
  state : State
  trace : List (Label × Answer)

variable {State Label Answer : Type} {step : State → Label → State × Answer}

def Run.extend (step : State → Label → State × Answer) (so_far : Run State Label Answer)
    (label : Label) : Run State Label Answer :=
  { state := (step so_far.state label).1
    trace := so_far.trace ++ [(label, (step so_far.state label).2)] }

/-- Answers the labels in order. -/
def run (step : State → Label → State × Answer) (start : State) (labels : List Label) :
    Run State Label Answer :=
  labels.foldl (Run.extend step) { state := start, trace := [] }

theorem run_append (start : State) (labels more : List Label) :
    run step start (labels ++ more) = more.foldl (Run.extend step) (run step start labels) :=
  List.foldl_append

theorem run_concat (start : State) (labels : List Label) (label : Label) :
    run step start (labels ++ [label]) = (run step start labels).extend step label :=
  run_append start labels [label]

/-- The invariant rule: what holds of the empty run and survives each step holds of all runs. -/
theorem run_invariant (step : State → Label → State × Answer) {start : State}
    (Holds : List (Label × Answer) → State → Prop) (initial : Holds [] start)
    (preserved : ∀ trace state label, Holds trace state →
      Holds (trace ++ [(label, (step state label).2)]) (step state label).1)
    (labels : List Label) :
    Holds (run step start labels).trace (run step start labels).state := by
  induction labels using List.reverseRecOn with
  | nil => exact initial
  | append_singleton labels label ih =>
    rw [run_concat]
    exact preserved _ _ label ih

/-- The trace of a longer run begins with that of the shorter one. -/
theorem run_trace_append (step : State → Label → State × Answer) (start : State)
    (labels more : List Label) :
    ∃ later, (run step start (labels ++ more)).trace =
      (run step start labels).trace ++ later := by
  induction more using List.reverseRecOn with
  | nil => exact ⟨[], by simp⟩
  | append_singleton more label ih =>
    obtain ⟨later, extended⟩ := ih
    rw [← List.append_assoc, run_concat]
    exact ⟨later ++ [(label, _)], by rw [Run.extend, extended, List.append_assoc]⟩

/-- What each step does to the state, a longer run does too. -/
theorem run_steps (step : State → Label → State × Answer) (Grows : State → State → Prop)
    (refl : ∀ state, Grows state state)
    (trans : ∀ first second third, Grows first second → Grows second third → Grows first third)
    (each : ∀ state label, Grows state (step state label).1) (start : State)
    (labels more : List Label) :
    Grows (run step start labels).state (run step start (labels ++ more)).state := by
  induction more using List.reverseRecOn with
  | nil => rw [List.append_nil]; exact refl _
  | append_singleton more label ih =>
    rw [← List.append_assoc, run_concat]
    exact trans _ _ _ ih (each _ label)

end SadLayer.Library
