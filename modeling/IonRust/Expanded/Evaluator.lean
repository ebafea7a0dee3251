import IonRust.Expanded.Value

/-!
# The macro evaluator

`MacroEvaluator` is a LIFO stack of expansions.  `next()` pops exhausted frames and yields the
next value of the topmost frame, so the values it yields are those of its frames from the top
down, and it returns `None` only once the stack is empty.  A frame whose expansion reports its
last value as a final step is popped together with that value; any other frame is popped by
the call after its last value.  `is_empty()` tells which of the two happened: it is false
while an exhausted frame is still on the stack.

Nested invocations inside an expansion are already flattened into its values, so a frame here
stands for the frames that the expansion and its nested invocations occupy.
-/

namespace IonRust

/-- One expansion on the evaluator's stack: the values it has still to yield, and whether it
is popped together with its last value. -/
structure Frame where
  values : List LazyExpandedValue
  popsWithLastValue : Bool

/-- `MacroExpr::expand`: the frame that evaluating the invocation pushes. -/
def MacroExpr.expand (invocation : MacroExpr) : Except IonError Frame :=
  invocation.expansion.map (fun values => ⟨values, invocation.popsWithLastValue⟩)

def Frame.work (frame : Frame) : Nat :=
  valuesWork frame.values + 1

theorem MacroExpr.expand_eq_ok {invocation : MacroExpr} {frame : Frame}
    (h : invocation.expand = .ok frame) :
    invocation.expansion = .ok frame.values ∧ frame.work = invocation.work := by
  rcases invocation with ⟨_ | values, _, pops⟩ <;>
    simp_all [expand, expansion, Except.map, MacroExpr.work, popsWithLastValue]
  subst h
  exact ⟨rfl, rfl⟩

theorem MacroExpr.expand_eq_error {invocation : MacroExpr} {e : IonError}
    (h : invocation.expand = .error e) : invocation.expansion = .error e := by
  rcases invocation with ⟨_ | values, _, pops⟩ <;> simp_all [expand, expansion, Except.map]

/-- `MacroEvaluator`: its stack of frames, topmost first. -/
structure MacroEvaluator where
  frames : List Frame

namespace MacroEvaluator

def empty : MacroEvaluator := ⟨[]⟩

/-- `MacroEvaluator::push`. -/
def push (evaluator : MacroEvaluator) (expansion : Frame) : MacroEvaluator :=
  ⟨expansion :: evaluator.frames⟩

/-- `MacroEvaluator::is_empty`: no frame remains. -/
def isEmpty (evaluator : MacroEvaluator) : Bool :=
  evaluator.frames.isEmpty

/-- The stack after `MacroEvaluator::next`, with the value it yields. -/
def nextOfFrames : List Frame → Option LazyExpandedValue × List Frame
  | [] => (none, [])
  | ⟨[], _⟩ :: rest => nextOfFrames rest
  | ⟨value :: values, pops⟩ :: rest =>
      (some value, if values.isEmpty && pops then rest else ⟨values, pops⟩ :: rest)

/-- `MacroEvaluator::next`. -/
def next (evaluator : MacroEvaluator) : Option LazyExpandedValue × MacroEvaluator :=
  ((nextOfFrames evaluator.frames).1, ⟨(nextOfFrames evaluator.frames).2⟩)

/-- The values still to come from the stack, in the order `next` yields them. -/
def output (evaluator : MacroEvaluator) : List LazyExpandedValue :=
  (evaluator.frames.map Frame.values).flatten

def framesWork : List Frame → Nat
  | [] => 0
  | frame :: rest => frame.work + framesWork rest

def work (evaluator : MacroEvaluator) : Nat :=
  framesWork evaluator.frames

@[simp] theorem output_empty : empty.output = [] := rfl

@[simp] theorem work_empty : empty.work = 0 := rfl

@[simp] theorem output_push (evaluator : MacroEvaluator) (expansion : Frame) :
    (evaluator.push expansion).output = expansion.values ++ evaluator.output := by
  simp [output, push]

@[simp] theorem work_push (evaluator : MacroEvaluator) (expansion : Frame) :
    (evaluator.push expansion).work = expansion.work + evaluator.work := rfl

theorem eq_empty_of_isEmpty {evaluator : MacroEvaluator} (h : evaluator.isEmpty = true) :
    evaluator = empty := by
  rcases evaluator with ⟨_ | _⟩ <;> simp_all [isEmpty, empty]

theorem nextOfFrames_some {frames rest : List Frame} {value : LazyExpandedValue}
    (h : nextOfFrames frames = (some value, rest)) :
    (frames.map Frame.values).flatten = value :: (rest.map Frame.values).flatten ∧
      framesWork rest + value.work + 1 ≤ framesWork frames := by
  induction frames with
  | nil => simp [nextOfFrames] at h
  | cons frame frames ih =>
    rcases frame with ⟨_ | ⟨v, values⟩, pops⟩
    · have := ih h
      simp only [List.map_cons, List.flatten_cons, List.nil_append, framesWork, Frame.work,
        valuesWork] at this ⊢
      exact ⟨this.1, by omega⟩
    · simp only [nextOfFrames, Prod.mk.injEq, Option.some.injEq] at h
      obtain ⟨rfl, rfl⟩ := h
      cases values with
      | nil => cases pops <;> simp [framesWork, Frame.work, valuesWork] <;> omega
      | cons v' values => simp [framesWork, Frame.work, valuesWork]; omega

theorem nextOfFrames_none {frames rest : List Frame}
    (h : nextOfFrames frames = (none, rest)) :
    (frames.map Frame.values).flatten = [] ∧ rest = [] := by
  induction frames with
  | nil => simp_all [nextOfFrames]
  | cons frame frames ih =>
    rcases frame with ⟨_ | ⟨v, values⟩, pops⟩
    · simpa using ih h
    · simp [nextOfFrames] at h

/-- A yielded value is the first of the output, and it takes its work with it. -/
theorem next_eq_some {evaluator evaluator' : MacroEvaluator} {value : LazyExpandedValue}
    (h : evaluator.next = (some value, evaluator')) :
    evaluator.output = value :: evaluator'.output ∧
      evaluator'.work + value.work + 1 ≤ evaluator.work := by
  simp only [next, Prod.mk.injEq] at h
  obtain ⟨hvalue, rfl⟩ := h
  exact nextOfFrames_some (Prod.ext hvalue rfl)

/-- `next` returns `None` only when nothing is left, and then the stack is empty. -/
theorem next_eq_none {evaluator evaluator' : MacroEvaluator}
    (h : evaluator.next = (none, evaluator')) :
    evaluator.output = [] ∧ evaluator' = empty := by
  simp only [next, Prod.mk.injEq] at h
  obtain ⟨hnone, rfl⟩ := h
  have := nextOfFrames_none (Prod.ext hnone rfl)
  exact ⟨this.1, by simp [empty, this.2]⟩

theorem next_of_output_nil {evaluator : MacroEvaluator} (h : evaluator.output = []) :
    evaluator.next = (none, empty) := by
  rcases hnext : evaluator.next with ⟨_ | value, evaluator'⟩
  · rw [(next_eq_none hnext).2]
  · simp [(next_eq_some hnext).1] at h

theorem next_of_output_cons {evaluator : MacroEvaluator} {value : LazyExpandedValue}
    {values : List LazyExpandedValue} (h : evaluator.output = value :: values) :
    ∃ evaluator', evaluator.next = (some value, evaluator') ∧ evaluator'.output = values := by
  rcases hnext : evaluator.next with ⟨_ | value', evaluator'⟩
  · simp [(next_eq_none hnext).1] at h
  · have := (next_eq_some hnext).1
    rw [h, List.cons.injEq] at this
    exact ⟨evaluator', by rw [this.1], this.2.symm⟩

/-- The first `next` on a fresh evaluator yields the first value of the frame pushed on it. -/
theorem next_push_empty (frame : Frame) : (empty.push frame).next.1 = frame.values.head? := by
  rcases hvalues : frame.values with _ | ⟨value, values⟩
  · rw [next_of_output_nil (by simp [hvalues])]
    rfl
  · obtain ⟨_, hnext, -⟩ := next_of_output_cons
      (show (empty.push frame).output = value :: values by simp [hvalues])
    rw [hnext]
    rfl

end MacroEvaluator

end IonRust
