import IonRust.Expanded.Struct

/-!
# Termination of the struct iterators

The work of an iterator adds up what its source has still to read, what its evaluator has
still to yield and what its state has still to do, an inlined struct counting its own work.
Every pass of `next_field`, of `FieldExprIterator::next` and of `next_field_from_make_struct`
lowers it, except a pass that returns `None`, which does not raise it.  So every call of
`next` returns within `work + 1` passes, nested passes included, and the iterator returns
`None` within `work + 1` passes in all, even when it is polled on after errors.
-/

namespace IonRust

mutual

def ExpandedStructIteratorSource.work : ExpandedStructIteratorSource → Nat
  | .valueLiteral evaluator fieldExprs => evaluator.work + fieldExprsWork fieldExprs
  | .template evaluator fields => evaluator.work + templateFieldsWork fields
  | .makeField none => 0
  | .makeField (some _) => 1
  | .makeStruct evaluator current arguments =>
      evaluator.work + currentStructWork current + argumentsWork arguments

def currentStructWork : Option ExpandedStructIterator → Nat
  | none => 0
  | some current => current.work + 1

def ExpandedStructIteratorState.work : ExpandedStructIteratorState → Nat
  | .readingFieldFromSource => 0
  | .expandingValueExpr _ => 1
  | .inliningAStruct structIter => structIter.work + 1

def ExpandedStructIterator.work : ExpandedStructIterator → Nat
  | .mk source state => source.work + state.work

end

def FieldExprIterator.work (it : FieldExprIterator) : Nat :=
  it.source.work + it.state.work

theorem LazyExpandedValue.work_pos (value : LazyExpandedValue) : 0 < value.work := by
  cases value <;> simp [LazyExpandedValue.work]

@[simp] theorem LazyExpandedStruct.work_iter (struct : LazyExpandedStruct) :
    struct.iter.work = struct.work := by
  cases struct <;>
    simp [LazyExpandedStruct.iter, LazyExpandedStruct.work, ExpandedStructIterator.work,
      ExpandedStructIteratorSource.work, ExpandedStructIteratorState.work, currentStructWork]

namespace ExpandedStructIteratorSource

theorem work_setEvaluator (source : ExpandedStructIteratorSource) (evaluator : MacroEvaluator) :
    (source.setEvaluator evaluator).work + source.evaluator.work ≤ source.work + evaluator.work := by
  rcases source with _ | _ | (_ | _) | _ <;>
    simp [setEvaluator, ExpandedStructIteratorSource.evaluator, work] <;> omega

end ExpandedStructIteratorSource

theorem nextStructFromMacro_work {evaluator evaluator' : MacroEvaluator}
    {result : Except IonError (Option LazyExpandedStruct)}
    (h : nextStructFromMacro evaluator = (result, evaluator')) :
    evaluator'.work ≤ evaluator.work ∧
      (∀ struct, result = .ok (some struct) → evaluator'.work + struct.work + 3 ≤ evaluator.work) ∧
      (∀ e, result = .error e → evaluator'.work + 2 ≤ evaluator.work) := by
  unfold nextStructFromMacro at h
  rcases hnext : evaluator.next with ⟨_ | value, next⟩
  · rw [hnext] at h
    cases h
    simp [(MacroEvaluator.next_eq_none hnext).2]
  · have hwork := (MacroEvaluator.next_eq_some hnext).2
    have hpos := value.work_pos
    rw [hnext] at h
    rcases value with _ | struct | _ <;>
      simp only [LazyExpandedValue.read, Prod.mk.injEq] at h <;> obtain ⟨rfl, rfl⟩ := h <;>
      simp_all [LazyExpandedValue.work] <;> omega

theorem beginInliningStructFromMacro_work {state state' : ExpandedStructIteratorState}
    {evaluator evaluator' : MacroEvaluator} {invocation : MacroExpr} {result : Except IonError Unit}
    (h : beginInliningStructFromMacro state evaluator invocation = (result, state', evaluator')) :
    evaluator'.work + state'.work ≤ evaluator.work + invocation.work + state.work := by
  unfold beginInliningStructFromMacro at h
  rcases hexpand : invocation.expand with e | expansion
  · rw [hexpand] at h
    cases h
    omega
  · have hframe := (MacroExpr.expand_eq_ok hexpand).2
    rcases hpull : nextStructFromMacro (evaluator.push expansion) with ⟨pulled, next⟩
    obtain ⟨hle, hsome, -⟩ := nextStructFromMacro_work hpull
    rw [MacroEvaluator.work_push, hframe] at hle hsome
    rcases pulled with _ | _ | struct <;>
      simp only [hexpand, hpull, Prod.mk.injEq] at h <;> obtain ⟨-, rfl, rfl⟩ := h
    · omega
    · omega
    · have := hsome struct rfl
      simp only [ExpandedStructIteratorState.work, LazyExpandedStruct.work_iter]
      omega

/-- How far a pass of a source may move its work: as `LoopStep.WorkBound`, where a yielded
field expression takes at least its own work with it. -/
def SourceWorkBound (before : Nat) : LoopStep FieldExpr ExpandedStructIteratorSource → Prop
  | .loop next => next.work < before
  | .done none next => next.work ≤ before
  | .done (some (.error _)) next => next.work < before
  | .done (some (.ok fieldExpr)) next => next.work + fieldExpr.work ≤ before

theorem SourceWorkBound.mono {before before' : Nat}
    {step : LoopStep FieldExpr ExpandedStructIteratorSource}
    (h : SourceWorkBound before step) (hle : before ≤ before') : SourceWorkBound before' step := by
  rcases step with ⟨_ | _ | _, next⟩ | next <;> simp only [SourceWorkBound] at h ⊢ <;> omega

theorem SourceWorkBound.workBound {before : Nat}
    {step : LoopStep FieldExpr ExpandedStructIteratorSource} (h : SourceWorkBound before step) :
    LoopStep.WorkBound ExpandedStructIteratorSource.work before step := by
  rcases step with ⟨_ | _ | fieldExpr, next⟩ | next <;>
    simp only [SourceWorkBound, LoopStep.WorkBound] at h ⊢
  · omega
  · omega
  · have : 0 < fieldExpr.work := by cases fieldExpr <;> simp [FieldExpr.work]
    omega
  · omega

theorem makeStructSetCurrent_workBound (nextStruct : LazyExpandedValue)
    (evaluator : MacroEvaluator) (arguments : List ValueExpr) :
    SourceWorkBound (evaluator.work + nextStruct.work + argumentsWork arguments)
      (makeStructSetCurrent nextStruct evaluator arguments) := by
  rcases nextStruct with _ | struct | _ <;>
    simp [makeStructSetCurrent, LazyExpandedValue.read, SourceWorkBound,
      ExpandedStructIteratorSource.work, currentStructWork, LazyExpandedValue.work]

theorem makeStructNextStruct_workBound (evaluator : MacroEvaluator) (arguments : List ValueExpr) :
    SourceWorkBound (evaluator.work + argumentsWork arguments)
      (makeStructNextStruct evaluator arguments) := by
  unfold makeStructNextStruct
  rcases hnext : evaluator.next with ⟨_ | value, next⟩
  · obtain ⟨-, rfl⟩ := MacroEvaluator.next_eq_none hnext
    rcases arguments with _ | ⟨value | invocation, arguments⟩
    · simp [SourceWorkBound, ExpandedStructIteratorSource.work, currentStructWork, argumentsWork]
    · exact (makeStructSetCurrent_workBound value _ arguments).mono
        (by simp [argumentsWork, ValueExpr.work]; omega)
    · rcases hexpand : invocation.expand with e | expansion
      · simp [hexpand, SourceWorkBound, ExpandedStructIteratorSource.work, currentStructWork,
          argumentsWork, ValueExpr.work]
        omega
      · have hframe := (MacroExpr.expand_eq_ok hexpand).2
        simp [hexpand, SourceWorkBound, ExpandedStructIteratorSource.work, currentStructWork,
          argumentsWork, ValueExpr.work, hframe]
        omega
  · have hwork := (MacroEvaluator.next_eq_some hnext).2
    exact (makeStructSetCurrent_workBound value next arguments).mono (by omega)

theorem ExpandedStructIterator.beginExpandingFieldMacro_workBound
    (source : ExpandedStructIteratorSource) (fieldName : String) (invocation : MacroExpr) :
    LoopStep.WorkBound ExpandedStructIterator.work (source.work + invocation.work + 3)
      (beginExpandingFieldMacro source fieldName invocation) := by
  unfold beginExpandingFieldMacro
  rcases hexpand : invocation.expand with e | expansion
  · simp [LoopStep.WorkBound, ExpandedStructIterator.work, ExpandedStructIteratorState.work]
    omega
  · have hframe := (MacroExpr.expand_eq_ok hexpand).2
    have := source.work_setEvaluator (source.evaluator.push expansion)
    rcases invocation.singletonValue? with _ | value <;>
      simp_all [LoopStep.WorkBound, ExpandedStructIterator.work, ExpandedStructIteratorState.work] <;>
      omega

theorem ExpandedStructIterator.inlineFieldNameMacro_workBound
    (source : ExpandedStructIteratorSource) (invocation : MacroExpr) :
    LoopStep.WorkBound ExpandedStructIterator.work (source.work + invocation.work + 3)
      (inlineFieldNameMacro source invocation) := by
  unfold inlineFieldNameMacro
  rcases hbegin : beginInliningStructFromMacro .readingFieldFromSource source.evaluator invocation
    with ⟨_ | _, state, evaluator⟩ <;>
    have := beginInliningStructFromMacro_work hbegin <;>
    have := source.work_setEvaluator evaluator <;>
    simp only [LoopStep.WorkBound, ExpandedStructIterator.work,
      ExpandedStructIteratorState.work] at * <;> omega

mutual

theorem ExpandedStructIteratorSource.nextField_workBound :
    ∀ source : ExpandedStructIteratorSource, SourceWorkBound source.work source.nextField
  | .valueLiteral evaluator [] => by
      simp [ExpandedStructIteratorSource.nextField, SourceWorkBound]
  | .valueLiteral evaluator (item :: rest) => by
      rcases item with e | fieldExpr <;>
        simp [ExpandedStructIteratorSource.nextField, SourceWorkBound,
          ExpandedStructIteratorSource.work, fieldExprsWork]
      omega
  | .template evaluator [] => by
      simp [ExpandedStructIteratorSource.nextField, SourceWorkBound]
  | .template evaluator (field :: rest) => by
      simp [ExpandedStructIteratorSource.nextField, SourceWorkBound,
        ExpandedStructIteratorSource.work, templateFieldsWork, TemplateField.work_eq]
      omega
  | .makeField none => by
      simp [ExpandedStructIteratorSource.nextField, SourceWorkBound]
  | .makeField (some field) => by
      simp [ExpandedStructIteratorSource.nextField, SourceWorkBound,
        ExpandedStructIteratorSource.work, LazyExpandedField.toFieldExpr, FieldExpr.work]
  | .makeStruct evaluator current arguments =>
      ExpandedStructIteratorSource.nextFieldFromMakeStruct_workBound evaluator current arguments

theorem ExpandedStructIteratorSource.nextFieldFromMakeStruct_workBound
    (evaluator : MacroEvaluator) :
    ∀ (current : Option ExpandedStructIterator) (arguments : List ValueExpr),
      SourceWorkBound (ExpandedStructIteratorSource.makeStruct evaluator current arguments).work
        (ExpandedStructIteratorSource.nextFieldFromMakeStruct evaluator current arguments)
  | none, arguments => by
      simpa [ExpandedStructIteratorSource.nextFieldFromMakeStruct,
        ExpandedStructIteratorSource.work, currentStructWork]
        using makeStructNextStruct_workBound evaluator arguments
  | some current, arguments => by
      have hcurrent := current.nextFieldPass_workBound
      simp only [ExpandedStructIteratorSource.nextFieldFromMakeStruct]
      generalize current.nextFieldPass = step at hcurrent ⊢
      rcases step with ⟨_ | _ | field, next⟩ | next <;>
        simp only [LoopStep.WorkBound] at hcurrent
      · exact (makeStructNextStruct_workBound evaluator arguments).mono
          (by simp [ExpandedStructIteratorSource.work, currentStructWork])
      all_goals
        simp [SourceWorkBound, ExpandedStructIteratorSource.work, currentStructWork,
          LazyExpandedField.toFieldExpr, FieldExpr.work]
        omega

theorem ExpandedStructIterator.nextFieldPass_workBound :
    ∀ it : ExpandedStructIterator,
      LoopStep.WorkBound ExpandedStructIterator.work it.work it.nextFieldPass
  | .mk source .readingFieldFromSource => by
      have hsource := source.nextField_workBound
      simp only [ExpandedStructIterator.nextFieldPass]
      generalize source.nextField = step at hsource ⊢
      rcases step with ⟨_ | _ | (⟨name, value⟩ | ⟨name, invocation⟩ | invocation), next⟩ | next <;>
        simp only [SourceWorkBound, FieldExpr.work, ExpandedStructIterator.readFromSource,
          LoopStep.WorkBound, ExpandedStructIterator.work, ExpandedStructIteratorState.work]
          at hsource ⊢
      · omega
      · omega
      · omega
      · exact (ExpandedStructIterator.beginExpandingFieldMacro_workBound next name invocation).mono
          (by omega)
      · exact (ExpandedStructIterator.inlineFieldNameMacro_workBound next invocation).mono
          (by omega)
      · omega
  | .mk source (.inliningAStruct structIter) => by
      have hchild := structIter.nextFieldPass_workBound
      simp only [ExpandedStructIterator.nextFieldPass]
      generalize structIter.nextFieldPass = step at hchild ⊢
      rcases step with ⟨_ | r, next⟩ | next <;>
        simp only [LoopStep.WorkBound, ExpandedStructIterator.work,
          ExpandedStructIteratorState.work] at hchild ⊢ <;> omega
  | .mk source (.expandingValueExpr fieldName) => by
      simp only [ExpandedStructIterator.nextFieldPass]
      rcases hnext : source.evaluator.next with ⟨_ | value, evaluator⟩
      · obtain ⟨-, rfl⟩ := MacroEvaluator.next_eq_none hnext
        have := source.work_setEvaluator .empty
        simp only [LoopStep.WorkBound, ExpandedStructIterator.work,
          ExpandedStructIteratorState.work, MacroEvaluator.work_empty] at this ⊢
        omega
      · have hwork := (MacroEvaluator.next_eq_some hnext).2
        have hpos := value.work_pos
        have := source.work_setEvaluator evaluator
        by_cases hempty : evaluator.isEmpty <;>
          simp [hempty, LoopStep.WorkBound, ExpandedStructIterator.work,
            ExpandedStructIteratorState.work] <;> omega

end

theorem FieldExprIterator.readFieldExpr_workBound (source : ExpandedStructIteratorSource)
    (field : FieldExpr) :
    LoopStep.WorkBound FieldExprIterator.work (source.work + field.work)
      (readFieldExpr source field) := by
  rcases field with ⟨name, value⟩ | ⟨name, invocation⟩ | invocation <;>
    simp only [readFieldExpr, FieldExpr.work]
  · simp [LoopStep.WorkBound, FieldExprIterator.work, ExpandedStructIteratorState.work]
  · rcases hexpand : invocation.expand with e | expansion
    · simp [LoopStep.WorkBound, FieldExprIterator.work, ExpandedStructIteratorState.work]
    · have hframe := (MacroExpr.expand_eq_ok hexpand).2
      have := source.work_setEvaluator (source.evaluator.push expansion)
      simp only [LoopStep.WorkBound, FieldExprIterator.work, ExpandedStructIteratorState.work,
        MacroEvaluator.work_push] at this ⊢
      omega
  · rcases hbegin : beginInliningStructFromMacro .readingFieldFromSource source.evaluator invocation
      with ⟨_ | _, state, evaluator⟩ <;>
      have := beginInliningStructFromMacro_work hbegin <;>
      have := source.work_setEvaluator evaluator <;>
      simp only [LoopStep.WorkBound, FieldExprIterator.work, ExpandedStructIteratorState.work]
        at * <;> omega

theorem FieldExprIterator.nextPass_workBound (it : FieldExprIterator) :
    LoopStep.WorkBound FieldExprIterator.work it.work it.nextPass := by
  rcases it with ⟨source, _ | fieldName | structIter⟩
  · have hsource := source.nextField_workBound
    simp only [nextPass]
    generalize source.nextField = step at hsource ⊢
    rcases step with ⟨_ | _ | field, next⟩ | next <;>
      simp only [SourceWorkBound, LoopStep.WorkBound, FieldExprIterator.work,
        ExpandedStructIteratorState.work] at hsource ⊢
    · omega
    · omega
    · exact (readFieldExpr_workBound next field).mono (by omega)
    · omega
  · simp only [nextPass]
    rcases hnext : source.evaluator.next with ⟨_ | value, evaluator⟩
    · obtain ⟨-, rfl⟩ := MacroEvaluator.next_eq_none hnext
      have := source.work_setEvaluator .empty
      simp only [LoopStep.WorkBound, FieldExprIterator.work, ExpandedStructIteratorState.work,
        MacroEvaluator.work_empty] at this ⊢
      omega
    · have hwork := (MacroEvaluator.next_eq_some hnext).2
      have hpos := value.work_pos
      have := source.work_setEvaluator evaluator
      by_cases hempty : evaluator.isEmpty <;>
        simp [hempty, LoopStep.WorkBound, FieldExprIterator.work,
          ExpandedStructIteratorState.work] <;> omega
  · have hchild := structIter.nextFieldPass_workBound
    simp only [nextPass]
    generalize structIter.nextFieldPass = step at hchild ⊢
    rcases step with ⟨_ | _ | field, next⟩ | next
    · rcases hpull : nextStructFromMacro source.evaluator with ⟨pulled, evaluator⟩
      obtain ⟨hle, hsome, herror⟩ := nextStructFromMacro_work hpull
      have := source.work_setEvaluator evaluator
      simp only [LoopStep.WorkBound] at hchild
      rcases pulled with e | _ | struct <;>
        simp only [LoopStep.WorkBound, FieldExprIterator.work, ExpandedStructIteratorState.work,
          LazyExpandedStruct.work_iter]
      · have := herror e rfl
        omega
      · omega
      · have := hsome struct rfl
        omega
    all_goals
      simp only [LoopStep.WorkBound, FieldExprIterator.work, ExpandedStructIteratorState.work]
        at hchild ⊢
      omega

theorem ExpandedStructIterator.decreasing :
    LoopStep.Decreasing ExpandedStructIterator.nextFieldPass ExpandedStructIterator.work :=
  .of_workBound _ ExpandedStructIterator.nextFieldPass_workBound

theorem FieldExprIterator.decreasing :
    LoopStep.Decreasing FieldExprIterator.nextPass FieldExprIterator.work :=
  .of_workBound _ FieldExprIterator.nextPass_workBound

theorem ExpandedStructIteratorSource.decreasing :
    LoopStep.Decreasing ExpandedStructIteratorSource.nextField ExpandedStructIteratorSource.work :=
  .of_workBound _ fun source => (source.nextField_workBound).workBound

/-- The fields an iterator yields until `next` returns `None`, or up to its first error. -/
def ExpandedStructIterator.results (it : ExpandedStructIterator) :
    List (Except IonError LazyExpandedField) :=
  LoopStep.results ExpandedStructIterator.nextFieldPass ExpandedStructIterator.work it

/-- The items a `FieldExprIterator` yields until `next` returns `None`, or up to its first
error. -/
def FieldExprIterator.results (it : FieldExprIterator) : List (Except IonError FieldExpr) :=
  LoopStep.results FieldExprIterator.nextPass FieldExprIterator.work it

/-- The field expressions a source yields until `next_field` returns `None`, or up to its
first error. -/
def ExpandedStructIteratorSource.results (source : ExpandedStructIteratorSource) :
    List (Except IonError FieldExpr) :=
  LoopStep.results ExpandedStructIteratorSource.nextField ExpandedStructIteratorSource.work source

theorem ExpandedStructIterator.results_eq (it : ExpandedStructIterator) :
    it.results = LoopStep.stepResults ExpandedStructIterator.results it.nextFieldPass :=
  decreasing.results_eq it

theorem FieldExprIterator.results_eq (it : FieldExprIterator) :
    it.results = LoopStep.stepResults FieldExprIterator.results it.nextPass :=
  decreasing.results_eq it

/-- `ExpandedStructIterator::next`, `FieldExprIterator::next` and
`next_field_from_make_struct` each return within `work + 1` passes of their loops, a pass of
an inlined or current struct counted in the pass that makes it; and polling each of them
again and again, after errors too, reaches `None` within `work + 1` passes in all. -/
theorem struct_iterators_terminate :
    (∀ it : ExpandedStructIterator,
      (LoopStep.call ExpandedStructIterator.nextFieldPass (it.work + 1) it).isSome ∧
        (LoopStep.drain ExpandedStructIterator.nextFieldPass (it.work + 1) it).isSome) ∧
    (∀ it : FieldExprIterator,
      (LoopStep.call FieldExprIterator.nextPass (it.work + 1) it).isSome ∧
        (LoopStep.drain FieldExprIterator.nextPass (it.work + 1) it).isSome) ∧
    (∀ (evaluator : MacroEvaluator) (current : Option ExpandedStructIterator)
        (arguments : List ValueExpr),
      let source := ExpandedStructIteratorSource.makeStruct evaluator current arguments
      (LoopStep.call ExpandedStructIteratorSource.nextField (source.work + 1) source).isSome ∧
        (LoopStep.drain ExpandedStructIteratorSource.nextField (source.work + 1) source).isSome) :=
  ⟨fun it => ⟨ExpandedStructIterator.decreasing.call_isSome _ it (Nat.lt_succ_self _),
      ExpandedStructIterator.decreasing.drain_isSome _ it (Nat.lt_succ_self _)⟩,
    fun it => ⟨FieldExprIterator.decreasing.call_isSome _ it (Nat.lt_succ_self _),
      FieldExprIterator.decreasing.drain_isSome _ it (Nat.lt_succ_self _)⟩,
    fun _ _ _ => ⟨ExpandedStructIteratorSource.decreasing.call_isSome _ _ (Nat.lt_succ_self _),
      ExpandedStructIteratorSource.decreasing.drain_isSome _ _ (Nat.lt_succ_self _)⟩⟩

end IonRust
