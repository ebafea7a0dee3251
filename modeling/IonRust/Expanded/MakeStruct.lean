import IonRust.Expanded.Termination

/-!
# `make_struct`

A struct produced by `make_struct` is iterated by `next_field_from_make_struct`.  It traverses
one struct at a time; when that is exhausted it takes the next value of its evaluator, and
when the evaluator is empty the next argument, pushing an invocation's expansion and reading a
literal as it is.  Every value it takes must read as a struct.

The result of this module: the fields of a `make_struct` are the fields of the values its
arguments stand for, in argument order, each struct's fields as its own iterator yields them,
and the first value that is not a struct ends them with a decoding error.
-/

namespace IonRust

/-- The values `u₁ … u_q` that the arguments of a `make_struct` stand for: a literal stands for
itself and an invocation for its whole expansion.  An invocation that does not expand ends
them with its error. -/
def makeStructArgumentValues : List ValueExpr → List (Except IonError LazyExpandedValue)
  | [] => []
  | .valueLiteral value :: rest => .ok value :: makeStructArgumentValues rest
  | .macroInvocation invocation :: rest =>
      match invocation.expansion with
      | .error e => [.error e]
      | .ok values => values.map .ok ++ makeStructArgumentValues rest

/-- `fields(u)`: the fields a struct's own iterator yields; any other value is a decoding
error, and a value that fails to read gives its error. -/
def makeStructFieldsOf :
    Except IonError LazyExpandedValue → List (Except IonError LazyExpandedField)
  | .error e => [.error e]
  | .ok (.struct struct) => struct.iter.results
  | .ok (.scalar _) => [.error (.decodingError "`make_struct` only accepts structs")]
  | .ok (.unreadable e) => [.error e]

/-- `fields(u₁) ++ … ++ fields(u_q)`, ending at the first error. -/
def makeStructFields (arguments : List ValueExpr) : List (Except IonError LazyExpandedField) :=
  concatResults ((makeStructArgumentValues arguments).map makeStructFieldsOf)

namespace MakeStruct

open ExpandedStructIterator

/-- While a current struct is traversed, its fields come first. -/
theorem results_some_current (evaluator : MacroEvaluator) (arguments : List ValueExpr) :
    ∀ current : ExpandedStructIterator,
      (mk (.makeStruct evaluator (some current) arguments) .readingFieldFromSource).results =
        chainResults current.results
          (mk (.makeStruct evaluator none arguments) .readingFieldFromSource).results := by
  intro current
  generalize hwork : current.work = n
  induction n using Nat.strong_induction_on generalizing current with
  | _ n ih =>
    rw [results_eq, current.results_eq]
    rcases hcurrent : current.nextFieldPass with ⟨_ | e | field, next⟩ | next <;>
      simp only [nextFieldPass, ExpandedStructIteratorSource.nextField,
        ExpandedStructIteratorSource.nextFieldFromMakeStruct, hcurrent, readFromSource,
        LazyExpandedField.toFieldExpr, LoopStep.stepResults, chainResults_nil_left,
        chainResults_error, chainResults_ok]
    · rw [results_eq (mk (.makeStruct evaluator none arguments) .readingFieldFromSource)]
      rfl
    · rw [ih next.work (hwork ▸ decreasing.done_lt hcurrent) next rfl]
    · rw [ih next.work (hwork ▸ decreasing.loop_lt hcurrent) next rfl]

/-- A pass that takes `value` as the next struct. -/
theorem results_of_setCurrent {it : ExpandedStructIterator} {value : LazyExpandedValue}
    {evaluator : MacroEvaluator} {arguments : List ValueExpr}
    (hpass : it.nextFieldPass = readFromSource (makeStructSetCurrent value evaluator arguments)) :
    it.results = chainResults (makeStructFieldsOf (.ok value))
      (mk (.makeStruct evaluator none arguments) .readingFieldFromSource).results := by
  have hd := ExpandedStructIterator.decreasing
  rcases value with _ | struct | e <;>
    simp only [makeStructSetCurrent, LazyExpandedValue.read, readFromSource] at hpass
  · rw [results, hd.results_of_done_error hpass]
    rfl
  · rw [results, hd.results_of_loop hpass]
    exact results_some_current evaluator arguments struct.iter
  · rw [results, hd.results_of_done_error hpass]
    rfl

/-- Once no struct is current, the rest of the evaluator's values come first, then the
arguments. -/
theorem results_no_current :
    ∀ (evaluator : MacroEvaluator) (arguments : List ValueExpr),
      (mk (.makeStruct evaluator none arguments) .readingFieldFromSource).results =
        chainResults (concatResults (evaluator.output.map (makeStructFieldsOf ∘ .ok)))
          (makeStructFields arguments) := by
  intro evaluator arguments
  generalize hwork : evaluator.work + argumentsWork arguments = n
  induction n using Nat.strong_induction_on generalizing evaluator arguments with
  | _ n ih =>
    have hd := ExpandedStructIterator.decreasing
    have hbase : (mk (.makeStruct evaluator none arguments)
        .readingFieldFromSource).nextFieldPass =
        readFromSource (makeStructNextStruct evaluator arguments) := rfl
    rcases hnext : evaluator.next with ⟨_ | value, next⟩
    · obtain ⟨houtput, rfl⟩ := MacroEvaluator.next_eq_none hnext
      simp only [makeStructNextStruct, hnext] at hbase
      rw [houtput, List.map_nil, concatResults_nil, chainResults_nil_left]
      rcases arguments with _ | ⟨value | invocation, arguments⟩
      · rw [results, hd.results_of_done_none hbase]
        rfl
      · rw [results_of_setCurrent hbase, ih _ (by
          simp [← hwork, argumentsWork, ValueExpr.work]; omega) MacroEvaluator.empty arguments rfl]
        simp [makeStructFields, makeStructArgumentValues]
      · rcases hexpand : invocation.expand with e | expansion <;> simp only [hexpand] at hbase
        · rw [results, hd.results_of_done_error hbase]
          simp [makeStructFields, makeStructArgumentValues, MacroExpr.expand_eq_error hexpand,
            makeStructFieldsOf]
        · obtain ⟨hvalues, hframe⟩ := MacroExpr.expand_eq_ok hexpand
          have hlt := hd.loop_lt hbase
          rw [results, hd.results_of_loop hbase, ← results, ih _ (hwork ▸ hlt) _ arguments rfl]
          simp [makeStructFields, makeStructArgumentValues, hvalues, concatResults_append,
            chainResults_assoc]
    · obtain ⟨houtput, hwork'⟩ := MacroEvaluator.next_eq_some hnext
      simp only [makeStructNextStruct, hnext] at hbase
      rw [results_of_setCurrent hbase, ih _ (by have := value.work_pos; omega) next arguments rfl,
        houtput]
      simp [chainResults_assoc]

end MakeStruct

/-- Iterating a struct made by `make_struct` yields the fields of the values its arguments
stand for, in argument order, up to the first value that is not a struct, which yields one
decoding error. -/
theorem makeStruct_iter_results (arguments : List ValueExpr) :
    (LazyExpandedStruct.makeStruct arguments).iter.results = makeStructFields arguments := by
  simpa using MakeStruct.results_no_current MacroEvaluator.empty arguments

end IonRust
