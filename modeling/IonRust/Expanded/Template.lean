import IonRust.Expanded.Inlining

/-!
# Template structs

A template struct's source reads the fields of the template body, each as the field
expression it stands for: a name/value field for a literal value, a name/macro field for a
macro invocation.  Reading a template body is reading a value literal whose raw iterator
yields those field expressions: the map from template sources to such value literals
commutes with every pass of both iterators, so it keeps their results.  A template body has
no macro in field-name position, so on a template struct both iterators yield the fields of
the table of field expressions.
-/

namespace IonRust

/-- The field expressions that a template source reads from a template body. -/
def templateFieldExprs (fields : List TemplateField) : List (Except IonError FieldExpr) :=
  fields.map fun field => .ok field.toFieldExpr

theorem splicesAtMostOne_templateFieldExprs (fields : List TemplateField) :
    splicesAtMostOne (templateFieldExprs fields) = true := by
  induction fields with
  | nil => rfl
  | cons field fields ih =>
    rcases field with ⟨name, _ | _⟩ <;>
      simpa [templateFieldExprs, splicesAtMostOne, TemplateField.toFieldExpr,
        FieldExpr.splicesAtMostOne] using ih

namespace ExpandedStructIteratorSource

/-- A template source read as the value literal of its field expressions; other sources are
left as they are. -/
def asValueLiteral : ExpandedStructIteratorSource → ExpandedStructIteratorSource
  | .template evaluator fields => .valueLiteral evaluator (templateFieldExprs fields)
  | source => source

@[simp] theorem evaluator_asValueLiteral (source : ExpandedStructIteratorSource) :
    source.asValueLiteral.evaluator = source.evaluator := by
  cases source <;> rfl

@[simp] theorem setEvaluator_asValueLiteral (source : ExpandedStructIteratorSource)
    (evaluator : MacroEvaluator) :
    source.asValueLiteral.setEvaluator evaluator = (source.setEvaluator evaluator).asValueLiteral := by
  cases source <;> rfl

theorem mapState_makeStructSetCurrent (value : LazyExpandedValue) (evaluator : MacroEvaluator)
    (arguments : List ValueExpr) :
    (makeStructSetCurrent value evaluator arguments).mapState asValueLiteral =
      makeStructSetCurrent value evaluator arguments := by
  unfold makeStructSetCurrent
  split <;> rfl

theorem mapState_makeStructNextStruct (evaluator : MacroEvaluator) (arguments : List ValueExpr) :
    (makeStructNextStruct evaluator arguments).mapState asValueLiteral =
      makeStructNextStruct evaluator arguments := by
  unfold makeStructNextStruct
  split
  · exact mapState_makeStructSetCurrent _ _ _
  · split
    · rfl
    · exact mapState_makeStructSetCurrent _ _ _
    · split <;> rfl

/-- A make_struct source is left as it is, and so is every source its passes lead to. -/
theorem mapState_nextFieldFromMakeStruct (evaluator : MacroEvaluator)
    (current : Option ExpandedStructIterator) (arguments : List ValueExpr) :
    (nextFieldFromMakeStruct evaluator current arguments).mapState asValueLiteral =
      nextFieldFromMakeStruct evaluator current arguments := by
  rcases current with _ | current
  · exact mapState_makeStructNextStruct evaluator arguments
  · simp only [nextFieldFromMakeStruct]
    split
    · rfl
    · rfl
    · exact mapState_makeStructNextStruct evaluator arguments
    · rfl

theorem nextField_asValueLiteral (source : ExpandedStructIteratorSource) :
    source.asValueLiteral.nextField = source.nextField.mapState asValueLiteral := by
  rcases source with ⟨_, _ | _⟩ | ⟨_, _ | _⟩ | (_ | _) | ⟨evaluator, current, arguments⟩
  case makeStruct => exact (mapState_nextFieldFromMakeStruct evaluator current arguments).symm
  all_goals rfl

end ExpandedStructIteratorSource

open ExpandedStructIteratorSource

namespace ExpandedStructIterator

/-- The iterator with its template source read as a value literal. -/
def asValueLiteral : ExpandedStructIterator → ExpandedStructIterator
  | mk source state => mk source.asValueLiteral state

theorem readFromSource_mapState (step : LoopStep FieldExpr ExpandedStructIteratorSource) :
    readFromSource (step.mapState ExpandedStructIteratorSource.asValueLiteral) =
      (readFromSource step).mapState asValueLiteral := by
  rcases step with ⟨_ | _ | (⟨name, value⟩ | ⟨name, invocation⟩ | invocation), source⟩ | source
  · rfl
  · rfl
  · rfl
  · simp only [LoopStep.mapState, readFromSource, beginExpandingFieldMacro]
    rcases invocation.expand with e | frame
    · rfl
    · rcases invocation.singletonValue? with _ | value <;> simp [LoopStep.mapState, asValueLiteral]
  · simp only [LoopStep.mapState, readFromSource, inlineFieldNameMacro, evaluator_asValueLiteral]
    rcases beginInliningStructFromMacro .readingFieldFromSource source.evaluator invocation
      with ⟨_ | _, state, evaluator⟩ <;> simp [LoopStep.mapState, asValueLiteral]
  · rfl

theorem nextFieldPass_asValueLiteral (it : ExpandedStructIterator) :
    it.asValueLiteral.nextFieldPass = it.nextFieldPass.mapState asValueLiteral := by
  rcases it with ⟨source, _ | fieldName | structIter⟩
  · simp only [asValueLiteral, nextFieldPass, nextField_asValueLiteral, readFromSource_mapState]
  · simp only [asValueLiteral, nextFieldPass, evaluator_asValueLiteral]
    split <;> simp [LoopStep.mapState, asValueLiteral]
  · simp only [asValueLiteral, nextFieldPass]
    split <;> rfl

theorem results_asValueLiteral (it : ExpandedStructIterator) :
    it.asValueLiteral.results = it.results :=
  decreasing.results_map decreasing asValueLiteral nextFieldPass_asValueLiteral it

end ExpandedStructIterator

namespace FieldExprIterator

/-- The iterator with its template source read as a value literal. -/
def asValueLiteral (it : FieldExprIterator) : FieldExprIterator :=
  ⟨it.source.asValueLiteral, it.state⟩

theorem readFieldExpr_asValueLiteral (source : ExpandedStructIteratorSource) (field : FieldExpr) :
    readFieldExpr source.asValueLiteral field = (readFieldExpr source field).mapState asValueLiteral := by
  rcases field with ⟨name, value⟩ | ⟨name, invocation⟩ | invocation
  · rfl
  · simp only [readFieldExpr, evaluator_asValueLiteral]
    split <;> simp [LoopStep.mapState, asValueLiteral]
  · simp only [readFieldExpr, evaluator_asValueLiteral]
    split <;> simp [LoopStep.mapState, asValueLiteral]

theorem nextPass_asValueLiteral (it : FieldExprIterator) :
    it.asValueLiteral.nextPass = it.nextPass.mapState asValueLiteral := by
  rcases it with ⟨source, _ | fieldName | structIter⟩
  · simp only [asValueLiteral, nextPass, nextField_asValueLiteral]
    rcases source.nextField with ⟨_ | _ | field, next⟩ | next
    · rfl
    · rfl
    · exact readFieldExpr_asValueLiteral next field
    · rfl
  · simp only [asValueLiteral, nextPass, evaluator_asValueLiteral]
    split <;> simp [LoopStep.mapState, asValueLiteral]
  · simp only [asValueLiteral, nextPass, evaluator_asValueLiteral]
    split
    · rfl
    · rfl
    · rfl
    · split <;> simp [LoopStep.mapState, asValueLiteral]

theorem results_asValueLiteral (it : FieldExprIterator) :
    it.asValueLiteral.results = it.results :=
  decreasing.results_map decreasing asValueLiteral nextPass_asValueLiteral it

end FieldExprIterator

theorem ExpandedStructIterator.template_results (fields : List TemplateField)
    (index : TemplateStructIndex) :
    (LazyExpandedStruct.template fields index).iter.results =
      expandedFields (templateFieldExprs fields) :=
  (results_asValueLiteral _).symm.trans
    (results_readingFieldFromSource _ .empty rfl (splicesAtMostOne_templateFieldExprs fields))

theorem FieldExprIterator.template_results (fields : List TemplateField)
    (index : TemplateStructIndex) :
    withoutMacroItems (LazyExpandedStruct.template fields index).fieldExprs.results =
      expandedFields (templateFieldExprs fields) :=
  (congrArg withoutMacroItems
    ((results_asValueLiteral (LazyExpandedStruct.template fields index).fieldExprs).symm.trans
      (results_readingFieldFromSource (templateFieldExprs fields) .empty rfl))).trans
    (withoutMacroItems_fieldExprItems _)

/-- On a template struct both iterators yield the fields of the table of the body's field
expressions: a template body puts no macro in field-name position. -/
theorem template_results_eq_expandedFields (fields : List TemplateField)
    (index : TemplateStructIndex) :
    (LazyExpandedStruct.template fields index).iter.results =
        expandedFields (templateFieldExprs fields) ∧
      withoutMacroItems (LazyExpandedStruct.template fields index).fieldExprs.results =
        expandedFields (templateFieldExprs fields) :=
  ⟨ExpandedStructIterator.template_results fields index,
    FieldExprIterator.template_results fields index⟩

end IonRust
