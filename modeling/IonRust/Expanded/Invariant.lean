import IonRust.Expanded.Template

/-!
# The evaluator while the source is read

An iterator goes back to reading its source once it is done with what it took from its
evaluator, and a name/macro field read next pushes its expansion on top of what is left
there.  So what matters across runs is that nothing is left while the source is read.

The tooling iterator keeps this on every run over a value literal or a template: it leaves an
inlined struct only once the evaluator returns `None`.  The main iterator leaves an inlined
struct as soon as that struct is exhausted, so it keeps it as long as every macro in
field-name position expands to at most one value; and then the variant of
`begin_expanding_field_macro` that always pushes the expansion yields what the iterator
yields.  Both invariants are proved over value literals, one pass at a time, and carried to
templates by the map of `IonRust.Expanded.Template`.
-/

namespace IonRust

/-- The field expressions a struct's source reads: a value literal's own, or those a template
body stands for.  A struct made by `make_struct` or `make_field` reads none. -/
def LazyExpandedStruct.sourceFieldExprs :
    LazyExpandedStruct → Option (List (Except IonError FieldExpr))
  | .valueLiteral fieldExprs => some fieldExprs
  | .template fields _ => some (templateFieldExprs fields)
  | .makeStruct _ => none
  | .makeField _ _ => none

theorem LazyExpandedStruct.iter_asValueLiteral {struct : LazyExpandedStruct}
    {fieldExprs : List (Except IonError FieldExpr)}
    (h : struct.sourceFieldExprs = some fieldExprs) :
    struct.iter.asValueLiteral = (LazyExpandedStruct.valueLiteral fieldExprs).iter := by
  rcases struct with _ | _ | _ | _ <;> cases h <;> rfl

theorem LazyExpandedStruct.fieldExprs_asValueLiteral {struct : LazyExpandedStruct}
    {fieldExprs : List (Except IonError FieldExpr)}
    (h : struct.sourceFieldExprs = some fieldExprs) :
    struct.fieldExprs.asValueLiteral = (LazyExpandedStruct.valueLiteral fieldExprs).fieldExprs := by
  rcases struct with _ | _ | _ | _ <;> cases h <;> rfl

/-- What `begin_inlining_struct_from_macro` leaves when it succeeds: the expansion's values
stand before what the evaluator held, and either there was nothing to take, so the state is
as it was and the evaluator empty, or the first of them is a struct, now inlined. -/
theorem beginInliningStructFromMacro_ok {state state' : ExpandedStructIteratorState}
    {evaluator evaluator' : MacroEvaluator} {invocation : MacroExpr}
    (h : beginInliningStructFromMacro state evaluator invocation = (.ok (), state', evaluator')) :
    ∃ values, invocation.expansion = .ok values ∧
      ((values ++ evaluator.output = [] ∧ state' = state ∧ evaluator' = .empty) ∨
        ∃ struct, values ++ evaluator.output = .struct struct :: evaluator'.output ∧
          state' = .inliningAStruct struct.iter) := by
  unfold beginInliningStructFromMacro at h
  rcases hexpand : invocation.expand with e | frame <;> rw [hexpand] at h
  · cases h
  · refine ⟨frame.values, (MacroExpr.expand_eq_ok hexpand).1, ?_⟩
    rw [← MacroEvaluator.output_push]
    rcases hpull : nextStructFromMacro (evaluator.push frame) with ⟨e | _ | struct, next⟩ <;>
      simp only [hpull, Prod.mk.injEq, reduceCtorEq, false_and, true_and] at h
    · obtain ⟨rfl, rfl⟩ := h
      exact .inl ⟨(nextStructFromMacro_none hpull).1, rfl, (nextStructFromMacro_none hpull).2⟩
    · obtain ⟨rfl, rfl⟩ := h
      exact .inr ⟨struct, nextStructFromMacro_some hpull, rfl⟩

/-! ## The tooling iterator -/

namespace FieldExprIterator

/-- A value literal read with nothing left on the evaluator. -/
def ExhaustedWhileReading : FieldExprIterator → Prop
  | ⟨.valueLiteral evaluator _, state⟩ =>
      state = .readingFieldFromSource → evaluator.output = []
  | _ => False

theorem ExhaustedWhileReading.output_eq_nil {it : FieldExprIterator}
    (h : it.ExhaustedWhileReading) (hreading : it.state = .readingFieldFromSource) :
    it.source.evaluator.output = [] := by
  rcases it with ⟨_ | _ | _ | _, state⟩ <;> first | exact h hreading | exact h.elim

/-- Every pass keeps the evaluator exhausted while the source is read. -/
theorem keeps_exhaustedWhileReading :
    ∀ it : FieldExprIterator, it.ExhaustedWhileReading → it.nextPass.Keeps ExhaustedWhileReading
  | ⟨.valueLiteral evaluator fieldExprs, .readingFieldFromSource⟩, hempty => by
      have houtput := hempty rfl
      rcases fieldExprs with _ | ⟨_ | (⟨name, value⟩ | ⟨name, invocation⟩ | invocation), rest⟩
      · trivial
      · trivial
      · exact fun _ => houtput
      · simp only [nextPass, ExpandedStructIteratorSource.nextField, readFieldExpr]
        rcases invocation.expand with e | frame
        · trivial
        · nofun
      · simp only [nextPass, ExpandedStructIteratorSource.nextField, readFieldExpr,
          ExpandedStructIteratorSource.evaluator]
        rcases hbegin : beginInliningStructFromMacro .readingFieldFromSource evaluator invocation
          with ⟨_ | _, state, evaluator'⟩
        · trivial
        · obtain ⟨values, -, ⟨-, rfl, rfl⟩ | ⟨struct, -, rfl⟩⟩ := beginInliningStructFromMacro_ok hbegin
          · exact fun _ => rfl
          · nofun
  | ⟨.valueLiteral evaluator fieldExprs, .expandingValueExpr fieldName⟩, _ => by
      simp only [nextPass, ExpandedStructIteratorSource.evaluator]
      rcases hnext : evaluator.next with ⟨_ | value, evaluator'⟩
      · exact fun _ => by rw [(MacroEvaluator.next_eq_none hnext).2]; rfl
      · by_cases hisEmpty : evaluator'.isEmpty <;> simp only [hisEmpty, ↓reduceIte]
        · exact fun _ => by rw [MacroEvaluator.eq_empty_of_isEmpty hisEmpty]; rfl
        · nofun
  | ⟨.valueLiteral evaluator fieldExprs, .inliningAStruct structIter⟩, _ => by
      simp only [nextPass, ExpandedStructIteratorSource.evaluator]
      rcases structIter.nextFieldPass with ⟨_ | _ | _, _⟩ | _
      · rcases hpull : nextStructFromMacro evaluator with ⟨_ | _ | _, evaluator'⟩
        · trivial
        · exact fun _ => by rw [(nextStructFromMacro_none hpull).2]; rfl
        · nofun
      · trivial
      · nofun
      · nofun
  | ⟨.template _ _, _⟩, h => h.elim
  | ⟨.makeField _, _⟩, h => h.elim
  | ⟨.makeStruct _ _ _, _⟩, h => h.elim

end FieldExprIterator

/-- The tooling iterator reads its source only with nothing left on its evaluator, in every
state that a run over a value literal or a template reaches. -/
theorem fieldExprs_evaluator_exhausted_while_reading (struct : LazyExpandedStruct)
    (fieldExprs : List (Except IonError FieldExpr))
    (hsource : struct.sourceFieldExprs = some fieldExprs) (it : FieldExprIterator)
    (hreach : LoopStep.Reaches FieldExprIterator.nextPass struct.fieldExprs it)
    (hreading : it.state = .readingFieldFromSource) : it.source.evaluator.output = [] := by
  have hmapped :=
    hreach.map FieldExprIterator.asValueLiteral FieldExprIterator.nextPass_asValueLiteral
  rw [LazyExpandedStruct.fieldExprs_asValueLiteral hsource] at hmapped
  have hinv := hmapped.invariant FieldExprIterator.keeps_exhaustedWhileReading fun _ => rfl
  simpa [FieldExprIterator.asValueLiteral] using hinv.output_eq_nil hreading

theorem fieldExprs_evaluator_exhausted_while_reading_fieldKinds :
    (LazyExpandedStruct.valueLiteral FieldKinds.fieldExprs).sourceFieldExprs =
        some FieldKinds.fieldExprs ∧
      LoopStep.Reaches FieldExprIterator.nextPass
        (LazyExpandedStruct.valueLiteral FieldKinds.fieldExprs).fieldExprs
        ⟨.valueLiteral .empty [.ok (.nameValue "quux" (.scalar 1))], .readingFieldFromSource⟩ ∧
      (FieldExprIterator.mk (.valueLiteral .empty [.ok (.nameValue "quux" (.scalar 1))])
        .readingFieldFromSource).source.evaluator.output = [] := by
  have hreach : LoopStep.Reaches FieldExprIterator.nextPass
      (LazyExpandedStruct.valueLiteral FieldKinds.fieldExprs).fieldExprs
      ⟨.valueLiteral .empty [.ok (.nameValue "quux" (.scalar 1))], .readingFieldFromSource⟩ :=
    .head_yield rfl <| .head_yield rfl <| .head_yield rfl <| .head_yield rfl <| .head_yield rfl <|
      .head_yield rfl <| .head_yield rfl <| .head_loop rfl <| .head_yield rfl <| .head_loop rfl <|
      .head_yield rfl <| .head_loop rfl .refl
  exact ⟨rfl, hreach, fieldExprs_evaluator_exhausted_while_reading
    (.valueLiteral FieldKinds.fieldExprs) FieldKinds.fieldExprs rfl _ hreach rfl⟩

/-! ## The main iterator -/

namespace ExpandedStructIterator

/-- The evaluator has nothing left, unless a name/macro field is being expanded. -/
def ExhaustedUnlessExpanding (evaluator : MacroEvaluator) : ExpandedStructIteratorState → Prop
  | .expandingValueExpr _ => True
  | _ => evaluator.output = []

/-- A value literal whose field-name macros still to be read splice at most one struct each,
with nothing left on the evaluator while the source is read or a struct is inlined. -/
def ExhaustedWhileReading : ExpandedStructIterator → Prop
  | mk (.valueLiteral evaluator fieldExprs) state =>
      splicesAtMostOne fieldExprs = true ∧ ExhaustedUnlessExpanding evaluator state
  | _ => False

theorem ExhaustedWhileReading.exhaustedUnlessExpanding {it : ExpandedStructIterator}
    (h : it.ExhaustedWhileReading) : ExhaustedUnlessExpanding it.source.evaluator it.state := by
  rcases it with ⟨_ | _ | _ | _, state⟩
  · exact h.2
  all_goals exact h.elim

/-- Every pass keeps the evaluator exhausted while the source is read or a struct is
inlined, as long as the field-name macros still to be read splice at most one struct each. -/
theorem keeps_exhaustedWhileReading :
    ∀ it : ExpandedStructIterator,
      it.ExhaustedWhileReading → it.nextFieldPass.Keeps ExhaustedWhileReading
  | mk (.valueLiteral evaluator fieldExprs) .readingFieldFromSource, ⟨hsplices, houtput⟩ => by
      rcases fieldExprs with _ | ⟨_ | (⟨name, value⟩ | ⟨name, invocation⟩ | invocation), rest⟩
      · trivial
      · trivial
      · exact ⟨splicesAtMostOne_of_cons hsplices, houtput⟩
      · simp only [nextFieldPass, ExpandedStructIteratorSource.nextField, readFromSource,
          beginExpandingFieldMacro]
        rcases invocation.expand with e | frame
        · trivial
        · rcases invocation.singletonValue? with _ | value
          · exact ⟨splicesAtMostOne_of_cons hsplices, trivial⟩
          · exact ⟨splicesAtMostOne_of_cons hsplices, houtput⟩
      · simp only [nextFieldPass, ExpandedStructIteratorSource.nextField, readFromSource,
          inlineFieldNameMacro, ExpandedStructIteratorSource.evaluator]
        rcases hbegin : beginInliningStructFromMacro .readingFieldFromSource evaluator invocation
          with ⟨_ | _, state, evaluator'⟩
        · trivial
        · refine ⟨splicesAtMostOne_of_cons hsplices, ?_⟩
          obtain ⟨values, hvalues, ⟨-, rfl, rfl⟩ | ⟨struct, hcons, rfl⟩⟩ :=
            beginInliningStructFromMacro_ok hbegin
          · rfl
          · have hlen := length_le_one_of_splicesAtMostOne hsplices hvalues
            rw [houtput, List.append_nil] at hcons
            subst hcons
            simpa using hlen
  | mk (.valueLiteral evaluator fieldExprs) (.inliningAStruct structIter), hinv => by
      simp only [nextFieldPass]
      rcases structIter.nextFieldPass with ⟨_ | _ | _, _⟩ | _
      · exact hinv
      · trivial
      · exact hinv
      · exact hinv
  | mk (.valueLiteral evaluator fieldExprs) (.expandingValueExpr fieldName), ⟨hsplices, _⟩ => by
      simp only [nextFieldPass, ExpandedStructIteratorSource.evaluator]
      rcases hnext : evaluator.next with ⟨_ | value, evaluator'⟩
      · exact ⟨hsplices, by rw [(MacroEvaluator.next_eq_none hnext).2]; rfl⟩
      · by_cases hisEmpty : evaluator'.isEmpty <;> simp only [hisEmpty, ↓reduceIte]
        · exact ⟨hsplices, by rw [MacroEvaluator.eq_empty_of_isEmpty hisEmpty]; rfl⟩
        · exact ⟨hsplices, trivial⟩
  | mk (.template _ _) _, h => h.elim
  | mk (.makeField _) _, h => h.elim
  | mk (.makeStruct _ _ _) _, h => h.elim

end ExpandedStructIterator

/-- The main iterator has nothing left on its evaluator in every state that a run over a value
literal or a template reaches, unless it is expanding a name/macro field: so it reads its source,
and it inlines a struct, only with the evaluator exhausted.  This holds as long as every macro in
field-name position there expands to at most one value. -/
theorem iter_evaluator_exhausted_while_reading (struct : LazyExpandedStruct)
    (fieldExprs : List (Except IonError FieldExpr))
    (hsource : struct.sourceFieldExprs = some fieldExprs)
    (hsplices : splicesAtMostOne fieldExprs = true) (it : ExpandedStructIterator)
    (hreach : LoopStep.Reaches ExpandedStructIterator.nextFieldPass struct.iter it) :
    ExpandedStructIterator.ExhaustedUnlessExpanding it.source.evaluator it.state := by
  have hmapped := hreach.map ExpandedStructIterator.asValueLiteral
    ExpandedStructIterator.nextFieldPass_asValueLiteral
  rw [LazyExpandedStruct.iter_asValueLiteral hsource] at hmapped
  have hinv :=
    hmapped.invariant ExpandedStructIterator.keeps_exhaustedWhileReading ⟨hsplices, rfl⟩
  rcases it with ⟨source, state⟩
  simpa [ExpandedStructIterator.asValueLiteral, ExpandedStructIterator.source,
    ExpandedStructIterator.state] using hinv.exhaustedUnlessExpanding

theorem iter_evaluator_exhausted_while_reading_oneStructKinds :
    (LazyExpandedStruct.valueLiteral FieldKinds.oneStructKinds).sourceFieldExprs =
        some FieldKinds.oneStructKinds ∧
      splicesAtMostOne FieldKinds.oneStructKinds = true ∧
      LoopStep.Reaches ExpandedStructIterator.nextFieldPass
        (LazyExpandedStruct.valueLiteral FieldKinds.oneStructKinds).iter
        (.mk (.valueLiteral .empty [.ok (.nameValue "quux" (.scalar 1))]) .readingFieldFromSource) ∧
      ExpandedStructIterator.ExhaustedUnlessExpanding
        (ExpandedStructIterator.mk (.valueLiteral .empty [.ok (.nameValue "quux" (.scalar 1))])
          .readingFieldFromSource).source.evaluator .readingFieldFromSource := by
  have hreach : LoopStep.Reaches ExpandedStructIterator.nextFieldPass
      (LazyExpandedStruct.valueLiteral FieldKinds.oneStructKinds).iter
      (.mk (.valueLiteral .empty [.ok (.nameValue "quux" (.scalar 1))]) .readingFieldFromSource) :=
    .head_yield rfl <| .head_loop rfl <| .head_yield rfl <| .head_yield rfl <| .head_yield rfl <|
      .head_loop rfl <| .head_yield rfl <| .head_loop rfl .refl
  exact ⟨rfl, rfl, hreach, iter_evaluator_exhausted_while_reading
    (.valueLiteral FieldKinds.oneStructKinds) FieldKinds.oneStructKinds rfl rfl _ hreach⟩

/-- In every state that the main iterator reaches reading a name/macro field of a value
literal whose field-name macros splice at most one struct each, the variant of
`begin_expanding_field_macro` that always pushes the expansion leads to the fields that the
iterator yields from there. -/
theorem alwaysPushing_results_eq_iter_results (fieldExprs : List (Except IonError FieldExpr))
    (hsplices : splicesAtMostOne fieldExprs = true) (evaluator : MacroEvaluator)
    (name : String) (invocation : MacroExpr) (rest : List (Except IonError FieldExpr))
    (hreach : LoopStep.Reaches ExpandedStructIterator.nextFieldPass
      (LazyExpandedStruct.valueLiteral fieldExprs).iter
      (.mk (.valueLiteral evaluator (.ok (.nameMacro name invocation) :: rest))
        .readingFieldFromSource)) :
    LoopStep.stepResults ExpandedStructIterator.results
        (ExpandedStructIterator.beginExpandingFieldMacroAlwaysPushing (.valueLiteral evaluator rest)
          name invocation) =
      (ExpandedStructIterator.mk (.valueLiteral evaluator (.ok (.nameMacro name invocation) :: rest))
        .readingFieldFromSource).results := by
  obtain ⟨hsplices', houtput⟩ :=
    hreach.invariant ExpandedStructIterator.keeps_exhaustedWhileReading ⟨hsplices, rfl⟩
  have houtput : evaluator.output = [] := houtput
  rw [ExpandedStructIterator.results_readingFieldFromSource _ _ houtput hsplices']
  unfold ExpandedStructIterator.beginExpandingFieldMacroAlwaysPushing
  rcases hexpand : invocation.expand with e | frame
  · simp [LoopStep.stepResults, expandedFields, fieldExprItemFields, fieldExprFields,
      MacroExpr.expand_eq_error hexpand]
  · simp only [LoopStep.stepResults, ExpandedStructIteratorSource.evaluator,
      ExpandedStructIteratorSource.setEvaluator]
    rw [ExpandedStructIterator.results_expandingValueExpr, MacroEvaluator.output_push, houtput,
      List.append_nil, ExpandedStructIterator.results_readingFieldFromSource rest .empty rfl
        (splicesAtMostOne_of_cons hsplices')]
    simp [expandedFields, fieldExprItemFields, fieldExprFields, (MacroExpr.expand_eq_ok hexpand).1]

theorem alwaysPushing_results_eq_iter_results_oneStructKinds :
    splicesAtMostOne FieldKinds.oneStructKinds = true ∧
      LoopStep.Reaches ExpandedStructIterator.nextFieldPass
        (LazyExpandedStruct.valueLiteral FieldKinds.oneStructKinds).iter
        (.mk (.valueLiteral .empty (.ok (.nameMacro "bar" FieldKinds.threeValues) ::
          [.ok (.eExp FieldKinds.oneStruct), .ok (.nameValue "quux" (.scalar 1))]))
          .readingFieldFromSource) ∧
      LoopStep.stepResults ExpandedStructIterator.results
          (ExpandedStructIterator.beginExpandingFieldMacroAlwaysPushing
            (.valueLiteral .empty
              [.ok (.eExp FieldKinds.oneStruct), .ok (.nameValue "quux" (.scalar 1))])
            "bar" FieldKinds.threeValues) =
        (ExpandedStructIterator.mk (.valueLiteral .empty
          (.ok (.nameMacro "bar" FieldKinds.threeValues) ::
            [.ok (.eExp FieldKinds.oneStruct), .ok (.nameValue "quux" (.scalar 1))]))
          .readingFieldFromSource).results :=
  ⟨rfl, .head_yield rfl .refl,
    alwaysPushing_results_eq_iter_results FieldKinds.oneStructKinds rfl .empty "bar"
      FieldKinds.threeValues _ (.head_yield rfl .refl)⟩

end IonRust
