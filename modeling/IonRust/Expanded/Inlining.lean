import IonRust.Expanded.Termination

/-!
# Fields of a struct, by the table of field expressions

What a struct's fields are meant to be: each field expression stands for fields of its own,
in place.  A name/value field stands for itself, a name/macro field for one field per value of
the expansion, under its name, and a macro in field-name position for the fields of the
structs it expands to, one struct after another, each iterated by its own iterator.  The
first value there that is not a struct ends them with a decoding error.

What the tooling `FieldExprIterator` yields is `fieldExprItems`, which is this table once its
own name/macro and e-expression items are deleted.  What `ExpandedStructIterator` yields is
`iterFields`, which is the table as long as every macro in field-name position expands to at
most one value.  When one expands to more, the main iterator goes back to reading its source
after the first struct: the other structs stay on the evaluator, and are either lost or
yielded as values of the next name/macro field.
-/

namespace IonRust

/-- `fields(u)` for a value in field-name position: a struct's fields as its own iterator
yields them; a value that is not a struct is a decoding error. -/
def inlinedFieldsOf (value : LazyExpandedValue) : List (Except IonError LazyExpandedField) :=
  match value.read with
  | .error e => [.error e]
  | .ok (.struct struct) => struct.iter.results
  | .ok (.scalar _) =>
      [.error (.decodingError "macros in field name position must produce structs")]

/-- `D(e)`: the fields that one field expression stands for. -/
def fieldExprFields : FieldExpr → List (Except IonError LazyExpandedField)
  | .nameValue name value => [.ok ⟨name, value⟩]
  | .nameMacro name invocation =>
      match invocation.expansion with
      | .error e => [.error e]
      | .ok values => values.map fun value => .ok ⟨name, value⟩
  | .eExp invocation =>
      match invocation.expansion with
      | .error e => [.error e]
      | .ok values => concatResults (values.map inlinedFieldsOf)

/-- `D` of an item of the raw field-expression source, where an error stands for itself. -/
def fieldExprItemFields : Except IonError FieldExpr → List (Except IonError LazyExpandedField)
  | .error e => [.error e]
  | .ok fieldExpr => fieldExprFields fieldExpr

/-- `concat(D(e₁), …, D(e_k))`, ending at the first error. -/
def expandedFields (fieldExprs : List (Except IonError FieldExpr)) :
    List (Except IonError LazyExpandedField) :=
  concatResults (fieldExprs.map fieldExprItemFields)

theorem expandedFields_cons (item : Except IonError FieldExpr)
    (rest : List (Except IonError FieldExpr)) :
    expandedFields (item :: rest) = chainResults (fieldExprItemFields item) (expandedFields rest) :=
  rfl

/-- The items of a `FieldExprIterator` with its name/macro and e-expression items deleted,
each name/value item read as the field it is. -/
def withoutMacroItems : List (Except IonError FieldExpr) → List (Except IonError LazyExpandedField)
  | [] => []
  | .error e :: items => .error e :: withoutMacroItems items
  | .ok (.nameValue name value) :: items => .ok ⟨name, value⟩ :: withoutMacroItems items
  | .ok (.nameMacro _ _) :: items => withoutMacroItems items
  | .ok (.eExp _) :: items => withoutMacroItems items

/-! ## The struct of the `field_kinds` test

`{foo: 0, bar: (:three_values), (:three_structs), quux: true}`, its boolean written as the
scalar 1, and two structs built from its macros. -/

namespace FieldKinds

/-- `(macro three_values () (.values 1 2 3))` -/
def threeValues : MacroExpr :=
  .mk (.ok [.scalar 1, .scalar 2, .scalar 3]) false true

def dog : LazyExpandedStruct := .valueLiteral [.ok (.nameValue "dog" (.scalar 1))]

def cat : LazyExpandedStruct := .valueLiteral [.ok (.nameValue "cat" (.scalar 2))]

def mouse : LazyExpandedStruct := .valueLiteral [.ok (.nameValue "mouse" (.scalar 3))]

/-- `(macro three_structs () (.values {dog: 1} {cat: 2} {mouse: 3}))` -/
def threeStructs : MacroExpr :=
  .mk (.ok [.struct dog, .struct cat, .struct mouse]) false true

/-- `(macro one_struct () {dog: 1})` -/
def oneStruct : MacroExpr :=
  .mk (.ok [.struct dog]) false true

def fieldExprs : List (Except IonError FieldExpr) :=
  [.ok (.nameValue "foo" (.scalar 0)), .ok (.nameMacro "bar" threeValues), .ok (.eExp threeStructs),
    .ok (.nameValue "quux" (.scalar 1))]

/-- `{foo: 0, bar: (:three_values), (:one_struct), quux: true}` -/
def oneStructKinds : List (Except IonError FieldExpr) :=
  [.ok (.nameValue "foo" (.scalar 0)), .ok (.nameMacro "bar" threeValues), .ok (.eExp oneStruct),
    .ok (.nameValue "quux" (.scalar 1))]

/-- A macro that the expansion analysis proves to produce the single value 7. -/
def seven : MacroExpr :=
  .mk (.ok [.scalar 7]) true true

/-- `{(:three_structs), bar: (:seven)}` -/
def splicedThenSingleton : List (Except IonError FieldExpr) :=
  [.ok (.eExp threeStructs), .ok (.nameMacro "bar" seven)]

/-- The evaluator once `{dog: 1}` is inlined: the other two structs wait on it. -/
def pendingStructs : MacroEvaluator :=
  ⟨[⟨[.struct cat, .struct mouse], true⟩]⟩

end FieldKinds

/-- A field expression that splices at most one struct: a macro in field-name position whose
expansion has at most one value, or a field expression of another kind. -/
def FieldExpr.splicesAtMostOne : FieldExpr → Bool
  | .eExp invocation =>
      match invocation.expansion with
      | .ok values => values.length ≤ 1
      | .error _ => true
  | _ => true

/-- Every field-name macro among `fieldExprs` expands to at most one value. -/
def splicesAtMostOne (fieldExprs : List (Except IonError FieldExpr)) : Bool :=
  fieldExprs.all fun
    | .ok fieldExpr => fieldExpr.splicesAtMostOne
    | .error _ => true

theorem splicesAtMostOne_of_cons {item : Except IonError FieldExpr}
    {rest : List (Except IonError FieldExpr)} (h : splicesAtMostOne (item :: rest) = true) :
    splicesAtMostOne rest = true := by
  simp only [splicesAtMostOne, List.all_cons, Bool.and_eq_true] at h ⊢
  exact h.2

theorem length_le_one_of_splicesAtMostOne {invocation : MacroExpr}
    {rest : List (Except IonError FieldExpr)} {values : List LazyExpandedValue}
    (h : splicesAtMostOne (.ok (.eExp invocation) :: rest) = true)
    (hexpansion : invocation.expansion = .ok values) : values.length ≤ 1 := by
  simp only [splicesAtMostOne, List.all_cons, Bool.and_eq_true] at h
  simpa [FieldExpr.splicesAtMostOne, hexpansion] using h.1

/-! ## Taking structs from the evaluator -/

section NextStruct

variable {evaluator evaluator' : MacroEvaluator}

theorem nextStructFromMacro_none (h : nextStructFromMacro evaluator = (.ok none, evaluator')) :
    evaluator.output = [] ∧ evaluator' = .empty := by
  unfold nextStructFromMacro at h
  rcases hnext : evaluator.next with ⟨_ | value, next⟩ <;> rw [hnext] at h
  · cases h
    exact MacroEvaluator.next_eq_none hnext
  · rcases value with _ | _ | _ <;> simp [LazyExpandedValue.read] at h

theorem nextStructFromMacro_some {struct : LazyExpandedStruct}
    (h : nextStructFromMacro evaluator = (.ok (some struct), evaluator')) :
    evaluator.output = .struct struct :: evaluator'.output := by
  unfold nextStructFromMacro at h
  rcases hnext : evaluator.next with ⟨_ | value, next⟩ <;> rw [hnext] at h
  · cases h
  · rcases value with _ | _ | _ <;> simp [LazyExpandedValue.read] at h
    obtain ⟨rfl, rfl⟩ := h
    exact (MacroEvaluator.next_eq_some hnext).1

theorem nextStructFromMacro_error {e : IonError}
    (h : nextStructFromMacro evaluator = (.error e, evaluator')) :
    ∃ value rest, evaluator.output = value :: rest ∧ (∀ struct, value ≠ .struct struct) ∧
      inlinedFieldsOf value = [.error e] := by
  unfold nextStructFromMacro at h
  rcases hnext : evaluator.next with ⟨_ | value, next⟩ <;> rw [hnext] at h
  · cases h
  · refine ⟨value, next.output, (MacroEvaluator.next_eq_some hnext).1, ?_⟩
    rcases value with _ | _ | _ <;> simp [LazyExpandedValue.read] at h <;>
      simp [inlinedFieldsOf, LazyExpandedValue.read, h.1]

end NextStruct

/-! ## The tooling iterator -/

/-- What the tooling iterator yields from a value literal: each field expression as itself, a
name/macro field followed by one name/value item per value of its expansion, and a macro in
field-name position followed by the fields of the structs it expands to.  An expansion that
fails, or whose first value is not a struct, yields its error in place of the item. -/
def fieldExprItems : List (Except IonError FieldExpr) → List (Except IonError FieldExpr)
  | [] => []
  | .error e :: _ => [.error e]
  | .ok (.nameValue name value) :: rest => .ok (.nameValue name value) :: fieldExprItems rest
  | .ok (.nameMacro name invocation) :: rest =>
      match invocation.expansion with
      | .error e => [.error e]
      | .ok values =>
          .ok (.nameMacro name invocation) ::
            chainResults (values.map fun value => .ok (.nameValue name value)) (fieldExprItems rest)
  | .ok (.eExp invocation) :: rest =>
      match invocation.expansion with
      | .error e => [.error e]
      | .ok [] => .ok (.eExp invocation) :: fieldExprItems rest
      | .ok (.struct struct :: values) =>
          .ok (.eExp invocation) ::
            chainResults
              ((concatResults ((.struct struct :: values).map inlinedFieldsOf)).map
                (Except.map LazyExpandedField.toFieldExpr))
              (fieldExprItems rest)
      | .ok (value :: _) => (inlinedFieldsOf value).map (Except.map LazyExpandedField.toFieldExpr)

theorem withoutMacroItems_chainResults (ys : List (Except IonError FieldExpr)) :
    ∀ xs : List (Except IonError FieldExpr),
      withoutMacroItems (chainResults xs ys) =
        chainResults (withoutMacroItems xs) (withoutMacroItems ys)
  | [] => rfl
  | .error _ :: _ => rfl
  | .ok (.nameValue _ _) :: xs => by
      simp only [chainResults_ok, withoutMacroItems, withoutMacroItems_chainResults ys xs]
  | .ok (.nameMacro _ _) :: xs => withoutMacroItems_chainResults ys xs
  | .ok (.eExp _) :: xs => withoutMacroItems_chainResults ys xs

@[simp] theorem withoutMacroItems_map_toFieldExpr :
    ∀ xs : List (Except IonError LazyExpandedField),
      withoutMacroItems (xs.map (Except.map LazyExpandedField.toFieldExpr)) = xs
  | [] => rfl
  | .error _ :: xs | .ok _ :: xs => by
      simp [Except.map, LazyExpandedField.toFieldExpr, withoutMacroItems,
        withoutMacroItems_map_toFieldExpr xs]

@[simp] theorem withoutMacroItems_map_nameValue (name : String) :
    ∀ values : List LazyExpandedValue,
      withoutMacroItems (values.map fun value => .ok (.nameValue name value)) =
        values.map fun value => .ok ⟨name, value⟩
  | [] => rfl
  | _ :: values => by simp [withoutMacroItems, withoutMacroItems_map_nameValue name values]

/-- Deleting its name/macro and e-expression items leaves the table. -/
theorem withoutMacroItems_fieldExprItems :
    ∀ fieldExprs : List (Except IonError FieldExpr),
      withoutMacroItems (fieldExprItems fieldExprs) = expandedFields fieldExprs
  | [] => rfl
  | .error _ :: _ => rfl
  | .ok (.nameValue name value) :: rest => by
      rw [expandedFields_cons, ← withoutMacroItems_fieldExprItems rest]
      rfl
  | .ok (.nameMacro name invocation) :: rest => by
      rw [expandedFields_cons, ← withoutMacroItems_fieldExprItems rest]
      rcases hexpansion : invocation.expansion with e | values <;>
        simp [fieldExprItems, hexpansion, fieldExprItemFields, fieldExprFields, withoutMacroItems,
          withoutMacroItems_chainResults]
  | .ok (.eExp invocation) :: rest => by
      rw [expandedFields_cons, ← withoutMacroItems_fieldExprItems rest]
      rcases hexpansion : invocation.expansion with e | _ | ⟨_ | struct | _, values⟩ <;>
        simp [fieldExprItems, hexpansion, fieldExprItemFields, fieldExprFields, withoutMacroItems,
          withoutMacroItems_chainResults, chainResults_map, inlinedFieldsOf, LazyExpandedValue.read]

namespace FieldExprIterator

/-- While a struct is inlined, its fields come first, then the fields of the structs left on
the evaluator. -/
theorem results_inliningAStruct (fieldExprs : List (Except IonError FieldExpr)) :
    ∀ (evaluator : MacroEvaluator) (structIter : ExpandedStructIterator),
      (FieldExprIterator.mk (.valueLiteral evaluator fieldExprs)
          (.inliningAStruct structIter)).results =
        chainResults
          ((chainResults structIter.results
              (concatResults (evaluator.output.map inlinedFieldsOf))).map
            (Except.map LazyExpandedField.toFieldExpr))
          (FieldExprIterator.mk (.valueLiteral .empty fieldExprs) .readingFieldFromSource).results := by
  intro evaluator structIter
  generalize hwork : structIter.work + evaluator.work = n
  induction n using Nat.strong_induction_on generalizing evaluator structIter with
  | _ n ih =>
    rw [results_eq, structIter.results_eq]
    rcases hstep : structIter.nextFieldPass with ⟨_ | _ | field, next⟩ | next <;>
      simp only [nextPass, hstep, LoopStep.stepResults, chainResults_nil_left,
        chainResults_error, chainResults_ok, List.map_cons, List.map_nil, Except.map]
    · rcases hpull : nextStructFromMacro evaluator with ⟨e | _ | struct, next'⟩ <;>
        simp only [hpull, LoopStep.stepResults, ExpandedStructIteratorSource.evaluator,
          ExpandedStructIteratorSource.setEvaluator]
      · obtain ⟨value, values, hcons, -, hfields⟩ := nextStructFromMacro_error hpull
        simp [hcons, hfields, Except.map]
      · obtain ⟨hnil, rfl⟩ := nextStructFromMacro_none hpull
        simp [hnil]
      · have hcons := nextStructFromMacro_some hpull
        have hlt := (nextStructFromMacro_work hpull).2.1 struct rfl
        rw [ih _ (by simp only [LazyExpandedStruct.work_iter]; omega) next' struct.iter rfl]
        simp [hcons, inlinedFieldsOf, LazyExpandedValue.read]
    · have := ExpandedStructIterator.decreasing.done_lt hstep
      rw [ih _ (by omega) evaluator next rfl]
    · have := ExpandedStructIterator.decreasing.loop_lt hstep
      rw [ih _ (by omega) evaluator next rfl]

/-- While a name/macro field is expanded, the values left on the evaluator come first, all
under its name. -/
theorem results_expandingValueExpr (fieldName : String)
    (fieldExprs : List (Except IonError FieldExpr)) :
    ∀ evaluator : MacroEvaluator,
      (FieldExprIterator.mk (.valueLiteral evaluator fieldExprs)
          (.expandingValueExpr fieldName)).results =
        chainResults (evaluator.output.map fun value => .ok (.nameValue fieldName value))
          (FieldExprIterator.mk (.valueLiteral .empty fieldExprs) .readingFieldFromSource).results := by
  intro evaluator
  generalize hwork : evaluator.work = n
  induction n using Nat.strong_induction_on generalizing evaluator with
  | _ n ih =>
    rw [results_eq]
    rcases hnext : evaluator.next with ⟨_ | value, next⟩
    · obtain ⟨houtput, rfl⟩ := MacroEvaluator.next_eq_none hnext
      simp only [nextPass, ExpandedStructIteratorSource.evaluator, hnext,
        ExpandedStructIteratorSource.setEvaluator, LoopStep.stepResults, houtput, List.map_nil,
        chainResults_nil_left]
    · obtain ⟨houtput, hlt⟩ := MacroEvaluator.next_eq_some hnext
      simp only [nextPass, ExpandedStructIteratorSource.evaluator, hnext,
        ExpandedStructIteratorSource.setEvaluator, LoopStep.stepResults, houtput, List.map_cons,
        chainResults_ok]
      by_cases hempty : next.isEmpty
      · rw [if_pos hempty, MacroEvaluator.eq_empty_of_isEmpty hempty]
        rfl
      · rw [if_neg hempty, ih _ (by have := value.work_pos; omega) next rfl]

/-- Reading a value literal with nothing left on the evaluator yields `fieldExprItems`. -/
theorem results_readingFieldFromSource :
    ∀ (fieldExprs : List (Except IonError FieldExpr)) (evaluator : MacroEvaluator),
      evaluator.output = [] →
      (FieldExprIterator.mk (.valueLiteral evaluator fieldExprs) .readingFieldFromSource).results =
        fieldExprItems fieldExprs
  | [], _, _ => by
      rw [results_eq]
      rfl
  | .error e :: rest, _, _ => by
      rw [results_eq]
      rfl
  | .ok (.nameValue name value) :: rest, evaluator, houtput => by
      rw [results_eq]
      exact congrArg (.ok (.nameValue name value) :: ·)
        (results_readingFieldFromSource rest evaluator houtput)
  | .ok (.nameMacro name invocation) :: rest, evaluator, houtput => by
      rw [results_eq]
      rcases hexpand : invocation.expand with e | frame
      · simp [nextPass, ExpandedStructIteratorSource.nextField, readFieldExpr, hexpand,
          LoopStep.stepResults, fieldExprItems, MacroExpr.expand_eq_error hexpand]
      · have hvalues := (MacroExpr.expand_eq_ok hexpand).1
        simp only [nextPass, ExpandedStructIteratorSource.nextField, readFieldExpr, hexpand,
          LoopStep.stepResults, ExpandedStructIteratorSource.evaluator,
          ExpandedStructIteratorSource.setEvaluator]
        rw [results_expandingValueExpr, MacroEvaluator.output_push, houtput, List.append_nil,
          results_readingFieldFromSource rest .empty rfl]
        simp [fieldExprItems, hvalues]
  | .ok (.eExp invocation) :: rest, evaluator, houtput => by
      rw [results_eq]
      rcases hexpand : invocation.expand with e | frame
      · simp [nextPass, ExpandedStructIteratorSource.nextField, readFieldExpr,
          beginInliningStructFromMacro, hexpand, LoopStep.stepResults, fieldExprItems,
          MacroExpr.expand_eq_error hexpand]
      · have hvalues := (MacroExpr.expand_eq_ok hexpand).1
        have hpushed : (evaluator.push frame).output = frame.values := by
          rw [MacroEvaluator.output_push, houtput, List.append_nil]
        rcases hpull : nextStructFromMacro (evaluator.push frame) with ⟨e | _ | struct, next⟩ <;>
          simp only [nextPass, ExpandedStructIteratorSource.nextField, readFieldExpr,
            beginInliningStructFromMacro, hexpand, hpull, LoopStep.stepResults,
            ExpandedStructIteratorSource.evaluator, ExpandedStructIteratorSource.setEvaluator]
        · obtain ⟨value, values, hcons, hnotStruct, hfields⟩ := nextStructFromMacro_error hpull
          rw [hpushed] at hcons
          rcases value with _ | struct | _
          · simp [fieldExprItems, hvalues, hcons, hfields, Except.map]
          · exact absurd rfl (hnotStruct struct)
          · simp [fieldExprItems, hvalues, hcons, hfields, Except.map]
        · obtain ⟨hnil, rfl⟩ := nextStructFromMacro_none hpull
          rw [hpushed] at hnil
          rw [results_readingFieldFromSource rest .empty rfl]
          simp [fieldExprItems, hvalues, hnil]
        · have hcons := nextStructFromMacro_some hpull
          rw [hpushed] at hcons
          rw [results_inliningAStruct, results_readingFieldFromSource rest .empty rfl]
          simp [fieldExprItems, hvalues, hcons, inlinedFieldsOf, LazyExpandedValue.read]

end FieldExprIterator

/-- The tooling iterator implements the table: with its name/macro and e-expression items
deleted, it yields the fields that the struct's field expressions stand for. -/
theorem fieldExprs_results_eq_expandedFields (fieldExprs : List (Except IonError FieldExpr)) :
    withoutMacroItems (LazyExpandedStruct.valueLiteral fieldExprs).fieldExprs.results =
      expandedFields fieldExprs :=
  (congrArg withoutMacroItems (FieldExprIterator.results_readingFieldFromSource fieldExprs .empty
    rfl)).trans (withoutMacroItems_fieldExprItems fieldExprs)

/-- On every struct literal the tooling iterator yields `fieldExprItems`: each name/macro or
e-expression item right before the fields it stands for. -/
theorem fieldExprs_results_eq_fieldExprItems (fieldExprs : List (Except IonError FieldExpr)) :
    (LazyExpandedStruct.valueLiteral fieldExprs).fieldExprs.results = fieldExprItems fieldExprs :=
  FieldExprIterator.results_readingFieldFromSource fieldExprs .empty rfl

/-- The repository's `field_kinds` test. -/
example : (LazyExpandedStruct.valueLiteral FieldKinds.fieldExprs).fieldExprs.results =
    [.ok (.nameValue "foo" (.scalar 0)), .ok (.nameMacro "bar" FieldKinds.threeValues),
      .ok (.nameValue "bar" (.scalar 1)), .ok (.nameValue "bar" (.scalar 2)),
      .ok (.nameValue "bar" (.scalar 3)), .ok (.eExp FieldKinds.threeStructs),
      .ok (.nameValue "dog" (.scalar 1)), .ok (.nameValue "cat" (.scalar 2)),
      .ok (.nameValue "mouse" (.scalar 3)), .ok (.nameValue "quux" (.scalar 1))] :=
  rfl

/-! ## The main iterator -/

/-- What the main iterator yields from a value literal, `pending` being the values left on its
evaluator.  A name/macro field that does not take the single-value fast path yields its
expansion and then everything pending, under its name.  A macro in field-name position inlines
the first of its expansion and the pending values, and leaves the others pending; whatever is
pending at the end is never yielded. -/
def iterFields : List LazyExpandedValue → List (Except IonError FieldExpr) →
    List (Except IonError LazyExpandedField)
  | _, [] => []
  | _, .error e :: _ => [.error e]
  | pending, .ok (.nameValue name value) :: rest => .ok ⟨name, value⟩ :: iterFields pending rest
  | pending, .ok (.nameMacro name invocation) :: rest =>
      match invocation.expansion with
      | .error e => [.error e]
      | .ok values =>
          match invocation.singletonValue? with
          | some value => .ok ⟨name, value⟩ :: iterFields pending rest
          | none =>
              chainResults ((values ++ pending).map fun value => .ok ⟨name, value⟩)
                (iterFields [] rest)
  | pending, .ok (.eExp invocation) :: rest =>
      match invocation.expansion with
      | .error e => [.error e]
      | .ok values =>
          match values ++ pending with
          | [] => iterFields [] rest
          | value :: pending => chainResults (inlinedFieldsOf value) (iterFields pending rest)

/-- With nothing pending, and every macro in field-name position expanding to at most one
value, the main iterator's fields are those of the table. -/
theorem iterFields_eq_expandedFields :
    ∀ fieldExprs : List (Except IonError FieldExpr), splicesAtMostOne fieldExprs = true →
      iterFields [] fieldExprs = expandedFields fieldExprs
  | [], _ => rfl
  | .error _ :: _, _ => rfl
  | .ok (.nameValue name value) :: rest, hsplices => by
      rw [expandedFields_cons, ← iterFields_eq_expandedFields rest (splicesAtMostOne_of_cons hsplices)]
      rfl
  | .ok (.nameMacro name invocation) :: rest, hsplices => by
      have ih := iterFields_eq_expandedFields rest (splicesAtMostOne_of_cons hsplices)
      rw [expandedFields_cons, ← ih]
      rcases hexpansion : invocation.expansion with e | values
      · simp [iterFields, fieldExprItemFields, fieldExprFields, hexpansion]
      · rcases hsingle : invocation.singletonValue? with _ | value
        · simp [iterFields, fieldExprItemFields, fieldExprFields, hexpansion, hsingle]
        · obtain rfl : values = [value] := by
            simpa [hexpansion] using MacroExpr.singletonValue?_eq_some hsingle
          simp [iterFields, fieldExprItemFields, fieldExprFields, hexpansion, hsingle]
  | .ok (.eExp invocation) :: rest, hsplices => by
      have ih := iterFields_eq_expandedFields rest (splicesAtMostOne_of_cons hsplices)
      rw [expandedFields_cons, ← ih]
      rcases hexpansion : invocation.expansion with e | values
      · simp [iterFields, fieldExprItemFields, fieldExprFields, hexpansion]
      · have hlen := length_le_one_of_splicesAtMostOne hsplices hexpansion
        rcases values with _ | ⟨value, _ | ⟨_, _⟩⟩
        · simp [iterFields, fieldExprItemFields, fieldExprFields, hexpansion]
        · simp [iterFields, fieldExprItemFields, fieldExprFields, hexpansion, chainResults_assoc]
        · simp at hlen

namespace ExpandedStructIterator

/-- While a struct is inlined, its fields come first. -/
theorem results_inliningAStruct (source : ExpandedStructIteratorSource) :
    ∀ structIter : ExpandedStructIterator,
      (mk source (.inliningAStruct structIter)).results =
        chainResults structIter.results (mk source .readingFieldFromSource).results := by
  intro structIter
  generalize hwork : structIter.work = n
  induction n using Nat.strong_induction_on generalizing structIter with
  | _ n ih =>
    rw [results_eq, structIter.results_eq]
    rcases hstep : structIter.nextFieldPass with ⟨_ | _ | field, next⟩ | next <;>
      simp only [nextFieldPass, hstep, LoopStep.stepResults, chainResults_nil_left,
        chainResults_error, chainResults_ok]
    · rw [ih _ (hwork ▸ decreasing.done_lt hstep) next rfl]
    · rw [ih _ (hwork ▸ decreasing.loop_lt hstep) next rfl]

/-- While a name/macro field is expanded, the values left on the evaluator come first, all
under its name. -/
theorem results_expandingValueExpr (fieldName : String)
    (fieldExprs : List (Except IonError FieldExpr)) :
    ∀ evaluator : MacroEvaluator,
      (mk (.valueLiteral evaluator fieldExprs) (.expandingValueExpr fieldName)).results =
        chainResults (evaluator.output.map fun value => .ok ⟨fieldName, value⟩)
          (mk (.valueLiteral .empty fieldExprs) .readingFieldFromSource).results := by
  intro evaluator
  generalize hwork : evaluator.work = n
  induction n using Nat.strong_induction_on generalizing evaluator with
  | _ n ih =>
    rw [results_eq]
    rcases hnext : evaluator.next with ⟨_ | value, next⟩
    · obtain ⟨houtput, rfl⟩ := MacroEvaluator.next_eq_none hnext
      simp only [nextFieldPass, ExpandedStructIteratorSource.evaluator, hnext,
        ExpandedStructIteratorSource.setEvaluator, LoopStep.stepResults, houtput, List.map_nil,
        chainResults_nil_left]
    · obtain ⟨houtput, hlt⟩ := MacroEvaluator.next_eq_some hnext
      simp only [nextFieldPass, ExpandedStructIteratorSource.evaluator, hnext,
        ExpandedStructIteratorSource.setEvaluator, LoopStep.stepResults, houtput, List.map_cons,
        chainResults_ok]
      by_cases hempty : next.isEmpty
      · rw [if_pos hempty, MacroEvaluator.eq_empty_of_isEmpty hempty]
        rfl
      · rw [if_neg hempty, ih _ (by have := value.work_pos; omega) next rfl]

/-- Reading a value literal yields `iterFields` of what is left on the evaluator. -/
theorem results_valueLiteral :
    ∀ (fieldExprs : List (Except IonError FieldExpr)) (evaluator : MacroEvaluator),
      (mk (.valueLiteral evaluator fieldExprs) .readingFieldFromSource).results =
        iterFields evaluator.output fieldExprs
  | [], _ => by
      rw [results_eq]
      rfl
  | .error e :: rest, _ => by
      rw [results_eq]
      rfl
  | .ok (.nameValue name value) :: rest, evaluator => by
      rw [results_eq]
      exact congrArg (.ok ⟨name, value⟩ :: ·) (results_valueLiteral rest evaluator)
  | .ok (.nameMacro name invocation) :: rest, evaluator => by
      rw [results_eq]
      rcases hexpand : invocation.expand with e | frame
      · simp [nextFieldPass, ExpandedStructIteratorSource.nextField, readFromSource,
          beginExpandingFieldMacro, hexpand, LoopStep.stepResults, iterFields,
          MacroExpr.expand_eq_error hexpand]
      · have hvalues := (MacroExpr.expand_eq_ok hexpand).1
        rcases hsingle : invocation.singletonValue? with _ | value
        · simp only [nextFieldPass, ExpandedStructIteratorSource.nextField, readFromSource,
            beginExpandingFieldMacro, hexpand, hsingle, LoopStep.stepResults,
            ExpandedStructIteratorSource.evaluator, ExpandedStructIteratorSource.setEvaluator]
          rw [results_expandingValueExpr, MacroEvaluator.output_push, results_valueLiteral rest]
          simp [iterFields, hvalues, hsingle]
        · simp only [nextFieldPass, ExpandedStructIteratorSource.nextField, readFromSource,
            beginExpandingFieldMacro, hexpand, hsingle, LoopStep.stepResults]
          rw [results_valueLiteral rest evaluator]
          simp [iterFields, hvalues, hsingle]
  | .ok (.eExp invocation) :: rest, evaluator => by
      rw [results_eq]
      rcases hexpand : invocation.expand with e | frame
      · simp [nextFieldPass, ExpandedStructIteratorSource.nextField, readFromSource,
          inlineFieldNameMacro, beginInliningStructFromMacro, hexpand, LoopStep.stepResults,
          iterFields, MacroExpr.expand_eq_error hexpand]
      · have hvalues := (MacroExpr.expand_eq_ok hexpand).1
        have hpushed := MacroEvaluator.output_push evaluator frame
        rcases hpull : nextStructFromMacro (evaluator.push frame) with ⟨e | _ | struct, next⟩ <;>
          simp only [nextFieldPass, ExpandedStructIteratorSource.nextField, readFromSource,
            inlineFieldNameMacro, beginInliningStructFromMacro, hexpand, hpull,
            LoopStep.stepResults, ExpandedStructIteratorSource.evaluator,
            ExpandedStructIteratorSource.setEvaluator]
        · obtain ⟨value, values, hcons, -, hfields⟩ := nextStructFromMacro_error hpull
          rw [hpushed] at hcons
          simp [iterFields, hvalues, hcons, hfields]
        · obtain ⟨hnil, rfl⟩ := nextStructFromMacro_none hpull
          rw [hpushed] at hnil
          rw [results_valueLiteral rest .empty]
          simp [iterFields, hvalues, hnil]
        · have hcons := nextStructFromMacro_some hpull
          rw [hpushed] at hcons
          rw [results_inliningAStruct, results_valueLiteral rest next]
          simp [iterFields, hvalues, hcons, inlinedFieldsOf, LazyExpandedValue.read]

/-- Reading a value literal whose field-name macros splice at most one struct each, with
nothing left on the evaluator, yields the fields of the table. -/
theorem results_readingFieldFromSource (fieldExprs : List (Except IonError FieldExpr))
    (evaluator : MacroEvaluator) (houtput : evaluator.output = [])
    (hsplices : splicesAtMostOne fieldExprs = true) :
    (mk (.valueLiteral evaluator fieldExprs) .readingFieldFromSource).results =
      expandedFields fieldExprs := by
  rw [results_valueLiteral, houtput, iterFields_eq_expandedFields fieldExprs hsplices]

end ExpandedStructIterator

/-- The main iterator implements the table as long as every macro in field-name position
expands to at most one value. -/
theorem iter_results_eq_expandedFields (fieldExprs : List (Except IonError FieldExpr))
    (hsplices : splicesAtMostOne fieldExprs = true) :
    (LazyExpandedStruct.valueLiteral fieldExprs).iter.results = expandedFields fieldExprs :=
  ExpandedStructIterator.results_readingFieldFromSource fieldExprs .empty rfl hsplices

theorem iter_results_eq_expandedFields_oneStructKinds :
    splicesAtMostOne FieldKinds.oneStructKinds = true ∧
      (LazyExpandedStruct.valueLiteral FieldKinds.oneStructKinds).iter.results =
        expandedFields FieldKinds.oneStructKinds :=
  ⟨rfl, iter_results_eq_expandedFields _ rfl⟩

/-! ## More than one struct in field-name position -/

/-- On every struct literal the main iterator yields `iterFields` with nothing pending. -/
theorem iter_results_eq_iterFields (fieldExprs : List (Except IonError FieldExpr)) :
    (LazyExpandedStruct.valueLiteral fieldExprs).iter.results = iterFields [] fieldExprs :=
  ExpandedStructIterator.results_valueLiteral fieldExprs .empty

open FieldKinds

/-- `{(:three_structs), bar: (:three_values)}`: `cat` and `mouse` come out as values of `bar`. -/
example : (LazyExpandedStruct.valueLiteral
      [.ok (.eExp threeStructs), .ok (.nameMacro "bar" threeValues)]).iter.results =
    [.ok ⟨"dog", .scalar 1⟩, .ok ⟨"bar", .scalar 1⟩, .ok ⟨"bar", .scalar 2⟩,
      .ok ⟨"bar", .scalar 3⟩, .ok ⟨"bar", .struct cat⟩, .ok ⟨"bar", .struct mouse⟩] :=
  rfl

/-- The main iterator yields `dog: 1` and then goes on with `quux`: `cat` and `mouse` are not
yielded, although the field-name macro expands to them. -/
theorem iter_drops_structs_after_first_inlined :
    (LazyExpandedStruct.valueLiteral fieldExprs).iter.results =
        [.ok ⟨"foo", .scalar 0⟩, .ok ⟨"bar", .scalar 1⟩, .ok ⟨"bar", .scalar 2⟩,
          .ok ⟨"bar", .scalar 3⟩, .ok ⟨"dog", .scalar 1⟩, .ok ⟨"quux", .scalar 1⟩] ∧
      expandedFields fieldExprs =
        [.ok ⟨"foo", .scalar 0⟩, .ok ⟨"bar", .scalar 1⟩, .ok ⟨"bar", .scalar 2⟩,
          .ok ⟨"bar", .scalar 3⟩, .ok ⟨"dog", .scalar 1⟩, .ok ⟨"cat", .scalar 2⟩,
          .ok ⟨"mouse", .scalar 3⟩, .ok ⟨"quux", .scalar 1⟩] :=
  ⟨rfl, rfl⟩

/-- On the same struct the tooling iterator yields `cat` and `mouse`, and the main one does
not. -/
theorem fieldExprs_yields_fields_iter_drops :
    withoutMacroItems (LazyExpandedStruct.valueLiteral fieldExprs).fieldExprs.results =
        [.ok ⟨"foo", .scalar 0⟩, .ok ⟨"bar", .scalar 1⟩, .ok ⟨"bar", .scalar 2⟩,
          .ok ⟨"bar", .scalar 3⟩, .ok ⟨"dog", .scalar 1⟩, .ok ⟨"cat", .scalar 2⟩,
          .ok ⟨"mouse", .scalar 3⟩, .ok ⟨"quux", .scalar 1⟩] ∧
      (LazyExpandedStruct.valueLiteral fieldExprs).iter.results.length = 6 :=
  ⟨rfl, rfl⟩

/-- After `dog: 1` the main iterator reads its source again while `cat` and `mouse` are still
on its evaluator. -/
theorem iter_reads_source_with_structs_pending :
    LoopStep.Reaches ExpandedStructIterator.nextFieldPass
      (LazyExpandedStruct.valueLiteral fieldExprs).iter
      (.mk (.valueLiteral pendingStructs [.ok (.nameValue "quux" (.scalar 1))])
        .readingFieldFromSource) ∧
    pendingStructs.output = [.struct cat, .struct mouse] :=
  ⟨.head_yield rfl <| .head_loop rfl <| .head_yield rfl <| .head_yield rfl <| .head_yield rfl <|
    .head_loop rfl <| .head_yield rfl <| .head_loop rfl .refl, rfl⟩

/-- The variant of `begin_expanding_field_macro` without its single-value fast path: the
expansion is always pushed, and the iterator expands it. -/
def ExpandedStructIterator.beginExpandingFieldMacroAlwaysPushing
    (source : ExpandedStructIteratorSource) (fieldName : String) (invocation : MacroExpr) :
    LoopStep LazyExpandedField ExpandedStructIterator :=
  match invocation.expand with
  | .error e => .done (some (.error e)) (.mk source .readingFieldFromSource)
  | .ok expansion =>
      .loop (.mk (source.setEvaluator (source.evaluator.push expansion))
        (.expandingValueExpr fieldName))

/-- In that state a name/macro field with a single-valued macro yields its one field, while
the variant that pushes the expansion also yields the pending structs under its name. -/
theorem singleton_fast_path_differs_from_pushing :
    LoopStep.Reaches ExpandedStructIterator.nextFieldPass
        (LazyExpandedStruct.valueLiteral splicedThenSingleton).iter
        (.mk (.valueLiteral pendingStructs [.ok (.nameMacro "bar" seven)]) .readingFieldFromSource) ∧
      (ExpandedStructIterator.mk (.valueLiteral pendingStructs [.ok (.nameMacro "bar" seven)])
          .readingFieldFromSource).results =
        [.ok ⟨"bar", .scalar 7⟩] ∧
      ExpandedStructIterator.beginExpandingFieldMacroAlwaysPushing
          (.valueLiteral pendingStructs []) "bar" seven =
        .loop (.mk (.valueLiteral (pendingStructs.push ⟨[.scalar 7], true⟩) [])
          (.expandingValueExpr "bar")) ∧
      (ExpandedStructIterator.mk (.valueLiteral (pendingStructs.push ⟨[.scalar 7], true⟩) [])
          (.expandingValueExpr "bar")).results =
        [.ok ⟨"bar", .scalar 7⟩, .ok ⟨"bar", .struct cat⟩, .ok ⟨"bar", .struct mouse⟩] :=
  ⟨.head_loop rfl <| .head_yield rfl <| .head_loop rfl .refl, rfl, rfl, rfl⟩

end IonRust
