import IonRust.Expanded.Template

/-!
# Looking a field up by name

`LazyExpandedStruct::find` looks a template struct's field up in the template's compiled field
index and evaluates only the first candidate: a literal value is returned as it is, and of a
macro invocation the first value of its expansion.  Any other struct is scanned with its
iterator up to the first field with the name.

The index answers for the first field of the body with the name, which is not always the first
field with the name that the iterator yields: a macro field whose expansion is empty yields no
field, and the scan goes on to the next field with the name where the lookup returns `None`;
an earlier field whose macro fails to expand stops the scan with its error, and the lookup does
not see it.  Short of those two cases, the lookup and the scan agree.
-/

namespace IonRust

/-- The loop of `find` over a struct's iterator: the value of the first field with the name,
and the first error stops it. -/
def scanFind (name : String) :
    List (Except IonError LazyExpandedField) → Except IonError (Option LazyExpandedValue)
  | [] => .ok none
  | .error e :: _ => .error e
  | .ok field :: rest => if field.name = name then .ok (some field.value) else scanFind name rest

/-- A template field's value as `find` evaluates it: a literal as it is, and an invocation as
the first value of its expansion (`MacroEvaluator::for_macro_expr` and one `next`). -/
def TemplateField.firstValue : TemplateField → Except IonError (Option LazyExpandedValue)
  | .mk _ (.valueLiteral value) => .ok (some value)
  | .mk _ (.macroInvocation invocation) =>
      invocation.expand.map fun frame => (MacroEvaluator.empty.push frame).next.1

/-- `LazyExpandedStruct::find`, with the positions of the index read as positions of the
template body's fields; `none` where the code panics, on an empty candidate list or a position
that is not a field of the body. -/
def LazyExpandedStruct.find (struct : LazyExpandedStruct) (name : String) :
    Option (Except IonError (Option LazyExpandedValue)) :=
  match struct with
  | .template fields index =>
      match index.get name with
      | none => some (.ok none)
      | some addresses => (addresses.head?.bind fields.get?).map TemplateField.firstValue
  | struct => some (scanFind name struct.iter.results)

/-- Modelled from the spec: the positions of the fields named `name` in a template body. -/
def fieldPositions (name : String) : List TemplateField → List Nat
  | [] => []
  | field :: rest =>
      (if field.name = name then [0] else []) ++ (fieldPositions name rest).map (· + 1)

/-- Modelled from the spec: the compiled field index of a template struct body, from each
field name to the positions of the fields with that name. -/
def TemplateStructIndex.ofFields (fields : List TemplateField) : TemplateStructIndex :=
  ⟨fields.map fun field => (field.name, fieldPositions field.name fields)⟩

/-! ## The index lookup -/

theorem lookup_ofFields (name : String) (fields : List TemplateField) :
    ∀ entries : List TemplateField,
      List.lookup name (entries.map fun field => (field.name, fieldPositions field.name fields)) =
        (entries.find? fun field => field.name = name).map fun _ => fieldPositions name fields
  | [] => rfl
  | field :: rest => by
      rw [List.map_cons, List.lookup_cons, List.find?_cons]
      by_cases hname : field.name = name
      · simp [hname]
      · simp [beq_false_of_ne (Ne.symm hname), hname, lookup_ofFields name fields rest]

/-- The first candidate of the index is the first field with the name. -/
theorem fieldPositions_first (name : String) :
    ∀ fields : List TemplateField,
      ((fieldPositions name fields).head?.bind fields.get?) =
        fields.find? fun field => field.name = name
  | [] => rfl
  | field :: rest => by
      rw [List.find?_cons]
      by_cases hname : field.name = name
      · simp [fieldPositions, hname]
      · simp only [fieldPositions, hname, if_false, List.nil_append, List.head?_map, decide_False]
        rw [← fieldPositions_first name rest]
        cases (fieldPositions name rest).head? <;> rfl

/-- With its compiled index, a template struct's `find` evaluates the first field with the
name, and returns `None` when there is none. -/
theorem find_template_ofFields (fields : List TemplateField) (name : String) :
    (LazyExpandedStruct.template fields (.ofFields fields)).find name =
      some ((fields.find? fun field => field.name = name).elim (.ok none)
        TemplateField.firstValue) := by
  simp only [LazyExpandedStruct.find, TemplateStructIndex.get, TemplateStructIndex.ofFields,
    lookup_ofFields]
  have hfirst := fieldPositions_first name fields
  rcases hfind : fields.find? fun field => field.name = name with _ | field
  · rw [hfind]
    rfl
  · rw [hfind] at hfirst ⊢
    simp only [Option.map_some', hfirst]
    rfl

/-- Of two fields named `bar`, `find` returns the first. -/
example :
    (LazyExpandedStruct.template [.mk "bar" (.valueLiteral (.scalar 1)),
        .mk "bar" (.valueLiteral (.scalar 2))]
      (.ofFields [.mk "bar" (.valueLiteral (.scalar 1)), .mk "bar" (.valueLiteral (.scalar 2))])).find
      "bar" = some (.ok (some (.scalar 1))) :=
  rfl

/-! ## The scan -/

theorem scanFind_chainResults (name : String) (ys : List (Except IonError LazyExpandedField)) :
    ∀ xs : List (Except IonError LazyExpandedField),
      scanFind name (chainResults xs ys) =
        match scanFind name xs with
        | .ok none => scanFind name ys
        | result => result
  | [] => rfl
  | .error _ :: _ => rfl
  | .ok field :: xs => by
      by_cases hname : field.name = name
      · simp [scanFind, hname]
      · simp [scanFind, hname, scanFind_chainResults name ys xs]

theorem scanFind_map_of_ne {name fieldName : String} (hname : fieldName ≠ name) :
    ∀ values : List LazyExpandedValue,
      scanFind name (values.map fun value => .ok ⟨fieldName, value⟩) = .ok none
  | [] => rfl
  | _ :: values => by simp [scanFind, hname, scanFind_map_of_ne hname values]

/-- A literal, or an invocation that expands. -/
def ValueExpr.expands : ValueExpr → Bool
  | .valueLiteral _ => true
  | .macroInvocation invocation =>
      match invocation.expansion with
      | .ok _ => true
      | .error _ => false

/-- A literal, or an invocation that does not expand to nothing. -/
def ValueExpr.yieldsAValue : ValueExpr → Bool
  | .valueLiteral _ => true
  | .macroInvocation invocation =>
      match invocation.expansion with
      | .ok [] => false
      | _ => true

/-- A field the scan for `name` passes over: one with another name that expands, or one with the
name that expands to nothing. -/
def TemplateField.passedOver (name : String) : TemplateField → Bool
  | .mk fieldName value => if fieldName = name then !value.yieldsAValue else value.expands

/-- The first field with the name decides the scan as it decides the lookup: the fields before it
expand, and it yields a value or the scan passes over every field after it. -/
def firstCandidateDecides (name : String) : List TemplateField → Bool
  | [] => true
  | .mk fieldName value :: rest =>
      if fieldName = name then value.yieldsAValue || rest.all (TemplateField.passedOver name)
      else value.expands && firstCandidateDecides name rest

theorem TemplateField.firstValue_macroInvocation (name : String) (invocation : MacroExpr) :
    (TemplateField.mk name (.macroInvocation invocation)).firstValue =
      invocation.expansion.map List.head? := by
  rcases hexpansion : invocation.expansion with e | values <;>
    simp only [TemplateField.firstValue, MacroExpr.expand, hexpansion, Except.map,
      MacroEvaluator.next_push_empty]

/-- `find` evaluates a field to `Ok(None)` exactly when it is an invocation that expands to
nothing. -/
theorem TemplateField.firstValue_eq_none_iff (name : String) (value : ValueExpr) :
    (TemplateField.mk name value).firstValue = .ok none ↔ value.yieldsAValue = false := by
  rcases value with value | invocation
  · simp [TemplateField.firstValue, ValueExpr.yieldsAValue]
  · rw [TemplateField.firstValue_macroInvocation]
    rcases hexpansion : invocation.expansion with e | _ | ⟨value, values⟩ <;>
      simp [ValueExpr.yieldsAValue, hexpansion, Except.map]

theorem scanFind_map_name (name : String) :
    ∀ values : List LazyExpandedValue,
      scanFind name (values.map fun value => .ok ⟨name, value⟩) = .ok values.head?
  | [] => rfl
  | _ :: _ => by simp [scanFind]

/-- On the first field with the name, the scan returns what the lookup evaluates. -/
theorem scanFind_candidate (name : String) (value : ValueExpr) :
    scanFind name (fieldExprFields (TemplateField.mk name value).toFieldExpr) =
      (TemplateField.mk name value).firstValue := by
  rcases value with value | invocation
  · simp [fieldExprFields, scanFind, TemplateField.firstValue]
  · rw [TemplateField.firstValue_macroInvocation]
    rcases hexpansion : invocation.expansion with e | values
    · simp only [TemplateField.toFieldExpr, fieldExprFields, hexpansion]
      rfl
    · simp only [TemplateField.toFieldExpr, fieldExprFields, hexpansion, scanFind_map_name]
      rfl

/-- A field with another name that expands gives the scan nothing to return. -/
theorem scanFind_other_field {name fieldName : String} (hname : fieldName ≠ name)
    (value : ValueExpr) (hvalue : value.expands = true) :
    scanFind name (fieldExprFields (TemplateField.mk fieldName value).toFieldExpr) = .ok none := by
  rcases value with value | invocation
  · simp [fieldExprFields, scanFind, hname]
  · rcases hexpansion : invocation.expansion with e | values
    · simp [ValueExpr.expands, hexpansion] at hvalue
    · simp [fieldExprFields, hexpansion, scanFind_map_of_ne hname]

theorem scanFind_passedOver {name : String} {field : TemplateField}
    (hfield : field.passedOver name = true) :
    scanFind name (fieldExprFields field.toFieldExpr) = .ok none := by
  rcases field with ⟨fieldName, value⟩
  by_cases hname : fieldName = name
  · subst hname
    simp only [TemplateField.passedOver, if_true, Bool.not_eq_true'] at hfield
    rw [scanFind_candidate, (TemplateField.firstValue_eq_none_iff _ _).mpr hfield]
  · simp only [TemplateField.passedOver, hname, if_false] at hfield
    exact scanFind_other_field hname value hfield

theorem scanFind_of_all_passedOver {name : String} :
    ∀ {fields : List TemplateField}, fields.all (TemplateField.passedOver name) = true →
      scanFind name (expandedFields (templateFieldExprs fields)) = .ok none
  | [], _ => rfl
  | field :: rest, hall => by
    simp only [List.all_cons, Bool.and_eq_true] at hall
    simp only [templateFieldExprs, List.map_cons, expandedFields_cons, fieldExprItemFields,
      scanFind_chainResults, scanFind_passedOver hall.1]
    exact scanFind_of_all_passedOver hall.2

/-- `find` on a template struct agrees with the scan of its iterator unless a field before the
first one with the name fails to expand, or that one expands to nothing and the scan goes on to a
later field with the name or to an error.  Short of a coincidence of results, those are the
inputs on which the two differ. -/
theorem find_eq_scanFind_of_firstCandidateDecides (fields : List TemplateField) (name : String)
    (hdecides : firstCandidateDecides name fields = true) :
    (LazyExpandedStruct.template fields (.ofFields fields)).find name =
      some (scanFind name (LazyExpandedStruct.template fields (.ofFields fields)).iter.results) := by
  rw [find_template_ofFields, ExpandedStructIterator.template_results]
  congr 1
  induction fields with
  | nil => rfl
  | cons field rest ih =>
    rcases field with ⟨fieldName, value⟩
    simp only [expandedFields, templateFieldExprs, List.map_cons, concatResults_cons,
      scanFind_chainResults, fieldExprItemFields, List.find?_cons, TemplateField.name_mk]
    by_cases hname : fieldName = name
    · subst hname
      simp only [firstCandidateDecides, if_true, Bool.or_eq_true] at hdecides
      simp only [decide_True, Option.elim, scanFind_candidate]
      rcases hfirst : (TemplateField.mk fieldName value).firstValue with e | _ | value
      · rfl
      · rcases hdecides with hvalue | hrest
        · have hempty := (TemplateField.firstValue_eq_none_iff _ _).mp hfirst
          simp [hvalue] at hempty
        · exact (scanFind_of_all_passedOver hrest).symm
      · rfl
    · simp only [firstCandidateDecides, hname, if_false, Bool.and_eq_true] at hdecides
      simp only [hname, decide_False, scanFind_other_field hname value hdecides.1]
      exact ih hdecides.2

/-- `(.none)`: an invocation whose expansion has no value. -/
def noValue : MacroExpr :=
  .mk (.ok []) false true

/-- `{bar: (.none), bar: 1}` -/
def emptyThenBar : List TemplateField :=
  [.mk "bar" (.macroInvocation noValue), .mk "bar" (.valueLiteral (.scalar 1))]

/-- The index offers the empty `bar` first and `find` returns `Ok(None)`, while the iterator
yields `bar: 1`. -/
theorem find_misses_field_after_empty_expansion :
    (LazyExpandedStruct.template emptyThenBar (.ofFields emptyThenBar)).find "bar" =
        some (.ok none) ∧
      scanFind "bar" (LazyExpandedStruct.template emptyThenBar (.ofFields emptyThenBar)).iter.results =
        .ok (some (.scalar 1)) :=
  ⟨rfl, rfl⟩

end IonRust
