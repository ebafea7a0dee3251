import IonRust.Expanded.Evaluator

/-!
# The expanded struct iterators

`ExpandedStructIterator` turns a struct's field expressions into fields.  A name/value field
is yielded as it is; a name/macro field yields one field per value of the macro's expansion,
all under its name; a macro in field-name position is expanded into structs whose fields are
spliced in.  The three states of that machine are `ExpandedStructIteratorState`.  The tooling
`FieldExprIterator` is a second copy of the machine which also yields the unexpanded
name/macro and e-expression items.

Each `next` here is a `loop`, and `nextFieldPass` is one pass through its body.  A pass that
calls `next` of another iterator (an inlined struct, or the struct a `make_struct` argument is
traversing) makes one pass of that iterator.  The caller does nothing between those passes,
so the items and the states are those of the nested call.
-/

namespace IonRust

mutual

/-- `ExpandedStructIteratorSource`: where an iterator pulls its field expressions from. -/
inductive ExpandedStructIteratorSource where
  | valueLiteral (evaluator : MacroEvaluator) (fieldExprs : List (Except IonError FieldExpr))
  | template (evaluator : MacroEvaluator) (fields : List TemplateField)
  | makeField (field : Option LazyExpandedField)
  | makeStruct (evaluator : MacroEvaluator) (currentStruct : Option ExpandedStructIterator)
      (arguments : List ValueExpr)

inductive ExpandedStructIteratorState where
  | readingFieldFromSource
  | expandingValueExpr (fieldName : String)
  | inliningAStruct (structIter : ExpandedStructIterator)

inductive ExpandedStructIterator where
  | mk (source : ExpandedStructIteratorSource) (state : ExpandedStructIteratorState)

end

def ExpandedStructIterator.source : ExpandedStructIterator → ExpandedStructIteratorSource
  | .mk source _ => source

def ExpandedStructIterator.state : ExpandedStructIterator → ExpandedStructIteratorState
  | .mk _ state => state

/-- `FieldExprIterator`: the same source and state as `ExpandedStructIterator`. -/
structure FieldExprIterator where
  source : ExpandedStructIteratorSource
  state : ExpandedStructIteratorState

namespace ExpandedStructIteratorSource

/-- `ExpandedStructIteratorSource::evaluator`.  A `make_field` source has none; the code marks
that arm unreachable, and no state that reaches it is ever built from a `make_field` struct. -/
def evaluator : ExpandedStructIteratorSource → MacroEvaluator
  | .valueLiteral evaluator _ => evaluator
  | .template evaluator _ => evaluator
  | .makeField _ => .empty
  | .makeStruct evaluator _ _ => evaluator

/-- The source with its evaluator replaced. -/
def setEvaluator : ExpandedStructIteratorSource → MacroEvaluator → ExpandedStructIteratorSource
  | .valueLiteral _ fieldExprs, evaluator => .valueLiteral evaluator fieldExprs
  | .template _ fields, evaluator => .template evaluator fields
  | .makeField field, _ => .makeField field
  | .makeStruct _ current arguments, evaluator => .makeStruct evaluator current arguments

end ExpandedStructIteratorSource

/-- `LazyExpandedStruct::iter`: a fresh evaluator, reading from the struct's source. -/
def LazyExpandedStruct.iter : LazyExpandedStruct → ExpandedStructIterator
  | .valueLiteral fieldExprs => .mk (.valueLiteral .empty fieldExprs) .readingFieldFromSource
  | .template fields _ => .mk (.template .empty fields) .readingFieldFromSource
  | .makeStruct arguments => .mk (.makeStruct .empty none arguments) .readingFieldFromSource
  | .makeField name value => .mk (.makeField (some ⟨name, value⟩)) .readingFieldFromSource

/-- `LazyExpandedStruct::field_exprs`. -/
def LazyExpandedStruct.fieldExprs (struct : LazyExpandedStruct) : FieldExprIterator :=
  match struct.iter with
  | .mk source state => ⟨source, state⟩

/-- `next_struct_from_macro`: the next value of the evaluator, which must be a struct.  The text of
its decoding error leaves out the `Debug` of the value found, `; found: {value_ref:?}`. -/
def nextStructFromMacro (evaluator : MacroEvaluator) :
    Except IonError (Option LazyExpandedStruct) × MacroEvaluator :=
  match evaluator.next with
  | (none, evaluator) => (.ok none, evaluator)
  | (some expandedValue, evaluator) =>
      match expandedValue.read with
      | .error e => (.error e, evaluator)
      | .ok (.struct struct) => (.ok (some struct), evaluator)
      | .ok (.scalar _) =>
          (.error (.decodingError "macros in field name position must produce structs"),
            evaluator)

/-- `begin_inlining_struct_from_macro`: pushes the expansion and starts inlining its first
struct, if it has one.  The result, the state and the evaluator it leaves. -/
def beginInliningStructFromMacro (state : ExpandedStructIteratorState)
    (evaluator : MacroEvaluator) (invocation : MacroExpr) :
    Except IonError Unit × ExpandedStructIteratorState × MacroEvaluator :=
  match invocation.expand with
  | .error e => (.error e, state, evaluator)
  | .ok expansion =>
      match nextStructFromMacro (evaluator.push expansion) with
      | (.error e, evaluator) => (.error e, state, evaluator)
      | (.ok none, evaluator) => (.ok (), state, evaluator)
      | (.ok (some struct), evaluator) => (.ok (), .inliningAStruct struct.iter, evaluator)

namespace ExpandedStructIterator

/-- `ExpandedStructIterator::begin_expanding_field_macro`, with the pass it ends: a field
read in place, or the expansion pushed and the loop continuing. -/
def beginExpandingFieldMacro (source : ExpandedStructIteratorSource) (fieldName : String)
    (invocation : MacroExpr) : LoopStep LazyExpandedField ExpandedStructIterator :=
  match invocation.expand with
  | .error e => .done (some (.error e)) (.mk source .readingFieldFromSource)
  | .ok expansion =>
      match invocation.singletonValue? with
      | some value => .done (some (.ok ⟨fieldName, value⟩)) (.mk source .readingFieldFromSource)
      | none =>
          .loop (.mk (source.setEvaluator (source.evaluator.push expansion))
            (.expandingValueExpr fieldName))

/-- The `EExp` arm of `next_field`. -/
def inlineFieldNameMacro (source : ExpandedStructIteratorSource) (invocation : MacroExpr) :
    LoopStep LazyExpandedField ExpandedStructIterator :=
  match beginInliningStructFromMacro .readingFieldFromSource source.evaluator invocation with
  | (.error e, state, evaluator) => .done (some (.error e)) (.mk (source.setEvaluator evaluator) state)
  | (.ok (), state, evaluator) => .loop (.mk (source.setEvaluator evaluator) state)

/-- The `ReadingFieldFromSource` arm of `next_field`, given the pass of the source's
`next_field` that it makes. -/
def readFromSource :
    LoopStep FieldExpr ExpandedStructIteratorSource →
      LoopStep LazyExpandedField ExpandedStructIterator
  | .loop source => .loop (.mk source .readingFieldFromSource)
  | .done none source => .done none (.mk source .readingFieldFromSource)
  | .done (some (.error e)) source => .done (some (.error e)) (.mk source .readingFieldFromSource)
  | .done (some (.ok (.nameValue name value))) source =>
      .done (some (.ok ⟨name, value⟩)) (.mk source .readingFieldFromSource)
  | .done (some (.ok (.nameMacro name invocation))) source =>
      beginExpandingFieldMacro source name invocation
  | .done (some (.ok (.eExp invocation))) source => inlineFieldNameMacro source invocation

end ExpandedStructIterator

/-- The end of a `next_field_from_make_struct` pass that has found its next struct: the value
must read as a struct, whose iterator becomes the current one.  The text of its decoding error
leaves out the `Debug` of the value received, `, received {next_struct:?}`. -/
def makeStructSetCurrent (nextStruct : LazyExpandedValue) (evaluator : MacroEvaluator)
    (arguments : List ValueExpr) : LoopStep FieldExpr ExpandedStructIteratorSource :=
  match nextStruct.read with
  | .error e => .done (some (.error e)) (.makeStruct evaluator none arguments)
  | .ok (.struct struct) => .loop (.makeStruct evaluator (some struct.iter) arguments)
  | .ok (.scalar _) =>
      .done (some (.error (.decodingError "`make_struct` only accepts structs")))
        (.makeStruct evaluator none arguments)

/-- The part of a `next_field_from_make_struct` pass after the current struct is gone: the
next struct comes from the evaluator or, once that is empty, from the next argument. -/
def makeStructNextStruct (evaluator : MacroEvaluator) (arguments : List ValueExpr) :
    LoopStep FieldExpr ExpandedStructIteratorSource :=
  match evaluator.next with
  | (some nextStruct, evaluator) => makeStructSetCurrent nextStruct evaluator arguments
  | (none, evaluator) =>
      match arguments with
      | [] => .done none (.makeStruct evaluator none [])
      | .valueLiteral value :: arguments => makeStructSetCurrent value evaluator arguments
      | .macroInvocation invocation :: arguments =>
          match invocation.expand with
          | .error e => .done (some (.error e)) (.makeStruct evaluator none arguments)
          | .ok expansion => .loop (.makeStruct (evaluator.push expansion) none arguments)

mutual

/-- One pass of `ExpandedStructIteratorSource::next_field`. -/
def ExpandedStructIteratorSource.nextField :
    ExpandedStructIteratorSource → LoopStep FieldExpr ExpandedStructIteratorSource
  | .valueLiteral evaluator [] => .done none (.valueLiteral evaluator [])
  | .valueLiteral evaluator (item :: rest) => .done (some item) (.valueLiteral evaluator rest)
  | .template evaluator [] => .done none (.template evaluator [])
  | .template evaluator (field :: rest) =>
      .done (some (.ok field.toFieldExpr)) (.template evaluator rest)
  | .makeField none => .done none (.makeField none)
  | .makeField (some field) => .done (some (.ok field.toFieldExpr)) (.makeField none)
  | .makeStruct evaluator current arguments =>
      ExpandedStructIteratorSource.nextFieldFromMakeStruct evaluator current arguments

/-- One pass of `next_field_from_make_struct`. -/
def ExpandedStructIteratorSource.nextFieldFromMakeStruct (evaluator : MacroEvaluator) :
    Option ExpandedStructIterator → List ValueExpr →
      LoopStep FieldExpr ExpandedStructIteratorSource
  | none, arguments => makeStructNextStruct evaluator arguments
  | some current, arguments =>
      match current.nextFieldPass with
      | .done (some (.ok field)) current =>
          .done (some (.ok field.toFieldExpr)) (.makeStruct evaluator (some current) arguments)
      | .done (some (.error e)) current =>
          .done (some (.error e)) (.makeStruct evaluator (some current) arguments)
      | .done none _ => makeStructNextStruct evaluator arguments
      | .loop current => .loop (.makeStruct evaluator (some current) arguments)

/-- One pass of `ExpandedStructIterator::next_field`. -/
def ExpandedStructIterator.nextFieldPass :
    ExpandedStructIterator → LoopStep LazyExpandedField ExpandedStructIterator
  | .mk source .readingFieldFromSource => ExpandedStructIterator.readFromSource source.nextField
  | .mk source (.inliningAStruct structIter) =>
      match structIter.nextFieldPass with
      | .done (some inlinedField) structIter =>
          .done (some inlinedField) (.mk source (.inliningAStruct structIter))
      | .done none _ => .loop (.mk source .readingFieldFromSource)
      | .loop structIter => .loop (.mk source (.inliningAStruct structIter))
  | .mk source (.expandingValueExpr fieldName) =>
      match source.evaluator.next with
      | (some nextValue, evaluator) =>
          .done (some (.ok ⟨fieldName, nextValue⟩))
            (.mk (source.setEvaluator evaluator)
              (if evaluator.isEmpty then .readingFieldFromSource
                else .expandingValueExpr fieldName))
      | (none, evaluator) => .loop (.mk (source.setEvaluator evaluator) .readingFieldFromSource)

end

namespace FieldExprIterator

/-- The `ReadingFieldFromSource` arm of `FieldExprIterator::next` after a field expression
was read: it is yielded, after its macro, if any, has been pushed. -/
def readFieldExpr (source : ExpandedStructIteratorSource) :
    FieldExpr → LoopStep FieldExpr FieldExprIterator
  | .nameValue name value => .done (some (.ok (.nameValue name value))) ⟨source, .readingFieldFromSource⟩
  | .nameMacro name invocation =>
      match invocation.expand with
      | .error e => .done (some (.error e)) ⟨source, .readingFieldFromSource⟩
      | .ok expansion =>
          .done (some (.ok (.nameMacro name invocation)))
            ⟨source.setEvaluator (source.evaluator.push expansion), .expandingValueExpr name⟩
  | .eExp invocation =>
      match beginInliningStructFromMacro .readingFieldFromSource source.evaluator invocation with
      | (.error e, state, evaluator) => .done (some (.error e)) ⟨source.setEvaluator evaluator, state⟩
      | (.ok (), state, evaluator) =>
          .done (some (.ok (.eExp invocation))) ⟨source.setEvaluator evaluator, state⟩

/-- One pass of `FieldExprIterator::next`. -/
def nextPass : FieldExprIterator → LoopStep FieldExpr FieldExprIterator
  | ⟨source, .readingFieldFromSource⟩ =>
      match source.nextField with
      | .loop source => .loop ⟨source, .readingFieldFromSource⟩
      | .done none source => .done none ⟨source, .readingFieldFromSource⟩
      | .done (some (.error e)) source => .done (some (.error e)) ⟨source, .readingFieldFromSource⟩
      | .done (some (.ok field)) source => readFieldExpr source field
  | ⟨source, .inliningAStruct structIter⟩ =>
      match structIter.nextFieldPass with
      | .done (some (.ok inlinedField)) structIter =>
          .done (some (.ok inlinedField.toFieldExpr)) ⟨source, .inliningAStruct structIter⟩
      | .done (some (.error e)) structIter =>
          .done (some (.error e)) ⟨source, .inliningAStruct structIter⟩
      | .loop structIter => .loop ⟨source, .inliningAStruct structIter⟩
      | .done none structIter =>
          match nextStructFromMacro source.evaluator with
          | (.error e, evaluator) =>
              .done (some (.error e)) ⟨source.setEvaluator evaluator, .inliningAStruct structIter⟩
          | (.ok (some struct), evaluator) =>
              .loop ⟨source.setEvaluator evaluator, .inliningAStruct struct.iter⟩
          | (.ok none, evaluator) => .loop ⟨source.setEvaluator evaluator, .readingFieldFromSource⟩
  | ⟨source, .expandingValueExpr fieldName⟩ =>
      match source.evaluator.next with
      | (some nextValue, evaluator) =>
          .done (some (.ok (.nameValue fieldName nextValue)))
            ⟨source.setEvaluator evaluator,
              if evaluator.isEmpty then .readingFieldFromSource else .expandingValueExpr fieldName⟩
      | (none, evaluator) => .loop ⟨source.setEvaluator evaluator, .readingFieldFromSource⟩

end FieldExprIterator

end IonRust
