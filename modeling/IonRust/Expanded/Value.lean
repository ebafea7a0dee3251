import IonRust.PullLoop

/-!
# Expanded values, field expressions and macro invocations

The data that the struct iterators of `lazy/expanded/struct.rs` read.  A `LazyExpandedValue`
is modelled by what its `read()` resolves to: a struct, some other value, or an error.  A
`MacroExpr` is an invocation together with its expansion: the values that evaluating it
yields, in order, or the error that `expand()` reports, and two facts about that expansion
which the iterators consult.  Struct sources keep the four shapes of `ExpandedStructSource`;
a template struct's fields are already resolved in the invoking environment.  A field name is
its resolved text.

The `work` of a value bounds how many passes of any iterator it can cost; the termination
argument of `IonRust.Expanded.Termination` rests on it.
-/

namespace IonRust

/-- The compiled field index of a template struct: the positions of the fields with each
name, in order. -/
structure TemplateStructIndex where
  entries : List (String × List Nat)

/-- `TemplateStructIndex::get`. -/
def TemplateStructIndex.get (index : TemplateStructIndex) (name : String) : Option (List Nat) :=
  List.lookup name index.entries

mutual

/-- An expanded value, by what `LazyExpandedValue::read` resolves it to. -/
inductive LazyExpandedValue where
  /-- A value that reads as something other than a struct. -/
  | scalar (payload : Int)
  | struct (source : LazyExpandedStruct)
  /-- A value whose `read()` fails. -/
  | unreadable (error : IonError)

/-- An expanded struct, by its `ExpandedStructSource`. -/
inductive LazyExpandedStruct where
  /-- A struct literal of the input, with the field expressions its raw iterator yields. -/
  | valueLiteral (fieldExprs : List (Except IonError FieldExpr))
  | template (fields : List TemplateField) (index : TemplateStructIndex)
  | makeStruct (arguments : List ValueExpr)
  | makeField (name : String) (value : LazyExpandedValue)

/-- A field of a template struct body: its name and its value expression. -/
inductive TemplateField where
  | mk (name : String) (value : ValueExpr)

inductive FieldExpr where
  | nameValue (name : String) (value : LazyExpandedValue)
  | nameMacro (name : String) (invocation : MacroExpr)
  | eExp (invocation : MacroExpr)

/-- A macro invocation: the values its expansion evaluates to (or the error of `expand()`),
whether `expansion_analysis()` proves it produces a single value, and whether the evaluator
pops its frame together with its last value or only on the call after it. -/
inductive MacroExpr where
  | mk (expansion : Except IonError (List LazyExpandedValue)) (singletonAnalysis : Bool)
      (popsWithLastValue : Bool)

inductive ValueExpr where
  | valueLiteral (value : LazyExpandedValue)
  | macroInvocation (invocation : MacroExpr)

end

/-- `LazyExpandedField`: a name and the value it labels. -/
structure LazyExpandedField where
  name : String
  value : LazyExpandedValue

/-- `LazyExpandedField::to_field_expr`. -/
def LazyExpandedField.toFieldExpr (field : LazyExpandedField) : FieldExpr :=
  .nameValue field.name field.value

/-- `ExpandedValueRef`, as far as the iterators look into it. -/
inductive ExpandedValueRef where
  | struct (source : LazyExpandedStruct)
  | scalar (payload : Int)

/-- `LazyExpandedValue::read`. -/
def LazyExpandedValue.read : LazyExpandedValue → Except IonError ExpandedValueRef
  | .scalar payload => .ok (.scalar payload)
  | .struct source => .ok (.struct source)
  | .unreadable error => .error error

namespace MacroExpr

/-- The values of the invocation's expansion, or the error of `expand()`. -/
def expansion : MacroExpr → Except IonError (List LazyExpandedValue)
  | .mk expansion _ _ => expansion

def popsWithLastValue : MacroExpr → Bool
  | .mk _ _ pops => pops

/-- `expansion_analysis().must_produce_exactly_one_value()` followed by `expand_singleton()`:
the analysis is sound, so it only answers for an expansion of exactly one value. -/
def singletonValue? : MacroExpr → Option LazyExpandedValue
  | .mk (.ok [value]) true _ => some value
  | _ => none

theorem singletonValue?_eq_some {invocation : MacroExpr} {value : LazyExpandedValue}
    (h : invocation.singletonValue? = some value) : invocation.expansion = .ok [value] := by
  rcases invocation with ⟨_ | _ | ⟨v, _ | _⟩, _ | _, pops⟩ <;>
    simp_all [singletonValue?, expansion]

end MacroExpr

/-- The field expression a template struct field stands for
(`TemplateStructFieldExprIterator`). -/
def TemplateField.toFieldExpr : TemplateField → FieldExpr
  | .mk name (.valueLiteral value) => .nameValue name value
  | .mk name (.macroInvocation invocation) => .nameMacro name invocation

def TemplateField.name : TemplateField → String
  | .mk name _ => name

@[simp] theorem TemplateField.name_mk (name : String) (value : ValueExpr) :
    (TemplateField.mk name value).name = name := rfl

@[simp] theorem TemplateField.toFieldExpr_valueLiteral (name : String) (value : LazyExpandedValue) :
    (TemplateField.mk name (.valueLiteral value)).toFieldExpr = .nameValue name value := rfl

@[simp] theorem TemplateField.toFieldExpr_macroInvocation (name : String) (invocation : MacroExpr) :
    (TemplateField.mk name (.macroInvocation invocation)).toFieldExpr =
      .nameMacro name invocation := rfl

/-! ## Work -/

mutual

def LazyExpandedValue.work : LazyExpandedValue → Nat
  | .scalar _ => 1
  | .struct source => source.work + 2
  | .unreadable _ => 1

def LazyExpandedStruct.work : LazyExpandedStruct → Nat
  | .valueLiteral fieldExprs => fieldExprsWork fieldExprs
  | .template fields _ => templateFieldsWork fields
  | .makeStruct arguments => argumentsWork arguments
  | .makeField _ _ => 1

def fieldExprsWork : List (Except IonError FieldExpr) → Nat
  | [] => 0
  | .error _ :: rest => fieldExprsWork rest + 1
  | .ok fieldExpr :: rest => fieldExpr.work + fieldExprsWork rest

def templateFieldsWork : List TemplateField → Nat
  | [] => 0
  | field :: rest => field.work + templateFieldsWork rest

def TemplateField.work : TemplateField → Nat
  | .mk _ (.valueLiteral _) => 1
  | .mk _ (.macroInvocation invocation) => invocation.work + 3

def FieldExpr.work : FieldExpr → Nat
  | .nameValue _ _ => 1
  | .nameMacro _ invocation => invocation.work + 3
  | .eExp invocation => invocation.work + 3

def MacroExpr.work : MacroExpr → Nat
  | .mk (.ok values) _ _ => valuesWork values + 1
  | .mk (.error _) _ _ => 0

def valuesWork : List LazyExpandedValue → Nat
  | [] => 0
  | value :: rest => value.work + 1 + valuesWork rest

def argumentsWork : List ValueExpr → Nat
  | [] => 0
  | argument :: rest => argument.work + argumentsWork rest

def ValueExpr.work : ValueExpr → Nat
  | .valueLiteral value => value.work + 1
  | .macroInvocation invocation => invocation.work + 1

end

theorem TemplateField.work_eq (field : TemplateField) : field.work = field.toFieldExpr.work := by
  rcases field with ⟨_, _ | _⟩ <;> rfl

end IonRust
