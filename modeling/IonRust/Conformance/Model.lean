import IonRust.Conformance.Expressions

/-!
# The denotes oracle of the conformance DSL

`compare_values` decides whether an actual lazy value denotes an expected `ModelValue`.  It
reads the actual value through `LazyValue`, which is in `ion_rs`, and looks symbols up in the
test `Context`; neither is under src/, so the model takes what it calls on them as parameters,
`LazyValueApi` and `Context`.  Every arm is modelled as the code has it, with its `expect`s,
`unwrap`s, `todo!`s and `unreachable!`s as panics.

The list and s-expression arms zip the actual elements with the expected ones, and `zip` stops
at the shorter side, so they accept a container with elements missing or extra, at every depth:
`compareValues` accepts a list exactly when the pairs of its common prefix with the expected
elements are accepted.  The struct and annotation arms compare the lengths first.
-/

namespace IonRust

inductive SymbolToken where
  | text (text : String)
  | address (sid : Nat)
  | absent (symtab : String) (offset : Int)
  deriving DecidableEq, Repr

/-- `as_symbol_ref`, whose `todo!` panics on an address other than 0 and on an absent symbol. -/
def SymbolToken.asSymbolRef : SymbolToken → Option SymbolRef
  | .text name => some ⟨some name⟩
  | .address 0 => some ⟨none⟩
  | .address _ => none
  | .absent _ _ => none

inductive ModelValue (Decimal Timestamp : Type) where
  | null (ionType : IonType)
  | bool (value : Bool)
  | int (value : Int)
  | float (value : Float)
  | decimal (value : Decimal)
  | timestamp (value : Timestamp)
  | string (value : String)
  | symbol (token : SymbolToken)
  | list (values : List (ModelValue Decimal Timestamp))
  | sexp (values : List (ModelValue Decimal Timestamp))
  | struct (fields : List (SymbolToken × ModelValue Decimal Timestamp))
  | blob (bytes : List UInt8)
  | clob (bytes : List UInt8)
  | annot (value : ModelValue Decimal Timestamp) (annotations : List SymbolToken)

inductive RawValueRef where
  | symbol (raw : RawSymbolRef)
  | other

/-- `ValueRef`, as far as `compare_values` looks into it: a container with its elements as
`iter().collect()` gives them, a struct as `Element::try_from` makes it, and every other kind of
value alike. -/
inductive ValueRef (V Decimal Timestamp : Type) where
  | symbol (text : SymbolRef)
  | struct (element : Except IonError (Element Decimal Timestamp))
  | list (items : Except IonError (List V))
  | sexp (items : Except IonError (List V))
  | scalar

/-- What `compare_values` calls on an actual value of type `V` through `ion_rs`:
`other.raw().map(|r| r.read())`, `other.read()`, `other.annotations().collect()`,
`Element::try_from(*other)`, `other.symbol_table().sid_for(text)`,
`RawSymbolRef::matches_sid_or_text`, and `Struct == Element`. -/
structure LazyValueApi (V Decimal Timestamp : Type) where
  raw : V → Option (Except IonError RawValueRef)
  read : V → Except IonError (ValueRef V Decimal Timestamp)
  annotations : V → Except IonError (List SymbolRef)
  toElement : V → Except IonError (Element Decimal Timestamp)
  sidFor : V → String → Option Nat
  matchesSidOrText : RawSymbolRef → Nat → String → Bool
  structEq : List (SymbolRef × Element Decimal Timestamp) → Element Decimal Timestamp → Bool

structure Context where
  symbolFromTable : String → Nat → Option SymbolRef

def asUsize (i : Int) : Nat :=
  (i % 2 ^ 64).toNat

namespace ModelValue

variable {Decimal Timestamp : Type}

mutual

/-- `Element::try_from(&ModelValue)`, whose `todo!` panics on structs, blobs, clobs and
annotations. -/
def toElement :
    ModelValue Decimal Timestamp →
      Option (Except ConformanceErrorKind (Element Decimal Timestamp))
  | .null ionType => some (.ok (.null ionType))
  | .bool value => some (.ok (.bool value))
  | .int value => some (.ok (.int value))
  | .float value => some (.ok (.float value))
  | .decimal value => some (.ok (.decimal value))
  | .timestamp value => some (.ok (.timestamp value))
  | .string value => some (.ok (.string value))
  | .symbol token => token.asSymbolRef.map fun symbol => .ok (.symbol symbol)
  | .list values => (toElements values).map (Except.map .list)
  | .sexp values => (toElements values).map (Except.map .sexp)
  | .struct _ | .blob _ | .clob _ | .annot _ _ => none

def toElements : List (ModelValue Decimal Timestamp) →
    Option (Except ConformanceErrorKind (List (Element Decimal Timestamp)))
  | [] => some (.ok [])
  | value :: values =>
    match toElement value with
    | none => none
    | some (.error e) => some (.error e)
    | some (.ok element) => (toElements values).map (Except.map (element :: ·))

end

/-- `ModelValue == Element`, whose `unreachable!` panics on symbols, containers and
annotations. -/
def eqElement [BEq Decimal] [BEq Timestamp] :
    ModelValue Decimal Timestamp → Element Decimal Timestamp → Option Bool
  | .null ionType, other => some (other.ionType == ionType && other.isNull)
  | .bool value, other => some (other.asBool == some value)
  | .int value, other => some (other.asInt == some value)
  | .float value, other => some (other.asFloat == some value)
  | .decimal value, other => some (other.asDecimal == some value)
  | .string value, other => some (other.asString == some value)
  | .blob bytes, other => some (other.asBlob == some bytes)
  | .clob bytes, other => some (other.asClob == some bytes)
  | .timestamp value, other => some (other.asTimestamp == some value)
  | _, _ => none

mutual

/-- The values `Element::try_from` converts without reaching its `todo!`: no struct, blob, clob
or annotation at any depth, and only symbols of known text or of address 0. -/
def convertible : ModelValue Decimal Timestamp → Bool
  | .symbol token => token.asSymbolRef.isSome
  | .list values | .sexp values => convertibleAll values
  | .struct _ | .blob _ | .clob _ | .annot _ _ => false
  | _ => true

def convertibleAll : List (ModelValue Decimal Timestamp) → Bool
  | [] => true
  | value :: values => convertible value && convertibleAll values

end

mutual

/-- `Element::try_from(&ModelValue)` panics exactly on the values that are not convertible. -/
theorem toElement_isOk : ∀ value : ModelValue Decimal Timestamp,
    (∃ element, value.toElement = some (.ok element)) ↔ value.convertible = true
  | .null _ | .bool _ | .int _ | .float _ | .decimal _ | .timestamp _ | .string _ => by
    simp only [toElement, Option.some.injEq, Except.ok.injEq, exists_eq', convertible]
  | .symbol token => by
    rcases h : token.asSymbolRef with _ | symbol <;>
      simp only [toElement, h, Option.map_none', Option.map_some', reduceCtorEq, exists_false,
        Option.some.injEq, Except.ok.injEq, exists_eq', convertible, Option.isSome_none,
        Option.isSome_some, Bool.false_eq_true]
  | .list values | .sexp values => by
    simp only [toElement, convertible, ← toElements_isOk values]
    cases toElements values with
    | none => simp only [Option.map_none', reduceCtorEq, exists_false]
    | some r =>
      cases r <;> simp only [Option.map_some', Except.map, Option.some.injEq, reduceCtorEq,
        Except.ok.injEq, exists_false, exists_eq']
  | .struct _ | .blob _ | .clob _ | .annot _ _ => by
    simp only [toElement, reduceCtorEq, exists_false, convertible, Bool.false_eq_true]

theorem toElements_isOk : ∀ values : List (ModelValue Decimal Timestamp),
    (∃ elements, toElements values = some (.ok elements)) ↔ convertibleAll values = true
  | [] => by
    simp only [toElements, Option.some.injEq, Except.ok.injEq, List.nil_eq, exists_eq,
      convertibleAll]
  | value :: values => by
    simp only [toElements, convertibleAll, Bool.and_eq_true, ← toElement_isOk value,
      ← toElements_isOk values]
    rcases value.toElement with _ | _ | element
    · simp only [reduceCtorEq, exists_false, false_and]
    · simp only [Option.some.injEq, reduceCtorEq, exists_false, false_and]
    · cases toElements values with
      | none =>
        simp only [Option.map_none', reduceCtorEq, exists_false, and_false]
      | some r =>
        cases r <;> simp only [Option.map_some', Except.map, Option.some.injEq, reduceCtorEq,
          Except.ok.injEq, exists_false, exists_eq', and_false, and_self]

end

mutual

/-- `Element::try_from(&ModelValue)` never returns an error: it converts, or it panics. -/
theorem toElement_ne_error :
    ∀ (value : ModelValue Decimal Timestamp) (e : ConformanceErrorKind),
      value.toElement ≠ some (.error e)
  | .null _, _ | .bool _, _ | .int _, _ | .float _, _ | .decimal _, _ | .timestamp _, _
  | .string _, _ | .struct _, _ | .blob _, _ | .clob _, _ | .annot _ _, _ => nofun
  | .symbol token, _ => by
    simp only [toElement]
    cases token.asSymbolRef <;> nofun
  | .list values, e | .sexp values, e => by
    simp only [toElement]
    rcases htoElements : toElements values with _ | (e' | elements)
    · nofun
    · exact absurd htoElements (toElements_ne_error values e')
    · nofun

theorem toElements_ne_error :
    ∀ (values : List (ModelValue Decimal Timestamp)) (e : ConformanceErrorKind),
      toElements values ≠ some (.error e)
  | [], _ => nofun
  | value :: values, e => by
    simp only [toElements]
    rcases htoElement : value.toElement with _ | (e' | element)
    · nofun
    · exact absurd htoElement (toElement_ne_error value e')
    · rcases htoElements : toElements values with _ | (e' | elements)
      · nofun
      · exact absurd htoElements (toElements_ne_error values e')
      · nofun

end

end ModelValue

section CompareValues

variable {V Decimal Timestamp : Type} [BEq Decimal] [BEq Timestamp]
  (api : LazyValueApi V Decimal Timestamp) (ctx : Context)

def compareSymbol (token : SymbolToken) (other : V) :
    Option (Except ConformanceErrorKind Bool) :=
  match api.raw other with
  | none => some (.ok false)
  | some (.error e) => some (.error (.ionError e))
  | some (.ok .other) => some (.ok false)
  | some (.ok (.symbol rawSymbol)) =>
    match api.read other with
    | .error _ => none
    | .ok (.symbol symbolText) =>
      match token with
      | .text text => some (.ok (symbolText.text == some text))
      | .address sid => some (.ok (api.matchesSidOrText rawSymbol sid ""))
      | .absent symtab offset =>
        match ctx.symbolFromTable symtab (asUsize offset) with
        | none => some (.ok (api.matchesSidOrText rawSymbol 0 ""))
        | some shared =>
          let sharedText := shared.text.getD ""
          some (.ok (api.matchesSidOrText rawSymbol ((api.sidFor other sharedText).getD 0)
            sharedText))
    | .ok _ => some (.ok false)

/-- The fields the struct arm builds its expected struct from: each name by `as_symbol_ref` and
each value by `Element::try_from(..).unwrap()`. -/
def expectedStructFields :
    List (SymbolToken × ModelValue Decimal Timestamp) →
      Option (List (SymbolRef × Element Decimal Timestamp))
  | [] => some []
  | (token, value) :: rest => do
    let name ← token.asSymbolRef
    let element ← match value.toElement with
      | some (.ok element) => some element
      | _ => none
    let fields ← expectedStructFields rest
    pure ((name, element) :: fields)

/-- The struct arm of `compare_values`: the lengths first, then `ion_rs`'s struct equality. -/
def compareStruct (expectedFields : List (SymbolToken × ModelValue Decimal Timestamp))
    (other : V) : Option (Except ConformanceErrorKind Bool) :=
  match api.read other with
  | .error _ => none
  | .ok (.struct actual) =>
    match actual with
    | .error e => some (.error (.ionError e))
    | .ok actual =>
      match actual.asStruct with
      | none => none
      | some actualFields =>
        if actualFields.length ≠ expectedFields.length then some (.ok false)
        else (expectedStructFields expectedFields).map fun fields =>
          .ok (api.structEq actualFields (.struct fields))
  | .ok _ => some (.ok false)

def compareScalar (model : ModelValue Decimal Timestamp) (other : V) :
    Option (Except ConformanceErrorKind Bool) :=
  match api.toElement other with
  | .error e => some (.error (.ionError e))
  | .ok element => (model.eqElement element).map .ok

/-- The fold of the annotation arm, `acc && (a == &e.as_symbol_ref())` over the zipped
annotations; `&&` does not call `as_symbol_ref` once a pair has differed. -/
def annotationsMatch : Bool → List SymbolRef → List SymbolToken → Option Bool
  | acc, actual :: actuals, expected :: expecteds =>
    if acc then
      expected.asSymbolRef.bind fun symbol => annotationsMatch (actual == symbol) actuals expecteds
    else annotationsMatch false actuals expecteds
  | acc, _, _ => some acc

mutual

def compareValues :
    ModelValue Decimal Timestamp → V → Option (Except ConformanceErrorKind Bool)
  | .symbol token, other => compareSymbol api ctx token other
  | .struct expectedFields, other => compareStruct api expectedFields other
  | .list expected, other =>
    match api.read other with
    | .error _ => none
    | .ok (.list items) =>
      match items with
      | .error _ => none
      | .ok actual => compareZip actual expected
    | .ok _ => some (.ok false)
  | .sexp expected, other =>
    match api.read other with
    | .error _ => none
    | .ok (.sexp items) =>
      match items with
      | .error e => some (.error (.ionError e))
      | .ok actual => compareZip actual expected
    | .ok _ => some (.ok false)
  | .annot value annotations, other =>
    match api.annotations other with
    | .error e => some (.error (.ionError e))
    | .ok otherAnnotations =>
      if otherAnnotations.length ≠ annotations.length then some (.ok false)
      else
        match annotationsMatch true otherAnnotations annotations with
        | none => none
        | some false => some (.ok false)
        | some true => compareValues value other
  | model, other => compareScalar api model other

def compareZip :
    List V → List (ModelValue Decimal Timestamp) → Option (Except ConformanceErrorKind Bool)
  | actual :: actuals, expected :: expecteds =>
    match compareValues expected actual with
    | some (.ok true) => compareZip actuals expecteds
    | result => result
  | _, _ => some (.ok true)

end

theorem compareZip_eq_true_iff :
    ∀ (actual : List V) (expected : List (ModelValue Decimal Timestamp)),
      compareZip api ctx actual expected = some (.ok true) ↔
        ∀ p ∈ actual.zip expected, compareValues api ctx p.2 p.1 = some (.ok true)
  | [], _ => by simp [compareZip]
  | _ :: _, [] => by simp [compareZip]
  | a :: actuals, e :: expecteds => by
    rw [List.zip_cons_cons, List.forall_mem_cons, ← compareZip_eq_true_iff actuals expecteds]
    by_cases h : compareValues api ctx e a = some (.ok true)
    · simp only [compareZip, h, true_and]
    · simp only [h, false_and, iff_false]
      rw [compareZip]
      split
      · next heq => exact absurd heq h
      · next r hr => exact fun hr' => h (hr' ▸ rfl)

/-- The list and s-expression arms accept an actual value exactly when it reads as a container
of that kind whose elements, zipped with the expected ones, are accepted pair by pair: nothing
compares the two lengths. -/
theorem compareValues_container_eq_true_iff (expected : List (ModelValue Decimal Timestamp))
    (other : V) :
    (compareValues api ctx (.list expected) other = some (.ok true) ↔
      ∃ actual, api.read other = .ok (.list (.ok actual)) ∧
        ∀ p ∈ actual.zip expected, compareValues api ctx p.2 p.1 = some (.ok true)) ∧
    (compareValues api ctx (.sexp expected) other = some (.ok true) ↔
      ∃ actual, api.read other = .ok (.sexp (.ok actual)) ∧
        ∀ p ∈ actual.zip expected, compareValues api ctx p.2 p.1 = some (.ok true)) := by
  constructor <;> simp only [compareValues] <;>
    rcases api.read other with e | (_ | _ | (_ | actual) | (_ | actual) | _) <;>
    simp [compareZip_eq_true_iff]

/-- A list denotes `List(es)` with elements missing or extra: a value that reads as `[]`
denotes every `List(es)`, and every list denotes `List()`. -/
theorem compareValues_list_ignores_length (expected : List (ModelValue Decimal Timestamp))
    (empty other : V) (actual : List V) (hempty : api.read empty = .ok (.list (.ok [])))
    (hother : api.read other = .ok (.list (.ok actual))) :
    compareValues api ctx (.list expected) empty = some (.ok true) ∧
      compareValues api ctx (.list []) other = some (.ok true) := by
  constructor
  · simp only [compareValues, hempty, compareZip]
  · rcases actual with _ | ⟨_, _⟩ <;> simp only [compareValues, hother, compareZip]

end CompareValues

section StructArm

variable {V Decimal Timestamp : Type} (api : LazyValueApi V Decimal Timestamp)

/-- Building the expected struct panics exactly when a field's name is neither text nor the
address 0, or a field's value is not convertible. -/
theorem expectedStructFields_eq_none_iff :
    ∀ fields : List (SymbolToken × ModelValue Decimal Timestamp),
      expectedStructFields fields = none ↔
        ∃ field ∈ fields, field.1.asSymbolRef = none ∨ field.2.convertible = false
  | [] => by
    simp only [expectedStructFields, reduceCtorEq, List.not_mem_nil, false_and, exists_false]
  | (token, value) :: rest => by
    have hvalue := ModelValue.toElement_isOk value
    have hrest := expectedStructFields_eq_none_iff rest
    simp only [List.mem_cons, exists_eq_or_imp]
    rcases htoken : token.asSymbolRef with _ | name
    · simp only [expectedStructFields, htoken, Option.pure_def, Option.bind_eq_bind,
        Option.none_bind, true_or]
    · rcases helement : value.toElement with _ | (e | element)
      case some.ok =>
        have hconv : value.convertible = true := hvalue.mp ⟨element, helement⟩
        rw [← hrest]
        rcases hfields : expectedStructFields rest with _ | fields <;>
          simp only [expectedStructFields, htoken, helement, hfields, Option.pure_def,
            Option.bind_eq_bind, Option.some_bind, Option.none_bind, reduceCtorEq, hconv,
            Bool.true_eq_false, or_self, false_or]
      all_goals
        have hconv : value.convertible = false := by
          simpa only [helement, reduceCtorEq, Option.some.injEq, exists_false, false_iff,
            Bool.not_eq_true] using hvalue
        simp only [expectedStructFields, htoken, helement, hconv, Option.pure_def,
          Option.bind_eq_bind, Option.some_bind, Option.none_bind, true_iff, or_true, true_or]

/-- The struct arm of `compare_values` panics exactly when reading the actual value fails, or the
actual value is a struct with as many fields as the expected one and some expected field's name
is neither text nor the address 0, or some expected field's value holds a struct, a blob, a clob,
an annotation or such a symbol.  `Element::try_from(&ModelValue)` never returns an error, so its
`unwrap` there panics only where the conversion itself does. -/
theorem compareStruct_eq_none_iff (expectedFields : List (SymbolToken × ModelValue Decimal Timestamp))
    (other : V) :
    (∀ (value : ModelValue Decimal Timestamp) (e : ConformanceErrorKind),
      value.toElement ≠ some (.error e)) ∧
    (compareStruct api expectedFields other = none ↔
      (∃ e, api.read other = .error e) ∨
        ∃ actual, api.read other = .ok (.struct (.ok actual)) ∧
          (actual.asStruct = none ∨
            ∃ actualFields, actual.asStruct = some actualFields ∧
              actualFields.length = expectedFields.length ∧
              ∃ field ∈ expectedFields,
                field.1.asSymbolRef = none ∨ field.2.convertible = false)) := by
  refine ⟨ModelValue.toElement_ne_error, ?_⟩
  unfold compareStruct
  rcases api.read other with e | (_ | (e | actual) | _ | _ | _)
  case ok.struct.ok =>
    rcases hstruct : actual.asStruct with _ | actualFields
    · simp only [hstruct, reduceCtorEq, exists_false, Except.ok.injEq, ValueRef.struct.injEq,
        exists_eq_left', true_or, or_true]
    · by_cases hlen : actualFields.length = expectedFields.length
      · simpa only [hstruct, hlen, ne_eq, not_true_eq_false, if_false, Option.map_eq_none',
          reduceCtorEq, exists_false, Except.ok.injEq, ValueRef.struct.injEq, exists_eq_left',
          Option.some.injEq, true_and, false_or] using expectedStructFields_eq_none_iff expectedFields
      · simp only [hstruct, ne_eq, hlen, not_false_eq_true, if_true, reduceCtorEq, exists_false,
          Except.ok.injEq, ValueRef.struct.injEq, exists_eq_left', Option.some.injEq, false_and,
          or_self]
  all_goals simp only [Except.error.injEq, exists_eq', reduceCtorEq, exists_false,
    Except.ok.injEq, ValueRef.struct.injEq, Prod.exists, false_and, or_self, or_false]

end StructArm

/-- Values that are lists of empty lists: `n` reads as a list of `n` values `0`, so `0` is `[]`
and `2` is `[[], []]`. -/
def emptyListsApi : LazyValueApi Nat Unit Unit where
  raw _ := none
  read n := .ok (.list (.ok (List.replicate n 0)))
  annotations _ := .ok []
  toElement _ := .ok (.list [])
  sidFor _ _ := none
  matchesSidOrText _ _ _ := false
  structEq _ _ := false

theorem compareValues_list_ignores_length_emptyLists :
    emptyListsApi.read 0 = .ok (.list (.ok [])) ∧
      emptyListsApi.read 2 = .ok (.list (.ok [0, 0])) ∧
      compareValues emptyListsApi ⟨fun _ _ => none⟩ (.list [.int 1]) 0 = some (.ok true) ∧
      compareValues emptyListsApi ⟨fun _ _ => none⟩ (.list []) 2 = some (.ok true) :=
  ⟨rfl, rfl, compareValues_list_ignores_length emptyListsApi _ _ 0 2 [0, 0] rfl rfl⟩

end IonRust
