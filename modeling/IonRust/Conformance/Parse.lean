import IonRust.Conformance.Model

/-!
# Reading data-model clauses

`ModelValue::try_from(&Sequence)` reads a clause of the conformance DSL's data model, such as
`(Int 5)` or `(List (Bool true) 3)`, into a `ModelValue`.  `ModelValue::try_from(&Element)` takes a
scalar element as the value it is and reads a list or an s-expression as a clause, and
`SymbolToken::try_from(&Element)` reads a symbol token.  The three call one another down the
clause.  Every arm is modelled as the code has it: a failed `?` is the error it returns, and an
`unwrap` on `None` or an `unreachable!` is a panic, `none`.

`Clause::try_from`, `str::parse::<f64>`, `Decimal::new`, the `Timestamp` builder and
`String::from_utf8_unchecked` are not under src/; they are the fields of `ClauseReaders`.

Each clause that the DSL's grammar writes for a value reads back as that value: for every value
without floats, decimals, timestamps or absent symbols, whose clauses those outside readers
read, `toClause` gives a clause, and reading it gives the value.  A `(Struct ...)` clause skips
every element that is not a list or an s-expression.
-/

namespace IonRust

def ionTypeFromStr : String → Option IonType
  | "null" => some .null
  | "bool" => some .bool
  | "int" => some .int
  | "float" => some .float
  | "decimal" => some .decimal
  | "timestamp" => some .timestamp
  | "string" => some .string
  | "symbol" => some .symbol
  | "list" => some .list
  | "sexp" => some .sexp
  | "struct" => some .struct
  | "blob" => some .blob
  | "clob" => some .clob
  | _ => none

/-- `ClauseType`, as far as the symbol arms tell clauses apart. -/
inductive ClauseType where
  | text
  | absent
  /-- Any other clause type. -/
  | other
  deriving DecidableEq, Repr

structure Clause (Decimal Timestamp : Type) where
  tpe : ClauseType
  body : List (Element Decimal Timestamp)

inductive Coefficient where
  | negativeZero
  | value (coefficient : Int)
  deriving DecidableEq, Repr

/-- The calls made on a `Timestamp` builder before `build`, by the values they are given:
`with_year`, then as far as the precision goes `with_month`, `with_day`, `with_hour_and_minute`,
`with_second` and `with_fractional_seconds`, and `with_offset` when the offset is known. -/
structure TimestampFields (Decimal : Type) where
  year : Nat
  month : Option Nat
  day : Option Nat
  hourAndMinute : Option (Nat × Nat)
  second : Option Nat
  fraction : Option Decimal
  offset : Option Int

/-- What the clause readers call outside src/. -/
structure ClauseReaders (Decimal Timestamp : Type) where
  /-- `Clause::try_from(&Sequence)`. -/
  clause : List (Element Decimal Timestamp) → Except ConformanceErrorKind (Clause Decimal Timestamp)
  /-- `str::parse::<f64>`. -/
  parseF64 : String → Option Float
  /-- `Decimal::new(coefficient, exponent)`. -/
  decimal : Coefficient → Int → Decimal
  /-- `build()` on a `Timestamp` builder given these fields. -/
  buildTimestamp : TimestampFields Decimal → Except IonError Timestamp
  /-- `String::from_utf8_unchecked`. -/
  fromUtf8Unchecked : List UInt8 → String

def asU32 (i : Int) : Nat :=
  (i % 2 ^ 32).toNat

def asI32 (i : Int) : Int :=
  if i % 2 ^ 32 < 2 ^ 31 then i % 2 ^ 32 else i % 2 ^ 32 - 2 ^ 32

def SymbolToken.fromSymbol (symbol : SymbolRef) : SymbolToken :=
  match symbol.text with
  | some name => .text name
  | none => .address 0

section Readers

variable {Decimal Timestamp : Type} (readers : ClauseReaders Decimal Timestamp)

/-- `iter.next().and_then(|e| e.as_i64()).ok_or(ExpectedInteger)`: the integer and the elements
after it. -/
def takeI64 : List (Element Decimal Timestamp) →
    Except ConformanceErrorKind (Int × List (Element Decimal Timestamp))
  | elem :: rest =>
    match elem.asI64 with
    | some value => .ok (value, rest)
    | none => .error .expectedInteger
  | [] => .error .expectedInteger

/-- `parse_ts_offset`: `(offset null)` is an unknown offset, `(offset n)` one of `n` minutes. -/
def parseTsOffset : List (Element Decimal Timestamp) → Except ConformanceErrorKind (Option Int)
  | first :: rest =>
    if first.asSymbol.bind SymbolRef.text = some "offset" then
      match rest with
      | [] => .error .expectedTimestampOffset
      | offset :: _ =>
        if offset.isNull then .ok none
        else
          match offset.asI64 with
          | some value => .ok (some value)
          | none => .error .expectedInteger
    else .error .expectedTimestampOffset
  | [] => .error .expectedTimestampOffset

/-- `parse_model_decimal`: `("negative_0" exponent)` or `(coefficient exponent)`. -/
def parseModelDecimal : List (Element Decimal Timestamp) → Except ConformanceErrorKind Decimal
  | first :: second :: _ =>
    match first.ionType, second.ionType with
    | .string, .int =>
      if first.asString = some "negative_0" then
        match second.asI64 with
        | some exponent => .ok (readers.decimal .negativeZero exponent)
        | none => .error .expectedModelValue
      else .error .expectedModelValue
    | .int, .int =>
      match first.asI64, second.asI64 with
      | some coefficient, some exponent => .ok (readers.decimal (.value coefficient) exponent)
      | _, _ => .error .expectedModelValue
    | _, _ => .error .expectedModelValue
  | _ => .error .expectedModelValue

def buildTimestamp (fields : TimestampFields Decimal) : Except ConformanceErrorKind Timestamp :=
  (readers.buildTimestamp fields).mapError .ionError

/-- The part of `parse_timestamp` after the day, for the precisions with a time: the offset
clause, the hour and minute, and for `second` and `fraction` the second and the fraction. -/
def parseTimeOfDay (year month day : Int) (withSecond withFraction : Bool)
    (elems : List (Element Decimal Timestamp)) : Except ConformanceErrorKind Timestamp := do
  let (offsetClause, elems) ←
    match elems with
    | elem :: rest =>
      match elem.asSequence with
      | some clause => .ok (clause, rest)
      | none => .error .expectedInteger
    | [] => .error .expectedInteger
  let offset ← parseTsOffset offsetClause
  let (hour, elems) ← takeI64 elems
  let (minute, elems) ← takeI64 elems
  let (second, elems) ← if withSecond then (takeI64 elems).map fun (s, e) => (some s, e)
    else .ok (none, elems)
  let fraction ← if withFraction then (parseModelDecimal readers elems).map some else .ok none
  buildTimestamp readers
    ⟨asU32 year, some (asU32 month), some (asU32 day), some (asU32 hour, asU32 minute),
      second.map asU32, fraction, offset.map asI32⟩

/-- `parse_timestamp`: the precision, then the fields it has, each an `i64` cast to `u32`, and
the offset cast to `i32`. -/
def parseTimestamp : List (Element Decimal Timestamp) → Except ConformanceErrorKind Timestamp
  | first :: elems =>
    match first.asSymbol.bind SymbolRef.text with
    | some "year" => do
      let (year, _) ← takeI64 elems
      buildTimestamp readers ⟨asU32 year, none, none, none, none, none, none⟩
    | some "month" => do
      let (year, elems) ← takeI64 elems
      let (month, _) ← takeI64 elems
      buildTimestamp readers ⟨asU32 year, some (asU32 month), none, none, none, none, none⟩
    | some "day" => do
      let (year, elems) ← takeI64 elems
      let (month, elems) ← takeI64 elems
      let (day, _) ← takeI64 elems
      buildTimestamp readers
        ⟨asU32 year, some (asU32 month), some (asU32 day), none, none, none, none⟩
    | some "minute" => do
      let (year, elems) ← takeI64 elems
      let (month, elems) ← takeI64 elems
      let (day, elems) ← takeI64 elems
      parseTimeOfDay readers year month day false false elems
    | some "second" => do
      let (year, elems) ← takeI64 elems
      let (month, elems) ← takeI64 elems
      let (day, elems) ← takeI64 elems
      parseTimeOfDay readers year month day true false elems
    | some "fraction" => do
      let (year, elems) ← takeI64 elems
      let (month, elems) ← takeI64 elems
      let (day, elems) ← takeI64 elems
      parseTimeOfDay readers year month day true true elems
    | _ => .error .expectedTimestampPrecision
  | [] => .error .expectedTimestampPrecision

def parseText (elems : List (Element Decimal Timestamp)) :
    Option (Except ConformanceErrorKind String) :=
  (parseTextExp elems).map (Except.map readers.fromUtf8Unchecked)

def absentToken (body : List (Element Decimal Timestamp)) :
    Except ConformanceErrorKind SymbolToken :=
  match body.head?.bind Element.asString, (body.drop 1).head?.bind Element.asI64 with
  | some symtab, some offset => .ok (.absent symtab offset)
  | _, _ => .error .expectedSymbolType

/-- The s-expression arm shared by `SymbolToken::try_from` and the `Symbol` clause: a `text`
clause is its text, an `absent` clause a symbol table and an offset, and any other clause is
`unreachable!`. -/
def symbolClauseToken (sequence : List (Element Decimal Timestamp)) :
    Option (Except ConformanceErrorKind SymbolToken) :=
  match readers.clause sequence with
  | .error e => some (.error e)
  | .ok clause =>
    match clause.tpe with
    | .text => (parseText readers clause.body).map (Except.map .text)
    | .absent => some (absentToken clause.body)
    | .other => none

/-- `SymbolToken::try_from(&Element)`.  Its `unwrap`s panic on a null symbol, string or
s-expression and on an integer outside `usize`. -/
def symbolTokenOf (elem : Element Decimal Timestamp) :
    Option (Except ConformanceErrorKind SymbolToken) :=
  match elem.ionType with
  | .symbol => elem.asSymbol.map fun symbol => .ok (.text (symbol.text.getD ""))
  | .string => elem.asString.map fun text => .ok (.text text)
  | .int => elem.asUsize.map fun sid => .ok (.address sid)
  | .sexp => elem.asSequence.bind (symbolClauseToken readers)
  | _ => some (.error .expectedSymbolType)

/-- The `Symbol` clause's reading of its first element: a string as text, an integer as an
address and an s-expression as a `text` or an `absent` clause. -/
def symbolValueOf (elem : Element Decimal Timestamp) :
    Option (Except ConformanceErrorKind SymbolToken) :=
  match elem.ionType with
  | .string => elem.asString.map fun text => .ok (.text text)
  | .int => elem.asUsize.map fun sid => .ok (.address sid)
  | .sexp => elem.asSequence.bind (symbolClauseToken readers)
  | _ => some (.error .expectedSymbolType)

def nullTypeName : List (Element Decimal Timestamp) → Except ConformanceErrorKind String
  | [] => .ok "null"
  | typeElement :: _ =>
    match typeElement.asSymbol.bind SymbolRef.text with
    | some name => .ok name
    | none => .error .expectedSymbolType

def annotOf (value : Except ConformanceErrorKind (ModelValue Decimal Timestamp))
    (annots : Except ConformanceErrorKind (List SymbolToken)) :
    Except ConformanceErrorKind (ModelValue Decimal Timestamp) := do
  let value ← value
  let annots ← annots
  pure (.annot value annots)

mutual

/-- `ModelValue::try_from(&Element)`. -/
def elementModelValue : Element Decimal Timestamp →
    Option (Except ConformanceErrorKind (ModelValue Decimal Timestamp))
  | .null ionType => some (.ok (.null ionType))
  | .bool value => some (.ok (.bool value))
  | .int value => some (.ok (.int value))
  | .float value => some (.ok (.float value))
  | .decimal value => some (.ok (.decimal value))
  | .timestamp value => some (.ok (.timestamp value))
  | .symbol value => some (.ok (.symbol (.fromSymbol value)))
  | .string value => some (.ok (.string value))
  | .clob bytes => some (.ok (.clob bytes))
  | .blob bytes => some (.ok (.blob bytes))
  | .list elements => sequenceModelValue elements
  | .sexp elements => sequenceModelValue elements
  | .struct fields => (elementFieldValues fields).map (Except.map .struct)

/-- The fields of a struct element, each name by `from_symbol` and each value read, up to the
first error. -/
def elementFieldValues : List (SymbolRef × Element Decimal Timestamp) →
    Option (Except ConformanceErrorKind (List (SymbolToken × ModelValue Decimal Timestamp)))
  | [] => some (.ok [])
  | (name, value) :: fields =>
    match elementModelValue value with
    | none => none
    | some (.error e) => some (.error e)
    | some (.ok value) =>
      (elementFieldValues fields).map (Except.map ((.fromSymbol name, value) :: ·))

def elementModelValues : List (Element Decimal Timestamp) →
    Option (Except ConformanceErrorKind (List (ModelValue Decimal Timestamp)))
  | [] => some (.ok [])
  | elem :: elems =>
    match elementModelValue elem with
    | none => none
    | some (.error e) => some (.error e)
    | some (.ok value) => (elementModelValues elems).map (Except.map (value :: ·))

/-- The loop of the `Struct` clause: each list or s-expression of two elements a symbol token and
a value, one of another length an `ExpectedClause`, and every other element skipped. -/
def structClauseFields : List (Element Decimal Timestamp) →
    Option (Except ConformanceErrorKind (List (SymbolToken × ModelValue Decimal Timestamp)))
  | [] => some (.ok [])
  | elem :: elems =>
    match elem with
    | .list [first, second] | .sexp [first, second] =>
      match symbolTokenOf readers first with
      | none => none
      | some (.error e) => some (.error e)
      | some (.ok name) =>
        match elementModelValue second with
        | none => none
        | some (.error e) => some (.error e)
        | some (.ok value) => (structClauseFields elems).map (Except.map ((name, value) :: ·))
    | .list _ | .sexp _ => some (.error .expectedClause)
    | _ => structClauseFields elems

/-- `ModelValue::try_from(&Sequence)` on the sequence's elements: the clause's name, then its
arm; a name that is no clause's is `unreachable!`. -/
def sequenceModelValue : List (Element Decimal Timestamp) →
    Option (Except ConformanceErrorKind (ModelValue Decimal Timestamp))
  | [] => some (.error .expectedModelValue)
  | first :: elems =>
    match first.asSymbol.map SymbolRef.text with
    | none | some none => some (.error .expectedModelValue)
    | some (some "Null") =>
      some (do
        let name ← nullTypeName elems
        match ionTypeFromStr name with
        | some ionType => .ok (.null ionType)
        | none => .error .expectedModelValue)
    | some (some "Bool") =>
      some (match elems.head?.bind Element.asBool with
        | some value => .ok (.bool value)
        | none => .error .expectedModelValue)
    | some (some "Int") =>
      some (match elems.head?.bind Element.asInt with
        | some value => .ok (.int value)
        | none => .error .expectedModelValue)
    | some (some "Float") =>
      some (match elems.head?.bind Element.asString with
        | some text =>
          match readers.parseF64 text with
          | some value => .ok (.float value)
          | none => .error .expectedFloatString
        | none => .error .expectedModelValue)
    | some (some "Decimal") => some ((parseModelDecimal readers elems).map .decimal)
    | some (some "String") => (parseText readers elems).map (Except.map .string)
    | some (some "Symbol") =>
      match elems with
      | [] => some (.error .expectedSymbolType)
      | value :: _ => (symbolValueOf readers value).map (Except.map .symbol)
    | some (some "Timestamp") => some ((parseTimestamp readers elems).map .timestamp)
    | some (some "List") => (elementModelValues elems).map (Except.map .list)
    | some (some "Sexp") => (elementModelValues elems).map (Except.map .sexp)
    | some (some "Struct") => (structClauseFields elems).map (Except.map .struct)
    | some (some "Blob") => (parseBytesExp elems).map (Except.map .blob)
    | some (some "Clob") => (parseBytesExp elems).map (Except.map .clob)
    | some (some "annot") =>
      match elems with
      | [] => (tryCollect (symbolTokenOf readers) []).map (annotOf (.error .expectedModelValue))
      | value :: annots =>
        match elementModelValue value with
        | none => none
        | some value => (tryCollect (symbolTokenOf readers) annots).map (annotOf value)
    | some (some _) => none

end

/-! ## The clauses of the DSL's grammar -/

def ionTypeName : IonType → String
  | .null => "null"
  | .bool => "bool"
  | .int => "int"
  | .float => "float"
  | .decimal => "decimal"
  | .timestamp => "timestamp"
  | .string => "string"
  | .symbol => "symbol"
  | .list => "list"
  | .sexp => "sexp"
  | .struct => "struct"
  | .blob => "blob"
  | .clob => "clob"

def symbolElement (text : String) : Element Decimal Timestamp :=
  .symbol ⟨some text⟩

/-- A symbol token as the grammar writes it: its text as a string, its address as an integer.  An
absent symbol's clause is read by `Clause::try_from`, and has none here. -/
def SymbolToken.toClause : SymbolToken → Option (Element Decimal Timestamp)
  | .text name => some (.string name)
  | .address sid => if sid < 2 ^ 64 then some (.int sid) else none
  | .absent _ _ => none

mutual

/-- A value's clause as the grammar writes it.  Floats, decimals and timestamps, whose clauses
`str::parse`, `Decimal::new` and the `Timestamp` builder read, have none here. -/
def ModelValue.toClause : ModelValue Decimal Timestamp → Option (Element Decimal Timestamp)
  | .null ionType => some (.sexp [symbolElement "Null", symbolElement (ionTypeName ionType)])
  | .bool value => some (.sexp [symbolElement "Bool", .bool value])
  | .int value => some (.sexp [symbolElement "Int", .int value])
  | .float _ | .decimal _ | .timestamp _ => none
  | .string value => some (.sexp [symbolElement "String", .string value])
  | .symbol token => token.toClause.map fun clause => .sexp [symbolElement "Symbol", clause]
  | .list values => (ModelValue.toClauses values).map (.sexp <| symbolElement "List" :: ·)
  | .sexp values => (ModelValue.toClauses values).map (.sexp <| symbolElement "Sexp" :: ·)
  | .struct fields => (ModelValue.fieldClauses fields).map (.sexp <| symbolElement "Struct" :: ·)
  | .blob bytes => some (.sexp (symbolElement "Blob" :: bytes.map fun byte => .int byte.toNat))
  | .clob bytes => some (.sexp (symbolElement "Clob" :: bytes.map fun byte => .int byte.toNat))
  | .annot value annotations => do
    let clause ← ModelValue.toClause value
    let annotations ← annotations.mapM SymbolToken.toClause
    pure (.sexp (symbolElement "annot" :: clause :: annotations))

def ModelValue.toClauses : List (ModelValue Decimal Timestamp) →
    Option (List (Element Decimal Timestamp))
  | [] => some []
  | value :: values => do
    let clause ← ModelValue.toClause value
    let clauses ← ModelValue.toClauses values
    pure (clause :: clauses)

def ModelValue.fieldClauses : List (SymbolToken × ModelValue Decimal Timestamp) →
    Option (List (Element Decimal Timestamp))
  | [] => some []
  | (name, value) :: fields => do
    let nameClause ← name.toClause
    let clause ← ModelValue.toClause value
    let clauses ← ModelValue.fieldClauses fields
    pure (.sexp [nameClause, clause] :: clauses)

end

mutual

/-- The texts of a value's `String`s, which `parse_text_exp` reads back through
`from_utf8_unchecked`. -/
def ModelValue.strings : ModelValue Decimal Timestamp → List String
  | .string value => [value]
  | .list values | .sexp values => ModelValue.listStrings values
  | .struct fields => ModelValue.fieldStrings fields
  | .annot value _ => ModelValue.strings value
  | _ => []

def ModelValue.listStrings : List (ModelValue Decimal Timestamp) → List String
  | [] => []
  | value :: values => ModelValue.strings value ++ ModelValue.listStrings values

def ModelValue.fieldStrings : List (SymbolToken × ModelValue Decimal Timestamp) → List String
  | [] => []
  | (_, value) :: fields => ModelValue.strings value ++ ModelValue.fieldStrings fields

end

/-! ## Each clause reads back as its value -/

theorem sequenceModelValue_list (elems : List (Element Decimal Timestamp)) :
    sequenceModelValue readers (symbolElement "List" :: elems) =
      (elementModelValues readers elems).map (Except.map .list) := rfl

theorem sequenceModelValue_sexp (elems : List (Element Decimal Timestamp)) :
    sequenceModelValue readers (symbolElement "Sexp" :: elems) =
      (elementModelValues readers elems).map (Except.map .sexp) := rfl

theorem sequenceModelValue_struct (elems : List (Element Decimal Timestamp)) :
    sequenceModelValue readers (symbolElement "Struct" :: elems) =
      (structClauseFields readers elems).map (Except.map .struct) := rfl

theorem sequenceModelValue_blob (elems : List (Element Decimal Timestamp)) :
    sequenceModelValue readers (symbolElement "Blob" :: elems) =
      (parseBytesExp elems).map (Except.map .blob) := rfl

theorem sequenceModelValue_clob (elems : List (Element Decimal Timestamp)) :
    sequenceModelValue readers (symbolElement "Clob" :: elems) =
      (parseBytesExp elems).map (Except.map .clob) := rfl

theorem sequenceModelValue_annot (value : Element Decimal Timestamp)
    (annots : List (Element Decimal Timestamp)) :
    sequenceModelValue readers (symbolElement "annot" :: value :: annots) =
      (elementModelValue readers value).bind fun value =>
        (tryCollect (symbolTokenOf readers) annots).map (annotOf value) := by
  show (match elementModelValue readers value with
    | none => none
    | some value => (tryCollect (symbolTokenOf readers) annots).map (annotOf value)) = _
  cases elementModelValue readers value <;> rfl

theorem symbolTokenOf_toClause {token : SymbolToken} {clause : Element Decimal Timestamp}
    (h : token.toClause = some clause) : symbolTokenOf readers clause = some (.ok token) := by
  cases token with
  | text name => cases h; rfl
  | address sid =>
    by_cases hsid : sid < 2 ^ 64
    · simp only [SymbolToken.toClause, if_pos hsid, Option.some.injEq] at h
      subst h
      simp only [symbolTokenOf, Element.ionType, Element.asUsize, Int.natCast_nonneg, true_and,
        show (sid : Int) < 2 ^ 64 by omega, if_true, Int.toNat_ofNat, Option.map_some']
    · simp only [SymbolToken.toClause, if_neg hsid] at h
      cases h
  | absent => cases h

theorem symbolValueOf_eq_symbolTokenOf {elem : Element Decimal Timestamp}
    (h : elem.ionType ≠ .symbol) : symbolValueOf readers elem = symbolTokenOf readers elem := by
  unfold symbolValueOf symbolTokenOf
  split <;> simp_all

theorem tryCollect_symbolTokenOf {annotations : List SymbolToken}
    {clauses : List (Element Decimal Timestamp)}
    (h : annotations.mapM SymbolToken.toClause = some clauses) :
    tryCollect (symbolTokenOf readers) clauses = some (.ok annotations) := by
  induction annotations generalizing clauses with
  | nil => cases h; rfl
  | cons token annotations ih =>
    simp only [List.mapM_cons, Option.bind_eq_bind, Option.bind_eq_some, Option.pure_def,
      Option.some.injEq] at h
    obtain ⟨clause, hclause, rest, hrest, rfl⟩ := h
    rw [tryCollect_cons_ok _ _ (symbolTokenOf_toClause readers hclause), ih hrest]
    rfl

theorem asU8_toNat (byte : UInt8) : asU8 (byte.toNat : Int) = byte := by
  have hlt : byte.toNat < 256 := byte.toNat_lt_size
  rw [asU8, Int.emod_eq_of_lt (Int.ofNat_nonneg _) (by omega), Int.toNat_ofNat]
  exact UInt8.eq_of_toBitVec_eq (by simp [UInt8.ofNat, UInt8.toNat])

theorem elementBytes_int {i : Int} (h : 0 ≤ i ∧ i ≤ 255) :
    elementBytes (.int i : Element Decimal Timestamp) = some (.ok [asU8 i]) := by
  have hfits : fitsI64 i = true := by simp [fitsI64]; omega
  simp [elementBytes, Element.ionType, Element.asI64, hfits, h]

theorem elementBytes_ofByte (byte : UInt8) :
    elementBytes (.int byte.toNat : Element Decimal Timestamp) = some (.ok [byte]) := by
  have hlt : byte.toNat < 256 := byte.toNat_lt_size
  rw [elementBytes_int (by omega), asU8_toNat]

/-- A blob's or a clob's bytes, written as integers, are read back by `parse_bytes_exp`. -/
theorem parseBytesExp_ofBytes (bytes : List UInt8) :
    parseBytesExp (bytes.map fun byte => (.int byte.toNat : Element Decimal Timestamp)) =
      some (.ok bytes) := by
  induction bytes with
  | nil => rfl
  | cons byte bytes ih =>
    rw [List.map_cons, parseBytesExp, elementBytes_ofByte, ih]
    rfl

theorem sequenceModelValue_symbol (value : Element Decimal Timestamp)
    (elems : List (Element Decimal Timestamp)) :
    sequenceModelValue readers (symbolElement "Symbol" :: value :: elems) =
      (symbolValueOf readers value).map (Except.map .symbol) := rfl

theorem sequenceModelValue_string (text : String) :
    sequenceModelValue readers [symbolElement "String", .string text] =
      some (.ok (.string (readers.fromUtf8Unchecked (utf8Bytes text)))) := by
  show (parseText readers [.string text]).map (Except.map ModelValue.string) = _
  simp [parseText, parseTextExp, tryCollect, textBytes, Element.ionType, Element.asString,
    Except.map]

theorem sequenceModelValue_null (ionType : IonType) :
    sequenceModelValue readers [symbolElement "Null", symbolElement (ionTypeName ionType)] =
      some (.ok (.null ionType)) := by
  cases ionType <;> rfl

/-! The round trip, by induction on the value: a value's clause, the clauses of a list's values,
and those of a struct's fields. -/

mutual

theorem readBack_toClause : ∀ (value : ModelValue Decimal Timestamp)
    (clause : Element Decimal Timestamp), value.toClause = some clause →
    (∀ s ∈ value.strings, readers.fromUtf8Unchecked (utf8Bytes s) = s) →
    elementModelValue readers clause = some (.ok value)
  | .null ionType, _, rfl, _ => sequenceModelValue_null readers ionType
  | .bool _, _, rfl, _ => rfl
  | .int _, _, rfl, _ => rfl
  | .string text, _, rfl, hstrings => by
    have htext := hstrings text (List.mem_singleton_self text)
    show sequenceModelValue readers _ = _
    rw [sequenceModelValue_string, htext]
  | .symbol token, clause, h, _ => by
    obtain ⟨tokenClause, htoken, rfl⟩ := Option.map_eq_some'.mp h
    have hnotSymbol : tokenClause.ionType ≠ .symbol := by
      cases token <;> simp [SymbolToken.toClause] at htoken <;>
        (try obtain ⟨-, rfl⟩ := htoken) <;> simp [Element.ionType]
    show sequenceModelValue readers _ = _
    rw [sequenceModelValue_symbol, symbolValueOf_eq_symbolTokenOf readers hnotSymbol,
      symbolTokenOf_toClause readers htoken]
    rfl
  | .list values, clause, h, hstrings => by
    obtain ⟨clauses, hclauses, rfl⟩ := Option.map_eq_some'.mp h
    show sequenceModelValue readers _ = _
    rw [sequenceModelValue_list, readBack_toClauses values clauses hclauses hstrings]
    rfl
  | .sexp values, clause, h, hstrings => by
    obtain ⟨clauses, hclauses, rfl⟩ := Option.map_eq_some'.mp h
    show sequenceModelValue readers _ = _
    rw [sequenceModelValue_sexp, readBack_toClauses values clauses hclauses hstrings]
    rfl
  | .struct fields, clause, h, hstrings => by
    obtain ⟨clauses, hclauses, rfl⟩ := Option.map_eq_some'.mp h
    show sequenceModelValue readers _ = _
    rw [sequenceModelValue_struct,
      readBack_fieldClauses fields clauses hclauses hstrings]
    rfl
  | .blob bytes, _, rfl, _ => by
    show sequenceModelValue readers _ = _
    rw [sequenceModelValue_blob, parseBytesExp_ofBytes]
    rfl
  | .clob bytes, _, rfl, _ => by
    show sequenceModelValue readers _ = _
    rw [sequenceModelValue_clob, parseBytesExp_ofBytes]
    rfl
  | .annot value annotations, clause, h, hstrings => by
    simp only [ModelValue.toClause, Option.bind_eq_bind, Option.bind_eq_some, Option.pure_def,
      Option.some.injEq] at h
    obtain ⟨valueClause, hvalue, annotationClauses, hannotations, rfl⟩ := h
    show sequenceModelValue readers _ = _
    rw [sequenceModelValue_annot,
      readBack_toClause value valueClause hvalue hstrings,
      tryCollect_symbolTokenOf readers hannotations]
    rfl
  | .float _, _, h, _ | .decimal _, _, h, _ | .timestamp _, _, h, _ => by cases h

theorem readBack_toClauses : ∀ (values : List (ModelValue Decimal Timestamp))
    (clauses : List (Element Decimal Timestamp)), ModelValue.toClauses values = some clauses →
    (∀ s ∈ ModelValue.listStrings values, readers.fromUtf8Unchecked (utf8Bytes s) = s) →
    elementModelValues readers clauses = some (.ok values)
  | [], _, rfl, _ => rfl
  | value :: values, clauses, h, hstrings => by
    simp only [ModelValue.toClauses, Option.bind_eq_bind, Option.bind_eq_some, Option.pure_def,
      Option.some.injEq] at h
    obtain ⟨clause, hclause, rest, hrest, rfl⟩ := h
    have hvalue := readBack_toClause value clause hclause fun s hs =>
      hstrings s (List.mem_append_left _ hs)
    have hvalues := readBack_toClauses values rest hrest fun s hs =>
      hstrings s (List.mem_append_right _ hs)
    simp only [elementModelValues, hvalue, hvalues]
    rfl

theorem readBack_fieldClauses :
    ∀ (fields : List (SymbolToken × ModelValue Decimal Timestamp))
    (clauses : List (Element Decimal Timestamp)), ModelValue.fieldClauses fields = some clauses →
    (∀ s ∈ ModelValue.fieldStrings fields, readers.fromUtf8Unchecked (utf8Bytes s) = s) →
    structClauseFields readers clauses = some (.ok fields)
  | [], _, rfl, _ => rfl
  | (name, value) :: fields, clauses, h, hstrings => by
    simp only [ModelValue.fieldClauses, Option.bind_eq_bind, Option.bind_eq_some,
      Option.pure_def, Option.some.injEq] at h
    obtain ⟨nameClause, hname, clause, hclause, rest, hrest, rfl⟩ := h
    have hvalue := readBack_toClause value clause hclause fun s hs =>
      hstrings s (List.mem_append_left _ hs)
    have hfields := readBack_fieldClauses fields rest hrest fun s hs =>
      hstrings s (List.mem_append_right _ hs)
    rw [structClauseFields]
    simp only [symbolTokenOf_toClause readers hname, hvalue, hfields]
    rfl

end

/-- The clause of every value without floats, decimals, timestamps or absent symbols reads back
as that value, given a `from_utf8_unchecked` that reads back the bytes of each of its
strings. -/
theorem elementModelValue_toClause (value : ModelValue Decimal Timestamp)
    (clause : Element Decimal Timestamp) (hclause : value.toClause = some clause)
    (hstrings : ∀ s ∈ value.strings, readers.fromUtf8Unchecked (utf8Bytes s) = s) :
    elementModelValue readers clause = some (.ok value) :=
  readBack_toClause readers value clause hclause hstrings

end Readers

/-- A list of a string, a symbol and an integer, with a `from_utf8_unchecked` that reads every
byte string as the list's one string. -/
theorem elementModelValue_toClause_listOfThree :
    elementModelValue (⟨fun _ => .error .expectedClause, fun _ => none, fun _ _ => (),
        fun _ => .ok (), fun _ => "a"⟩ : ClauseReaders Unit Unit)
        (.sexp [symbolElement "List", .sexp [symbolElement "String", .string "a"],
          .sexp [symbolElement "Symbol", .string "b"], .sexp [symbolElement "Int", .int 1]]) =
      some (.ok (.list [.string "a", .symbol (.text "b"), .int 1])) :=
  elementModelValue_toClause _ _ _ rfl (by decide)

end IonRust
