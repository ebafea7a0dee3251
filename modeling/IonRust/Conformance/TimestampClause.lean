import IonRust.Conformance.Parse

/-!
# Timestamp clauses

A `(Timestamp ...)` clause of the DSL names its precision, then lists the fields that precision
has: the year, month and day, and from `minute` on an `(offset ...)` clause, the hour and minute,
the second, and for `fraction` the fraction's coefficient and exponent.  `TimestampClause` is that
grammar, `toElements` writes a clause's elements after `Timestamp`, and `fields` are the values
the clause gives the `Timestamp` builder.

`parse_timestamp` reads an `i64` for each field and casts it with `as u32`, and the offset with
`as i32`.  Within the ranges of those types the casts change nothing, and `parse_timestamp` reads
every clause of the grammar as a build of exactly its fields; outside them a field wraps round
silently.
-/

namespace IonRust

/-- A timestamp clause of the DSL's grammar, by precision. -/
inductive TimestampClause where
  | year (year : Nat)
  | month (year month : Nat)
  | day (year month day : Nat)
  | minute (year month day : Nat) (offset : Option Int) (hour minute : Nat)
  | second (year month day : Nat) (offset : Option Int) (hour minute second : Nat)
  | fraction (year month day : Nat) (offset : Option Int) (hour minute second : Nat)
      (coefficient : Coefficient) (exponent : Int)
  deriving DecidableEq, Repr

/-- A coefficient as the grammar writes it: `"negative_0"` or the integer. -/
def Coefficient.toElement {Decimal Timestamp : Type} : Coefficient → Element Decimal Timestamp
  | .negativeZero => .string "negative_0"
  | .value coefficient => .int coefficient

/-- `(offset null)` for an unknown offset, `(offset n)` for one of `n` minutes. -/
def offsetClause {Decimal Timestamp : Type} (offset : Option Int) : Element Decimal Timestamp :=
  .sexp [symbolElement "offset", offset.elim (.null .null) .int]

namespace TimestampClause

variable {Decimal Timestamp : Type}

/-- The elements of the clause after `Timestamp`. -/
def toElements : TimestampClause → List (Element Decimal Timestamp)
  | .year y => [symbolElement "year", .int y]
  | .month y m => [symbolElement "month", .int y, .int m]
  | .day y m d => [symbolElement "day", .int y, .int m, .int d]
  | .minute y m d o h mi =>
    [symbolElement "minute", .int y, .int m, .int d, offsetClause o, .int h, .int mi]
  | .second y m d o h mi s =>
    [symbolElement "second", .int y, .int m, .int d, offsetClause o, .int h, .int mi, .int s]
  | .fraction y m d o h mi s c e =>
    [symbolElement "fraction", .int y, .int m, .int d, offsetClause o, .int h, .int mi, .int s,
      c.toElement, .int e]

/-- The values the clause gives the `Timestamp` builder, with `Decimal::new` for the fraction. -/
def fields (decimal : Coefficient → Int → Decimal) : TimestampClause → TimestampFields Decimal
  | .year y => ⟨y, none, none, none, none, none, none⟩
  | .month y m => ⟨y, some m, none, none, none, none, none⟩
  | .day y m d => ⟨y, some m, some d, none, none, none, none⟩
  | .minute y m d o h mi => ⟨y, some m, some d, some (h, mi), none, none, o⟩
  | .second y m d o h mi s => ⟨y, some m, some d, some (h, mi), some s, none, o⟩
  | .fraction y m d o h mi s c e => ⟨y, some m, some d, some (h, mi), some s, some (decimal c e), o⟩

end TimestampClause

/-- A `u32`. -/
def FitsU32 (n : Nat) : Prop := n < 2 ^ 32

/-- An `i32`, or no value. -/
def FitsI32 (offset : Option Int) : Prop := ∀ o ∈ offset, -2 ^ 31 ≤ o ∧ o < 2 ^ 31

/-- A coefficient and an exponent that `as_i64` reads. -/
def FitsDecimal (coefficient : Coefficient) (exponent : Int) : Prop :=
  (∀ c, coefficient = .value c → fitsI64 c = true) ∧ fitsI64 exponent = true

/-- Every field of the clause is within the type the code casts it to. -/
def TimestampClause.InRange : TimestampClause → Prop
  | .year y => FitsU32 y
  | .month y m => FitsU32 y ∧ FitsU32 m
  | .day y m d => FitsU32 y ∧ FitsU32 m ∧ FitsU32 d
  | .minute y m d o h mi => FitsU32 y ∧ FitsU32 m ∧ FitsU32 d ∧ FitsI32 o ∧ FitsU32 h ∧ FitsU32 mi
  | .second y m d o h mi s =>
    FitsU32 y ∧ FitsU32 m ∧ FitsU32 d ∧ FitsI32 o ∧ FitsU32 h ∧ FitsU32 mi ∧ FitsU32 s
  | .fraction y m d o h mi s c e =>
    FitsU32 y ∧ FitsU32 m ∧ FitsU32 d ∧ FitsI32 o ∧ FitsU32 h ∧ FitsU32 mi ∧ FitsU32 s ∧
      FitsDecimal c e

theorem asU32_of_fitsU32 {n : Nat} (h : FitsU32 n) : asU32 n = n := by
  unfold FitsU32 at h
  simp only [asU32]
  omega

theorem asSymbol_symbolElement {Decimal Timestamp : Type} (name : String) :
    (symbolElement name : Element Decimal Timestamp).asSymbol = some ⟨some name⟩ := rfl

theorem asI32_of_fitsI32 {o : Int} (h : -2 ^ 31 ≤ o ∧ o < 2 ^ 31) : asI32 o = o := by
  unfold asI32
  split <;> omega

theorem map_asI32_of_fitsI32 {offset : Option Int} (h : FitsI32 offset) :
    offset.map asI32 = offset := by
  cases offset with
  | none => rfl
  | some o => exact congrArg some (asI32_of_fitsI32 (h o rfl))

theorem fitsI64_of_fitsU32 {n : Nat} (h : FitsU32 n) : fitsI64 n = true := by
  unfold FitsU32 at h
  simp only [fitsI64, Bool.and_eq_true, decide_eq_true_eq]
  omega

@[simp] theorem except_ok_bind {ε α β : Type} (a : α) (f : α → Except ε β) :
    (Except.ok a >>= f) = f a := rfl

@[simp] theorem except_map_ok {ε α β : Type} (a : α) (f : α → β) :
    (Except.ok a : Except ε α).map f = .ok (f a) := rfl

section Readers

variable {Decimal Timestamp : Type} (readers : ClauseReaders Decimal Timestamp)

theorem takeI64_int {value : Int} (h : fitsI64 value = true)
    (elems : List (Element Decimal Timestamp)) :
    takeI64 (.int value :: elems) = .ok (value, elems) := by
  simp [takeI64, Element.asI64, h]

/-- A field read by `as_i64` is the field itself, and the code goes on with the elements after
it. -/
theorem takeI64_bind {β : Type} {n : Nat} (h : FitsU32 n) (elems : List (Element Decimal Timestamp))
    (f : Int × List (Element Decimal Timestamp) → Except ConformanceErrorKind β) :
    (takeI64 (.int n :: elems) >>= f) = f (n, elems) := by
  rw [takeI64_int (fitsI64_of_fitsU32 h)]
  rfl

theorem takeI64_map {β : Type} {n : Nat} (h : FitsU32 n) (elems : List (Element Decimal Timestamp))
    (f : Int × List (Element Decimal Timestamp) → β) :
    (takeI64 (.int n :: elems)).map f = .ok (f (n, elems)) := by
  rw [takeI64_int (fitsI64_of_fitsU32 h)]
  rfl

theorem parseTsOffset_offsetClause {offset : Option Int} (h : FitsI32 offset) :
    parseTsOffset [(symbolElement "offset" : Element Decimal Timestamp),
      offset.elim (.null .null) .int] = .ok offset := by
  cases offset with
  | none => rfl
  | some o =>
    have hfits : fitsI64 o = true := by
      have := h o rfl
      simp only [fitsI64, Bool.and_eq_true, decide_eq_true_eq]
      omega
    simp [parseTsOffset, symbolElement, Element.asSymbol, Element.isNull, Element.asI64, hfits]

theorem parseModelDecimal_toElement {coefficient : Coefficient} {exponent : Int}
    (h : FitsDecimal coefficient exponent) (elems : List (Element Decimal Timestamp)) :
    parseModelDecimal readers (coefficient.toElement :: .int exponent :: elems) =
      .ok (readers.decimal coefficient exponent) := by
  obtain ⟨hcoefficient, hexponent⟩ := h
  cases coefficient with
  | negativeZero =>
    simp [parseModelDecimal, Coefficient.toElement, Element.ionType, Element.asString,
      Element.asI64, hexponent]
  | value c =>
    simp [parseModelDecimal, Coefficient.toElement, Element.ionType, Element.asI64,
      hexponent, hcoefficient c rfl]

theorem parseTimestamp_toElements (clause : TimestampClause) (hrange : clause.InRange) :
    parseTimestamp readers clause.toElements =
      buildTimestamp readers (clause.fields readers.decimal) := by
  cases clause <;> revert hrange <;> simp only [TimestampClause.InRange, and_imp] <;> intros <;>
    simp (disch := assumption) only [TimestampClause.toElements, parseTimestamp,
      asSymbol_symbolElement, Option.bind, takeI64_bind, parseTimeOfDay, offsetClause,
      Element.asSequence, except_ok_bind, parseTsOffset_offsetClause, takeI64_map,
      parseModelDecimal_toElement, except_map_ok, Option.map_some', Option.map_none',
      asU32_of_fitsU32, map_asI32_of_fitsI32, Bool.false_eq_true, if_false, if_true,
      TimestampClause.fields]

end Readers

/-- The clause `(Timestamp fraction 2023 3 23 (offset 0) 10 12 21 23 -2)` of the DSL's own tests,
with readers that record the calls made on `Decimal::new` and the builder. -/
theorem parseTimestamp_toElements_fraction :
    (TimestampClause.fraction 2023 3 23 (some 0) 10 12 21 (.value 23) (-2)).InRange ∧
      parseTimestamp (⟨fun _ => .error .expectedClause, fun _ => none, Prod.mk, .ok, fun _ => ""⟩ :
          ClauseReaders (Coefficient × Int) (TimestampFields (Coefficient × Int)))
        (TimestampClause.fraction 2023 3 23 (some 0) 10 12 21 (.value 23) (-2)).toElements =
        .ok ⟨2023, some 3, some 23, some (10, 12), some 21, some (.value 23, -2), some 0⟩ :=
  have hrange :
      (TimestampClause.fraction 2023 3 23 (some 0) 10 12 21 (.value 23) (-2)).InRange := by
    simp [TimestampClause.InRange, FitsU32, FitsI32, FitsDecimal, fitsI64]
  ⟨hrange, (parseTimestamp_toElements _ _ hrange).trans rfl⟩

end IonRust
