import IonRust.PullLoop

/-!
# Values of the Ion data model

The types here are declared in `ion_rs`, outside src/, and used by the code that is: `IonType`,
the symbol references a writer encodes and a reader matches (`RawSymbolRef`, `SymbolRef`), and
`Element`, an owned value, which the conformance DSL reads its clauses as.  Each is given as the
Ion data model has it, with the accessors that code calls.  The payloads of decimals and
timestamps are only ever compared with `==`, so they are type parameters.
-/

namespace IonRust

/-- `IonType`. -/
inductive IonType where
  | null | bool | int | float | decimal | timestamp | symbol | string | clob | blob | list | sexp
  | struct
  deriving DecidableEq, Repr

/-- `RawSymbolRef`: a symbol ID, or inline text. -/
inductive RawSymbolRef where
  | symbolId (sid : Nat)
  | text (text : String)
  deriving DecidableEq, Repr

/-- `SymbolRef`: a resolved symbol, with its text when the text is known.  Two are equal, and
one equals a string, when their texts are. -/
structure SymbolRef where
  text : Option String
  deriving DecidableEq, Repr

/-- `Element`, without its annotations, which no modelled function reads: a typed null, a
scalar, or a container. -/
inductive Element (Decimal Timestamp : Type) where
  | null (ionType : IonType)
  | bool (value : Bool)
  | int (value : Int)
  | float (value : Float)
  | decimal (value : Decimal)
  | timestamp (value : Timestamp)
  | symbol (value : SymbolRef)
  | string (value : String)
  | clob (bytes : List UInt8)
  | blob (bytes : List UInt8)
  | list (elements : List (Element Decimal Timestamp))
  | sexp (elements : List (Element Decimal Timestamp))
  | struct (fields : List (SymbolRef × Element Decimal Timestamp))

/-- `i64::MIN ..= i64::MAX`. -/
def fitsI64 (value : Int) : Bool :=
  -2 ^ 63 ≤ value && value < 2 ^ 63

namespace Element

variable {Decimal Timestamp : Type}

def ionType : Element Decimal Timestamp → IonType
  | .null ionType => ionType
  | .bool _ => .bool
  | .int _ => .int
  | .float _ => .float
  | .decimal _ => .decimal
  | .timestamp _ => .timestamp
  | .symbol _ => .symbol
  | .string _ => .string
  | .clob _ => .clob
  | .blob _ => .blob
  | .list _ => .list
  | .sexp _ => .sexp
  | .struct _ => .struct

def isNull : Element Decimal Timestamp → Bool
  | .null _ => true
  | _ => false

def asBool : Element Decimal Timestamp → Option Bool
  | .bool value => some value
  | _ => none

def asInt : Element Decimal Timestamp → Option Int
  | .int value => some value
  | _ => none

/-- `as_i64`: an integer that fits in an `i64`. -/
def asI64 : Element Decimal Timestamp → Option Int
  | .int value => if fitsI64 value then some value else none
  | _ => none

def asFloat : Element Decimal Timestamp → Option Float
  | .float value => some value
  | _ => none

def asDecimal : Element Decimal Timestamp → Option Decimal
  | .decimal value => some value
  | _ => none

def asTimestamp : Element Decimal Timestamp → Option Timestamp
  | .timestamp value => some value
  | _ => none

def asString : Element Decimal Timestamp → Option String
  | .string value => some value
  | _ => none

def asClob : Element Decimal Timestamp → Option (List UInt8)
  | .clob bytes => some bytes
  | _ => none

def asBlob : Element Decimal Timestamp → Option (List UInt8)
  | .blob bytes => some bytes
  | _ => none

def asSymbol : Element Decimal Timestamp → Option SymbolRef
  | .symbol value => some value
  | _ => none

/-- `as_usize`: an integer in `0 ..= usize::MAX`, on a 64-bit target. -/
def asUsize : Element Decimal Timestamp → Option Nat
  | .int value => if 0 ≤ value ∧ value < 2 ^ 64 then some value.toNat else none
  | _ => none

/-- `as_sequence`: the elements of a list or an s-expression. -/
def asSequence : Element Decimal Timestamp → Option (List (Element Decimal Timestamp))
  | .list elements => some elements
  | .sexp elements => some elements
  | _ => none

/-- `as_struct`: the fields of a struct. -/
def asStruct : Element Decimal Timestamp → Option (List (SymbolRef × Element Decimal Timestamp))
  | .struct fields => some fields
  | _ => none

end Element

end IonRust
