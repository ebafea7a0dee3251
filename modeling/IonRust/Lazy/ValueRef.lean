import IonRust.Element

/-!
# Raw and resolved value references

`RawValueRef` is a value as the encoding has it: a symbol is a symbol ID or inline text, and a
container is the decoder's own.  `ValueRef` is the value once `RawValueRef::resolve` has resolved
its symbol in the encoding context and put a lazy container over a raw one.  The two enums have
the same thirteen variants, here one inductive over the symbol and container types of the level.
Each has an `expect_*` accessor per variant, of one shape, `expectVariant`: the payload of that
variant, or a decoding error; only the texts of the errors differ between the levels.
-/

namespace IonRust.Lazy

/-- The variants of `RawValueRef` and `ValueRef`, over the symbol type and the container handles
of the level.  An `Int` is Ion's integer of any size, a `StrRef` its text and a `BytesRef` its
bytes. -/
inductive ValueRefOf (Decimal Timestamp Symbol SExpRef ListRef StructRef : Type) where
  | null (ionType : IonType)
  | bool (value : Bool)
  | int (value : Int)
  | float (value : Float)
  | decimal (value : Decimal)
  | timestamp (value : Timestamp)
  | string (text : String)
  | symbol (symbol : Symbol)
  | blob (bytes : List UInt8)
  | clob (bytes : List UInt8)
  | sexp (sexp : SExpRef)
  | list (list : ListRef)
  | struct (struct : StructRef)

/-- `RawValueRef`: a symbol as a `RawSymbolRef`, and the decoder's `SExp`, `List` and `Struct`. -/
abbrev RawValueRef (Decimal Timestamp RawSExp RawList RawStruct : Type) :=
  ValueRefOf Decimal Timestamp RawSymbolRef RawSExp RawList RawStruct

/-- `ValueRef`: a symbol as a `SymbolRef`, and `LazySExp`, `LazyList` and `LazyStruct`. -/
abbrev ValueRef (Decimal Timestamp LazySExp LazyList LazyStruct : Type) :=
  ValueRefOf Decimal Timestamp SymbolRef LazySExp LazyList LazyStruct

/-- The texts that the `Debug` impls print through impls outside src/: the `Display` of an Ion
type, an `Int`, an `f64`, a `Decimal` and a `Timestamp`, and the `Debug` of a container of the
level. -/
structure DebugText (Decimal Timestamp SExpRef ListRef StructRef : Type) where
  ionType : IonType → String
  int : Int → String
  float : Float → String
  decimal : Decimal → String
  timestamp : Timestamp → String
  sexp : SExpRef → String
  list : ListRef → String
  struct : StructRef → String

namespace ValueRefOf

variable {Decimal Timestamp Symbol SExpRef ListRef StructRef : Type}
  (value : ValueRefOf Decimal Timestamp Symbol SExpRef ListRef StructRef)

/-! The payload that each accessor's `if let` binds. -/

def asNull : Option IonType := match value with | .null ionType => some ionType | _ => none
def asBool : Option Bool := match value with | .bool b => some b | _ => none
def asInt : Option Int := match value with | .int i => some i | _ => none
def asFloat : Option Float := match value with | .float f => some f | _ => none
def asDecimal : Option Decimal := match value with | .decimal d => some d | _ => none
def asTimestamp : Option Timestamp := match value with | .timestamp t => some t | _ => none
def asString : Option String := match value with | .string s => some s | _ => none
def asSymbol : Option Symbol := match value with | .symbol s => some s | _ => none
def asBlob : Option (List UInt8) := match value with | .blob b => some b | _ => none
def asClob : Option (List UInt8) := match value with | .clob c => some c | _ => none
def asSExp : Option SExpRef := match value with | .sexp s => some s | _ => none
def asList : Option ListRef := match value with | .list l => some l | _ => none
def asStruct : Option StructRef := match value with | .struct s => some s | _ => none

def asLob : Option (List UInt8) := match value with | .blob b | .clob b => some b | _ => none

/-- The `Debug` impl of either level, with its symbol arm `symbol`. -/
def debug (text : DebugText Decimal Timestamp SExpRef ListRef StructRef)
    (symbol : Symbol → String) : String := match value with
  | .null ionType => "null." ++ text.ionType ionType
  | .bool b => toString b
  | .int i => text.int i
  | .float f => text.float f
  | .decimal d => text.decimal d
  | .timestamp t => text.timestamp t
  | .string s => s
  | .symbol s => symbol s
  | .blob b => "blob (" ++ toString b.length ++ " bytes)"
  | .clob c => "clob (" ++ toString c.length ++ " bytes)"
  | .sexp s => "sexp=" ++ text.sexp s
  | .list l => text.list l
  | .struct s => text.struct s

/-- The `PartialEq` impl of either level, with its symbol arm `symbolEq`: two scalars of one
variant by their payloads, and two containers never. -/
def beq [BEq Decimal] [BEq Timestamp] (symbolEq : Symbol → Symbol → Bool)
    (other : ValueRefOf Decimal Timestamp Symbol SExpRef ListRef StructRef) : Bool :=
  match value, other with
  | .null t1, .null t2 => t1 == t2
  | .bool b1, .bool b2 => b1 == b2
  | .int i1, .int i2 => i1 == i2
  | .float f1, .float f2 => f1 == f2
  | .decimal d1, .decimal d2 => d1 == d2
  | .timestamp t1, .timestamp t2 => t1 == t2
  | .string s1, .string s2 => s1 == s2
  | .symbol s1, .symbol s2 => symbolEq s1 s2
  | .blob b1, .blob b2 => b1 == b2
  | .clob c1, .clob c2 => c1 == c2
  | _, _ => false

end ValueRefOf

/-- The shape of an `expect_*` accessor: if the value is of the variant, `Ok` its payload, and
otherwise a decoding error with the accessor's message. -/
def expectVariant {V β : Type} (payload : V → Option β) (message : V → String) (value : V) :
    Except IonError β :=
  match payload value with
  | some x => .ok x
  | none => .error (.decodingError (message value))

namespace RawValueRef

variable {Decimal Timestamp RawSExp RawList RawStruct : Type}
  (value : RawValueRef Decimal Timestamp RawSExp RawList RawStruct)
  (text : DebugText Decimal Timestamp RawSExp RawList RawStruct)
  (symbolDebug : RawSymbolRef → String) (toI64 : Int → Except IonError Int)

def debug : String := ValueRefOf.debug value text symbolDebug

def eq [BEq Decimal] [BEq Timestamp]
    (other : RawValueRef Decimal Timestamp RawSExp RawList RawStruct) : Bool :=
  ValueRefOf.beq value (· == ·) other

def expectNull := expectVariant ValueRefOf.asNull (fun _ => "expected a null") value
def expectBool := expectVariant ValueRefOf.asBool (fun _ => "expected a bool") value
def expectInt := expectVariant ValueRefOf.asInt (fun _ => "expected an int") value

def expectI64 : Except IonError Int :=
  expectVariant ValueRefOf.asInt
    (fun value => "expected an i64 (int), found: " ++ debug value text symbolDebug) value >>= toI64

def expectFloat := expectVariant ValueRefOf.asFloat (fun _ => "expected a float") value
def expectDecimal := expectVariant ValueRefOf.asDecimal (fun _ => "expected a decimal") value
def expectTimestamp := expectVariant ValueRefOf.asTimestamp (fun _ => "expected a timestamp") value
def expectString := expectVariant ValueRefOf.asString (fun _ => "expected a string") value
def expectSymbol := expectVariant ValueRefOf.asSymbol (fun _ => "expected a symbol") value
def expectBlob := expectVariant ValueRefOf.asBlob (fun _ => "expected a blob") value
def expectClob := expectVariant ValueRefOf.asClob (fun _ => "expected a clob") value
def expectList := expectVariant ValueRefOf.asList (fun _ => "expected a list") value
def expectSExp := expectVariant ValueRefOf.asSExp (fun _ => "expected a sexp") value

def expectStruct :=
  expectVariant ValueRefOf.asStruct
    (fun value => "expected a struct, found: " ++ debug value text symbolDebug) value

end RawValueRef

namespace ValueRef

variable {Decimal Timestamp LazySExp LazyList LazyStruct : Type}
  (value : ValueRef Decimal Timestamp LazySExp LazyList LazyStruct)
  (text : DebugText Decimal Timestamp LazySExp LazyList LazyStruct)
  (toI64 : Int → Except IonError Int)

def debug : String := ValueRefOf.debug value text fun symbol => symbol.text.getD "$0"

def eq [BEq Decimal] [BEq Timestamp]
    (other : ValueRef Decimal Timestamp LazySExp LazyList LazyStruct) : Bool :=
  ValueRefOf.beq value (· == ·) other

def expectNull := expectVariant ValueRefOf.asNull (fun _ => "expected a null") value
def expectBool := expectVariant ValueRefOf.asBool (fun _ => "expected a bool") value

def expectInt :=
  expectVariant ValueRefOf.asInt
    (fun value => "expected an int but found a(n) " ++ debug value text) value

def expectI64 : Except IonError Int :=
  expectVariant ValueRefOf.asInt
    (fun value => "expected an int (i64) but found a(n) " ++ debug value text) value >>= toI64

def expectFloat := expectVariant ValueRefOf.asFloat (fun _ => "expected a float") value
def expectDecimal := expectVariant ValueRefOf.asDecimal (fun _ => "expected a decimal") value
def expectTimestamp := expectVariant ValueRefOf.asTimestamp (fun _ => "expected a timestamp") value
def expectString := expectVariant ValueRefOf.asString (fun _ => "expected a string") value

def expectSymbol :=
  expectVariant ValueRefOf.asSymbol (fun value => "expected a symbol, found " ++ debug value text)
    value

def expectText : Except IonError String := match value with
  | .string s => .ok s
  | .symbol symbol => match symbol.text with
    | some t => .ok t
    | none => .error (.decodingError "expected text but found a symbol with undefined text")
  | _ => .error (.decodingError "expected a string or symbol")

def expectBlob := expectVariant ValueRefOf.asBlob (fun _ => "expected a blob") value
def expectClob := expectVariant ValueRefOf.asClob (fun _ => "expected a clob") value
def expectLob := expectVariant ValueRefOf.asLob (fun _ => "expected a blob or clob") value
def expectList := expectVariant ValueRefOf.asList (fun _ => "expected a list") value

def expectSExp :=
  expectVariant ValueRefOf.asSExp
    (fun value => "expected an s-expression but found a(n) " ++ debug value text) value

def expectStruct :=
  expectVariant ValueRefOf.asStruct
    (fun value => "expected a struct but found a(n) " ++ debug value text) value

def ionType : IonType := match value with
  | .null ionType => ionType
  | .bool _ => .bool
  | .int _ => .int
  | .float _ => .float
  | .decimal _ => .decimal
  | .timestamp _ => .timestamp
  | .string _ => .string
  | .symbol _ => .symbol
  | .blob _ => .blob
  | .clob _ => .clob
  | .sexp _ => .sexp
  | .list _ => .list
  | .struct _ => .struct

end ValueRef

/-- What `RawValueRef::resolve` calls outside src/: `RawSymbolRef::resolve("a value", context)`,
and the lazy container over a raw one, `LazySExp::from(LazyExpandedSExp::from_literal(context,
s))` and its like for a list and a struct. -/
structure ResolveContext (RawSExp RawList RawStruct LazySExp LazyList LazyStruct : Type) where
  resolveSymbol : RawSymbolRef → Except IonError SymbolRef
  sexp : RawSExp → LazySExp
  list : RawList → LazyList
  struct : RawStruct → LazyStruct

namespace RawValueRef

variable {Decimal Timestamp RawSExp RawList RawStruct LazySExp LazyList LazyStruct : Type}
  (context : ResolveContext RawSExp RawList RawStruct LazySExp LazyList LazyStruct)

/-- `RawValueRef::resolve`. -/
def resolve : RawValueRef Decimal Timestamp RawSExp RawList RawStruct →
    Except IonError (ValueRef Decimal Timestamp LazySExp LazyList LazyStruct)
  | .null ionType => .ok (.null ionType)
  | .bool b => .ok (.bool b)
  | .int i => .ok (.int i)
  | .float f => .ok (.float f)
  | .decimal d => .ok (.decimal d)
  | .timestamp t => .ok (.timestamp t)
  | .string s => .ok (.string s)
  | .symbol s => (context.resolveSymbol s).map .symbol
  | .blob b => .ok (.blob b)
  | .clob c => .ok (.clob c)
  | .sexp s => .ok (.sexp (context.sexp s))
  | .list l => .ok (.list (context.list l))
  | .struct s => .ok (.struct (context.struct s))

end RawValueRef

end IonRust.Lazy
