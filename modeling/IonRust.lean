import IonRust.PullLoop
import IonRust.Element
import IonRust.Expanded.Value
import IonRust.Expanded.Evaluator
import IonRust.Expanded.Struct
import IonRust.Expanded.Termination
import IonRust.Expanded.MakeStruct
import IonRust.Expanded.Inlining
import IonRust.Expanded.Template
import IonRust.Expanded.Invariant
import IonRust.Expanded.Find
import IonRust.Binary.Sequence
import IonRust.Binary.StructWriter
import IonRust.Binary.ContainerWriters
import IonRust.Text.MacroId
import IonRust.Serde.Ser
import IonRust.Conformance.Expressions
import IonRust.Conformance.Model
import IonRust.Conformance.Parse
import IonRust.Conformance.TimestampClause
import IonRust.Conformance.AbsentSymbol
import IonRust.Conformance.Document
import IonRust.Text.CacheIterators
import IonRust.Lazy.ValueRef
