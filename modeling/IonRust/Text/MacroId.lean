import IonRust.PullLoop

/-!
# Resolving macro ids

A writer names the macro of an e-expression by any `MacroIdLike` value.  That is a
`MacroIdRef` (a local name, a local address, or a system address) or a value that converts into
one, a `QualifiedAddress`, or a `&Macro`.  `resolve` turns the value into a `MacroRef`: a
qualified address and the definition found there.

* The default `resolve` goes through `as_macro_id_ref` and `QualifiedAddress::new`, whose
  `expect` panics on an address beyond `u32`.
* A `QualifiedAddress` looks its address up in its own module.
* A `&Macro` looks its address up in the given table, and fails unless the definition there is
  its own.

`MacroTable`, `Macro`, `MacroRef` and `ION_1_1_SYSTEM_MACROS` are not under src/.  A table is
its two lookups.  A definition is a value of a type with decidable equality, which stands for its
identity as `std::ptr::addr_eq` compares it.  A `Macro` of the system module carries the fact
that its definition is the system table's at its address, as every such handle the library hands
out does.  The system table is a parameter, `systemMacros`, and `specSystemMacros` is the table of
the spec's 24 system macros.  The error texts print ids with `Debug`; for a name that is std's
`Debug` of a `&str`, the parameter `strDebug`.

Every value resolves without a panic, except a default-module address beyond `u32`.  A value that
resolves yields the definition at its address in the module it designates.  A `QualifiedAddress`
and its `as_macro_id_ref()` resolve alike, with different error texts, while the address fits the
`u8` that `as_macro_id_ref` truncates a system address to.
-/

namespace IonRust

structure SystemMacroAddress where
  value : UInt8
  deriving DecidableEq, Repr

def SystemMacroAddress.newUnchecked (address : Nat) : SystemMacroAddress :=
  ⟨UInt8.ofNat address⟩

def SystemMacroAddress.asUsize (address : SystemMacroAddress) : Nat :=
  address.value.toNat

inductive ModuleKind where
  | default
  | system
  deriving DecidableEq, Repr

structure QualifiedAddress where
  module : ModuleKind
  address : UInt32
  deriving DecidableEq, Repr

/-- `QualifiedAddress::new`: `none` where `u32::try_from(address).expect(..)` panics. -/
def QualifiedAddress.new (module : ModuleKind) (address : Nat) : Option QualifiedAddress :=
  if address < 2 ^ 32 then some ⟨module, UInt32.ofNat address⟩ else none

inductive MacroIdRef where
  | localName (name : String)
  | localAddress (address : Nat)
  | systemAddress (address : SystemMacroAddress)
  deriving DecidableEq, Repr

/-- `MacroTable`, by the two lookups resolution makes of it. -/
structure MacroTable (MacroDef : Type) where
  macroAtAddress : Nat → Option MacroDef
  addressForId : MacroIdRef → Option Nat

structure MacroRef (MacroDef : Type) where
  address : QualifiedAddress
  definition : MacroDef
  deriving DecidableEq, Repr

/-- `Macro`, by what resolution reads of it: its name, its qualified address and its
definition.  The library hands out a system-module handle only from `ION_1_1_SYSTEM_MACROS`, so
its definition is the one the system table holds at its address. -/
structure Macro {MacroDef : Type} (systemMacros : MacroTable MacroDef) where
  name : Option String
  qualifiedAddress : QualifiedAddress
  definition : MacroDef
  system_definition : qualifiedAddress.module = .system →
    systemMacros.macroAtAddress qualifiedAddress.address.toNat = some definition

/-- The `MacroIdLike` types: a `MacroIdRef` or a value of a type that converts into one, a
`QualifiedAddress`, or a `&Macro`. -/
inductive MacroIdLike {MacroDef : Type} (systemMacros : MacroTable MacroDef) where
  | idRef (id : MacroIdRef)
  | qualifiedAddress (address : QualifiedAddress)
  | macroHandle (handle : Macro systemMacros)

/-! ### The texts of the errors -/

def ModuleKind.debug : ModuleKind → String
  | .default => "Default"
  | .system => "System"

def QualifiedAddress.debug (qualifiedAddress : QualifiedAddress) : String :=
  "QualifiedAddress \x7b module: " ++ qualifiedAddress.module.debug ++ ", address: " ++
    toString qualifiedAddress.address ++ " \x7d"

def MacroIdRef.debug (strDebug : String → String) : MacroIdRef → String
  | .localName name => "LocalName(" ++ strDebug name ++ ")"
  | .localAddress address => "LocalAddress(" ++ toString address ++ ")"
  | .systemAddress address => "SystemAddress(SystemMacroAddress(" ++ toString address.value ++ "))"

/-! ### Resolution -/

/-- `MacroIdLike::as_macro_id_ref` for `QualifiedAddress`, which truncates a system address to a
byte. -/
def QualifiedAddress.asMacroIdRef (qualifiedAddress : QualifiedAddress) : MacroIdRef :=
  match qualifiedAddress.module with
  | .default => .localAddress qualifiedAddress.address.toNat
  | .system => .systemAddress (.newUnchecked qualifiedAddress.address.toNat)

namespace Macro

variable {MacroDef : Type} {systemMacros : MacroTable MacroDef}

def module (handle : Macro systemMacros) : ModuleKind :=
  handle.qualifiedAddress.module

def address (handle : Macro systemMacros) : Nat :=
  handle.qualifiedAddress.address.toNat

def preferName (handle : Macro systemMacros) : MacroIdRef :=
  match handle.name with
  | some name => .localName name
  | none =>
    if handle.module = .default then .localAddress handle.address
    else .systemAddress (.newUnchecked handle.address)

/-- `MacroIdLike::resolve` for `&Macro`: the definition at its address in the given table must
be its own. -/
def resolve [DecidableEq MacroDef] (table : MacroTable MacroDef) (handle : Macro systemMacros) :
    Except IonError (MacroRef MacroDef) :=
  match table.macroAtAddress handle.address with
  | none => .error (.encodingError "used a Macro that is no longer in the macro table")
  | some actual =>
    if actual ≠ handle.definition then .error (.encodingError "used a stale Macro reference")
    else .ok ⟨handle.qualifiedAddress, actual⟩

theorem resolve_eq_ok_iff [DecidableEq MacroDef] {table : MacroTable MacroDef}
    {handle : Macro systemMacros} {ref : MacroRef MacroDef} :
    handle.resolve table = .ok ref ↔
      table.macroAtAddress handle.address = some handle.definition ∧
        ref = ⟨handle.qualifiedAddress, handle.definition⟩ := by
  unfold resolve
  rcases table.macroAtAddress handle.address with _ | actual
  · simp
  · by_cases hsame : actual = handle.definition <;> simp [hsame, eq_comm]

theorem resolve_error_of_moved [DecidableEq MacroDef] {table : MacroTable MacroDef}
    {handle : Macro systemMacros}
    (hmoved : table.macroAtAddress handle.address ≠ some handle.definition) :
    ∃ e, handle.resolve table = .error e := by
  rcases hresult : handle.resolve table with e | ref
  · exact ⟨e, rfl⟩
  · exact absurd (resolve_eq_ok_iff.mp hresult).1 hmoved

end Macro

/-! ### What a value designates -/

section Designated

variable {MacroDef : Type} {systemMacros : MacroTable MacroDef}

def MacroIdRef.designatedAddress (table : MacroTable MacroDef) :
    MacroIdRef → Option (ModuleKind × Nat)
  | .localName name => (table.addressForId (.localName name)).map (.default, ·)
  | .localAddress address => some (.default, address)
  | .systemAddress address => some (.system, address.asUsize)

def MacroIdLike.designatedAddress (table : MacroTable MacroDef) :
    MacroIdLike systemMacros → Option (ModuleKind × Nat)
  | .idRef id => id.designatedAddress table
  | .qualifiedAddress address => some (address.module, address.address.toNat)
  | .macroHandle handle => some (handle.module, handle.address)

end Designated

section Resolve

variable {MacroDef : Type} (systemMacros : MacroTable MacroDef) (strDebug : String → String)

def ModuleKind.macroTable (table : MacroTable MacroDef) : ModuleKind → MacroTable MacroDef
  | .default => table
  | .system => systemMacros

/-- `macro_at_address` in the table of the address's module, then `MacroRef::new`.  The two
lookups differ only in the text of the error for a missing macro, `missing`. -/
def lookupMacroRef (table : MacroTable MacroDef) (qualifiedAddress : QualifiedAddress)
    (missing : String) : Except IonError (MacroRef MacroDef) :=
  match (qualifiedAddress.module.macroTable systemMacros table).macroAtAddress
      qualifiedAddress.address.toNat with
  | none => .error (.encodingError missing)
  | some macroDef => .ok ⟨qualifiedAddress, macroDef⟩

/-- The first half of the default `resolve`: the id's `QualifiedAddress`, and `none` where
`QualifiedAddress::new` panics. -/
def qualifiedAddressOf (table : MacroTable MacroDef) :
    MacroIdRef → Option (Except IonError QualifiedAddress)
  | .localName name =>
    match table.addressForId (.localName name) with
    | none => some (.error (.illegalOperation
        ("macro table does not contain a macro named \x27" ++ name ++ "\x27")))
    | some address => (QualifiedAddress.new .default address).map .ok
  | .localAddress address => (QualifiedAddress.new .default address).map .ok
  | .systemAddress address => (QualifiedAddress.new .system address.asUsize).map .ok

def resolveId (table : MacroTable MacroDef) (id : MacroIdRef) :
    Option (Except IonError (MacroRef MacroDef)) :=
  (qualifiedAddressOf table id).map fun qualifiedAddress => do
    let qualifiedAddress ← qualifiedAddress
    lookupMacroRef systemMacros table qualifiedAddress
      ("no macro with the specified ID (" ++ id.debug strDebug ++ ") found")

def QualifiedAddress.resolve (table : MacroTable MacroDef) (qualifiedAddress : QualifiedAddress) :
    Except IonError (MacroRef MacroDef) :=
  lookupMacroRef systemMacros table qualifiedAddress
    ("could not find macro with ID " ++ qualifiedAddress.debug)

/-- `MacroIdLike::resolve`: `none` where it panics. -/
def MacroIdLike.resolve [DecidableEq MacroDef] (table : MacroTable MacroDef) :
    MacroIdLike systemMacros → Option (Except IonError (MacroRef MacroDef))
  | .idRef id => resolveId systemMacros strDebug table id
  | .qualifiedAddress address => some (address.resolve systemMacros table)
  | .macroHandle handle => some (handle.resolve table)

def systemMacroNames : List String :=
  ["none", "values", "default", "meta", "repeat", "flatten", "delta", "sum", "annotate",
    "make_string", "make_symbol", "make_decimal", "make_timestamp", "make_blob", "make_list",
    "make_sexp", "make_field", "make_struct", "parse_ion", "set_symbols", "add_symbols",
    "set_macros", "add_macros", "use"]

/-- Modelled from the spec: `ION_1_1_SYSTEM_MACROS`, one definition at each address from 0x00 to
0x17, found by its address or its name.  A definition is its address. -/
def specSystemMacros : MacroTable Nat where
  macroAtAddress address := if address < systemMacroNames.length then some address else none
  addressForId
    | .localName name => systemMacroNames.indexOf? name
    | _ => none

def MacroTable.empty : MacroTable Nat :=
  ⟨fun _ => none, fun _ => none⟩

theorem QualifiedAddress.new_eq_none_iff {module : ModuleKind} {address : Nat} :
    QualifiedAddress.new module address = none ↔ 2 ^ 32 ≤ address := by
  unfold QualifiedAddress.new
  split <;> simp <;> omega

theorem QualifiedAddress.new_address (qualifiedAddress : QualifiedAddress) :
    QualifiedAddress.new qualifiedAddress.module qualifiedAddress.address.toNat =
      some qualifiedAddress := by
  have hround : UInt32.ofNat qualifiedAddress.address.toNat = qualifiedAddress.address :=
    UInt32.eq_of_toBitVec_eq (by simp [UInt32.ofNat, UInt32.toNat])
  simp only [QualifiedAddress.new, hround]
  exact if_pos qualifiedAddress.address.toNat_lt_size

theorem lookupMacroRef_eq_ok_iff {table : MacroTable MacroDef} {qualifiedAddress : QualifiedAddress}
    {missing : String} {ref : MacroRef MacroDef} :
    lookupMacroRef systemMacros table qualifiedAddress missing = .ok ref ↔
      ref.address = qualifiedAddress ∧
        (qualifiedAddress.module.macroTable systemMacros table).macroAtAddress
          qualifiedAddress.address.toNat = some ref.definition := by
  unfold lookupMacroRef
  split <;> rename_i hlookup
  · simp [hlookup]
  · cases ref; simp [hlookup, eq_comm]

theorem lookupMacroRef_toOption (table : MacroTable MacroDef) (qualifiedAddress : QualifiedAddress)
    (missing other : String) :
    (lookupMacroRef systemMacros table qualifiedAddress missing).toOption =
      (lookupMacroRef systemMacros table qualifiedAddress other).toOption := by
  unfold lookupMacroRef
  split <;> rfl

theorem qualifiedAddressOf_of_designated {table : MacroTable MacroDef} {id : MacroIdRef}
    {module : ModuleKind} {address : Nat}
    (hd : id.designatedAddress table = some (module, address)) :
    qualifiedAddressOf table id = (QualifiedAddress.new module address).map .ok := by
  cases id with
  | localName name =>
    simp only [MacroIdRef.designatedAddress, Option.map_eq_some'] at hd
    obtain ⟨address, hfound, hpair⟩ := hd
    cases hpair
    simp only [qualifiedAddressOf, hfound]
  | localAddress => cases hd; rfl
  | systemAddress => cases hd; rfl

theorem qualifiedAddressOf_of_undesignated {table : MacroTable MacroDef} {id : MacroIdRef}
    (hd : id.designatedAddress table = none) :
    ∃ e, qualifiedAddressOf table id = some (.error e) := by
  cases id with
  | localName name =>
    simp only [MacroIdRef.designatedAddress, Option.map_eq_none'] at hd
    simp only [qualifiedAddressOf, hd]
    exact ⟨_, rfl⟩
  | localAddress => cases hd
  | systemAddress => cases hd

/-- Through `as_macro_id_ref` a qualified address is the same qualified address again, unless it
is a system address beyond the byte `as_macro_id_ref` truncates it to. -/
theorem qualifiedAddressOf_asMacroIdRef (table : MacroTable MacroDef) (address : QualifiedAddress)
    (hbyte : address.module = .system → address.address.toNat < 256) :
    qualifiedAddressOf table address.asMacroIdRef = some (.ok address) := by
  unfold QualifiedAddress.asMacroIdRef
  cases hmodule : address.module with
  | default =>
    simp only [qualifiedAddressOf, ← hmodule, QualifiedAddress.new_address, Option.map_some']
  | system =>
    have hasUsize : (SystemMacroAddress.newUnchecked address.address.toNat).asUsize =
        address.address.toNat := UInt8.toNat_ofNat_of_lt (hbyte hmodule)
    simp only [qualifiedAddressOf, hasUsize, ← hmodule, QualifiedAddress.new_address,
      Option.map_some']

section Resolved

variable [DecidableEq MacroDef]

/-- The default `resolve` panics exactly on a default-module address beyond `u32`; the others
never panic. -/
theorem MacroIdLike.resolve_eq_none_iff (table : MacroTable MacroDef)
    (x : MacroIdLike systemMacros) :
    x.resolve systemMacros strDebug table = none ↔
      ∃ module address,
        x.designatedAddress table = some (module, address) ∧ 2 ^ 32 ≤ address := by
  cases x with
  | idRef id =>
    simp only [MacroIdLike.resolve, MacroIdLike.designatedAddress, resolveId, Option.map_eq_none']
    rcases hd : id.designatedAddress table with _ | ⟨module, address⟩
    · obtain ⟨e, he⟩ := qualifiedAddressOf_of_undesignated hd
      simp only [he, reduceCtorEq, false_and, exists_false]
    · simp only [qualifiedAddressOf_of_designated hd, Option.map_eq_none',
        QualifiedAddress.new_eq_none_iff, Option.some.injEq, Prod.mk.injEq, and_assoc,
        exists_and_left, exists_eq_left', exists_and_right, exists_eq', true_and]
  | qualifiedAddress address =>
    simp only [MacroIdLike.resolve, MacroIdLike.designatedAddress, reduceCtorEq, false_iff]
    rintro ⟨_, _, ⟨⟩, hbeyond⟩
    exact absurd address.address.toNat_lt_size (Nat.not_lt.mpr hbeyond)
  | macroHandle handle =>
    simp only [MacroIdLike.resolve, MacroIdLike.designatedAddress, reduceCtorEq, false_iff]
    rintro ⟨_, _, ⟨⟩, hbeyond⟩
    exact absurd handle.qualifiedAddress.address.toNat_lt_size (Nat.not_lt.mpr hbeyond)

/-- What resolves, resolves to the definition at the address the value designates, in the
module it designates.  A system handle resolves against the given table, and its definition is
the system table's at its address because the handle carries that fact. -/
theorem MacroIdLike.resolve_eq_ok (table : MacroTable MacroDef) (x : MacroIdLike systemMacros)
    (ref : MacroRef MacroDef) (hresolve : x.resolve systemMacros strDebug table = some (.ok ref)) :
    ∃ module address, x.designatedAddress table = some (module, address) ∧
      (module.macroTable systemMacros table).macroAtAddress address = some ref.definition := by
  cases x with
  | idRef id =>
    simp only [MacroIdLike.resolve, MacroIdLike.designatedAddress, resolveId] at hresolve ⊢
    rcases hd : id.designatedAddress table with _ | ⟨module, address⟩
    · obtain ⟨e, he⟩ := qualifiedAddressOf_of_undesignated hd
      simp [he, bind, Except.bind] at hresolve
    · rw [qualifiedAddressOf_of_designated hd] at hresolve
      unfold QualifiedAddress.new at hresolve
      split at hresolve
      · rename_i hfits
        simp only [Option.map_some', bind, Except.bind, Option.some.injEq] at hresolve
        have hlookup := (lookupMacroRef_eq_ok_iff systemMacros).mp hresolve
        exact ⟨module, address, rfl, by simpa [UInt32.toNat_ofNat_of_lt hfits] using hlookup.2⟩
      · simp at hresolve
  | qualifiedAddress address =>
    exact ⟨_, _, rfl, ((lookupMacroRef_eq_ok_iff systemMacros).mp (Option.some.inj hresolve)).2⟩
  | macroHandle handle =>
    obtain ⟨hlookup, rfl⟩ := Macro.resolve_eq_ok_iff.mp (Option.some.inj hresolve)
    refine ⟨_, _, rfl, ?_⟩
    cases hmodule : handle.module with
    | default => exact hlookup
    | system => exact handle.system_definition hmodule

/-- A qualified address and its `as_macro_id_ref()` resolve alike, up to the text of the error,
while the address fits the byte `as_macro_id_ref` truncates a system address to. -/
theorem MacroIdLike.resolve_asMacroIdRef (table : MacroTable MacroDef) (address : QualifiedAddress)
    (hbyte : address.module = .system → address.address.toNat < 256) :
    ((MacroIdLike.idRef address.asMacroIdRef : MacroIdLike systemMacros).resolve systemMacros
        strDebug table).map Except.toOption =
      ((MacroIdLike.qualifiedAddress address : MacroIdLike systemMacros).resolve systemMacros
        strDebug table).map Except.toOption := by
  simp only [MacroIdLike.resolve, resolveId, qualifiedAddressOf_asMacroIdRef table address hbyte,
    Option.map_some', QualifiedAddress.resolve, bind, Except.bind]
  exact congrArg some (lookupMacroRef_toOption ..)

/-- A `&Macro` whose definition has left its address in its own module fails to resolve.  Only a
default-module handle can be in that state: a system handle's definition stays in the system
table. -/
theorem MacroIdLike.resolve_macroHandle_error (table : MacroTable MacroDef)
    (handle : Macro systemMacros)
    (hmoved : (handle.module.macroTable systemMacros table).macroAtAddress handle.address ≠
      some handle.definition) :
    ∃ e,
      (MacroIdLike.macroHandle handle).resolve systemMacros strDebug table = some (.error e) := by
  cases hmodule : handle.module <;> rw [hmodule] at hmoved
  case default =>
    obtain ⟨e, he⟩ := Macro.resolve_error_of_moved
      (show table.macroAtAddress handle.address ≠ some handle.definition from hmoved)
    exact ⟨e, by simp only [MacroIdLike.resolve, he]⟩
  case system => exact absurd (handle.system_definition hmodule) hmoved

/-- Resolution over every value and every table.  It panics exactly on a default-module address
beyond `u32`.  A value that resolves yields the definition at the address it designates in the
module it designates.  A `QualifiedAddress` resolves as its `as_macro_id_ref()` does, up to the
text of the error, unless it is a system address of 256 or more.  A `&Macro` whose definition
has left its address in its own module fails. -/
theorem MacroIdLike.resolve_designated (table : MacroTable MacroDef) :
    (∀ x : MacroIdLike systemMacros, x.resolve systemMacros strDebug table = none ↔
      ∃ module address,
        x.designatedAddress table = some (module, address) ∧ 2 ^ 32 ≤ address) ∧
    (∀ (x : MacroIdLike systemMacros) (ref : MacroRef MacroDef),
      x.resolve systemMacros strDebug table = some (.ok ref) →
      ∃ module address, x.designatedAddress table = some (module, address) ∧
        (module.macroTable systemMacros table).macroAtAddress address = some ref.definition) ∧
    (∀ address : QualifiedAddress, (address.module = .system → address.address.toNat < 256) →
      ((MacroIdLike.idRef address.asMacroIdRef : MacroIdLike systemMacros).resolve systemMacros
          strDebug table).map Except.toOption =
        ((MacroIdLike.qualifiedAddress address : MacroIdLike systemMacros).resolve systemMacros
          strDebug table).map Except.toOption) ∧
    (∀ handle : Macro systemMacros,
      (handle.module.macroTable systemMacros table).macroAtAddress handle.address ≠
        some handle.definition →
      ∃ e,
        (MacroIdLike.macroHandle handle).resolve systemMacros strDebug table = some (.error e)) :=
  ⟨MacroIdLike.resolve_eq_none_iff systemMacros strDebug table,
    MacroIdLike.resolve_eq_ok systemMacros strDebug table,
    MacroIdLike.resolve_asMacroIdRef systemMacros strDebug table,
    MacroIdLike.resolve_macroHandle_error systemMacros strDebug table⟩

/-- On the spec's system macros and an empty table: a local address beyond `u32` panics; a
qualified address and its `as_macro_id_ref()` fail with different texts; and a system address
beyond a byte fails directly, while through `as_macro_id_ref()` it resolves to the macro at its
low byte. -/
theorem MacroIdLike.resolve_localAddress_beyond_u32 :
    (MacroIdLike.idRef (.localAddress (2 ^ 32))).resolve specSystemMacros String.quote
        MacroTable.empty = none ∧
      (MacroIdLike.qualifiedAddress ⟨.default, 5⟩).resolve specSystemMacros String.quote
        MacroTable.empty = some (.error (.encodingError
          "could not find macro with ID QualifiedAddress \x7b module: Default, address: 5 \x7d")) ∧
      (MacroIdLike.idRef (QualifiedAddress.asMacroIdRef ⟨.default, 5⟩)).resolve specSystemMacros
        String.quote MacroTable.empty = some (.error (.encodingError
          "no macro with the specified ID (LocalAddress(5)) found")) ∧
      (MacroIdLike.qualifiedAddress ⟨.system, 257⟩).resolve specSystemMacros String.quote
        MacroTable.empty = some (.error (.encodingError
          "could not find macro with ID QualifiedAddress \x7b module: System, address: 257 \x7d")) ∧
      (MacroIdLike.idRef (QualifiedAddress.asMacroIdRef ⟨.system, 257⟩)).resolve
        specSystemMacros String.quote MacroTable.empty = some (.ok ⟨⟨.system, 1⟩, 1⟩) :=
  ⟨rfl, rfl, rfl, rfl, rfl⟩

theorem MacroIdLike.resolve_designated_systemThree :
    ((QualifiedAddress.mk .system 3).module = .system →
        (QualifiedAddress.mk .system 3).address.toNat < 256) ∧
      ((MacroIdLike.idRef (QualifiedAddress.asMacroIdRef ⟨.system, 3⟩) :
          MacroIdLike specSystemMacros).resolve specSystemMacros String.quote
          MacroTable.empty).map Except.toOption =
        ((MacroIdLike.qualifiedAddress ⟨.system, 3⟩ : MacroIdLike specSystemMacros).resolve
          specSystemMacros String.quote MacroTable.empty).map Except.toOption ∧
      (MacroIdLike.macroHandle ⟨some "meta", ⟨.system, 3⟩, 3, fun _ => rfl⟩).resolve
          specSystemMacros String.quote specSystemMacros = some (.ok ⟨⟨.system, 3⟩, 3⟩) ∧
      ∃ module address,
        (MacroIdLike.macroHandle ⟨some "meta", ⟨.system, 3⟩, 3, fun _ => rfl⟩ :
          MacroIdLike specSystemMacros).designatedAddress specSystemMacros =
            some (module, address) ∧
        (module.macroTable specSystemMacros specSystemMacros).macroAtAddress address = some 3 :=
  ⟨fun _ => by decide,
    (MacroIdLike.resolve_designated specSystemMacros String.quote MacroTable.empty).2.2.1 _
      fun _ => by decide,
    rfl,
    (MacroIdLike.resolve_designated specSystemMacros String.quote specSystemMacros).2.1 _
      ⟨⟨.system, 3⟩, 3⟩ rfl⟩

end Resolved

end Resolve

end IonRust
