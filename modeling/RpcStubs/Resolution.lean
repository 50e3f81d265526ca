/-
From the type of a field to a type expression.

A reference to a message or an enum of the current file is its path in the file, any other has
the defining file's namespace token before it.  A reference to a map entry is the map itself,
its key resolved before its value.  The entries whose resolution has begun and not ended are
kept as a list: one that is met again has no finite type.  Each step into an entry lengthens
the list by a name of the index that was not on it, so resolution ends.
-/
import RpcStubs.Index
import RpcStubs.Traced

namespace RpcStubs

/-- The built-in type for a scalar kind. -/
def Scalar.primitive : Scalar → Primitive
  | .bool => .boolean
  | .string => .string
  | .bytes => .bytes
  | _ => .number

/-- The built-in type for a kind; a kind that is not scalar has none. -/
def Kind.primitive : Kind → Except GenerationError Primitive
  | .scalar s => .ok s.primitive
  | kind => .error (.unsupportedKind kind.code)

def MessageEntry.requireMapTypes (e : MessageEntry) (name : String) :
    Except GenerationError MapTypes :=
  match e.mapTypes with
  | some types => .ok types
  | none => .error (.malformedMapEntry name)

namespace Index

def message (ix : Index) (name : String) : Except GenerationError MessageEntry :=
  match ix.messages.find? name with
  | some e => .ok e
  | none => .error (.missingMessage name)

def enum (ix : Index) (name : String) : Except GenerationError EnumEntry :=
  match ix.enums.find? name with
  | some e => .ok e
  | none => .error (.missingEnum name)

/-- A reference from the file `here` to a definition of the file `there`. -/
def reference (here there package name : String) : TypeExpr :=
  .reference (if there = here then none else some (SchemaPath.token there))
    (TypeName.within package name)

/-- How many messages are not on the list of open entries. -/
def closedCount (ix : Index) (opened : List String) : Nat :=
  (ix.messages.keys.filter (· ∉ opened)).length

theorem closedCount_lt {ix : Index} {opened : List String} {name : String} {e : MessageEntry}
    (hf : ix.messages.find? name = some e) (hn : name ∉ opened) :
    ix.closedCount (name :: opened) < ix.closedCount opened := by
  have hm : name ∈ ix.messages.keys := Table.mem_keys_of_find? hf
  unfold closedCount
  generalize ix.messages.keys = keys at hm
  induction keys with
  | nil => simp at hm
  | cons k ks ih =>
    have hle : (ks.filter (· ∉ name :: opened)).length ≤ (ks.filter (· ∉ opened)).length := by
      rw [← List.countP_eq_length_filter, ← List.countP_eq_length_filter]
      exact List.countP_mono_left fun x _ hx => by simp_all
    by_cases hk : k = name
    · subst hk
      simp [hn] at hle ⊢
      omega
    · have hks := ih (by simpa [Ne.symm hk] using hm)
      by_cases ho : k ∈ opened <;> simp [hk, ho] at hks ⊢ <;> omega

/-- The type of a reference, given how a map entry is entered. -/
def elementType (ix : Index) (here : String) (enter : String → Traced TypeExpr) (kind : Kind)
    (name : String) : Traced TypeExpr :=
  match kind with
  | .message | .group => do
    let e ← Traced.check (ix.message name)
    if e.isMapEntry then enter name else return reference here e.file e.package name
  | .enum => do
    let e ← Traced.check (ix.enum name)
    return reference here e.file e.package name
  | kind => do
    let p ← Traced.check kind.primitive
    return .primitive p

/-- The map that an entry stands for, while the entries of `opened` are being resolved. -/
def mapTypeWithin (ix : Index) (here : String) (opened : List String) (name : String) :
    Traced TypeExpr :=
  if _ : name ∈ opened then Traced.fail .cyclic
  else match _ : ix.messages.find? name with
    | none => Traced.refuse (.missingMessage name)
    | some e => do
      let types ← Traced.check (e.requireMapTypes name)
      let key ← ix.elementType here (mapTypeWithin ix here (name :: opened)) types.key.kind
        types.key.name
      let value ← ix.elementType here (mapTypeWithin ix here (name :: opened)) types.value.kind
        types.value.name
      Traced.report (.resolvedMap name key value)
      return .map key value
termination_by ix.closedCount opened
decreasing_by all_goals exact closedCount_lt ‹_› ‹_›

def mapType (ix : Index) (here name : String) : Traced TypeExpr :=
  ix.mapTypeWithin here [] name

/-- The type of one value of a kind, for use in the file `here`. -/
def valueType (ix : Index) (here : String) (type : TypeRef) : Traced TypeExpr :=
  ix.elementType here (ix.mapType here) type.kind type.name

end Index

end RpcStubs
