/-
# The shape of a member

A field becomes a member in a fixed order of decisions.  The representation that
it asks for comes first, and if that does not fit nothing else is looked at.
Then comes the type of one value, which may be a map and lead to further maps.
The label comes last, and neither a map nor a list can be absent.

The type of one value is a tree over the index, and `Index.HasTree` says which:
scalars and references to messages and enums are its leaves, and a reference to
a map entry is a node with the trees of its key and its value.  Resolution finds
the tree exactly if there is one (`valueType_eq_ok_iff`); a derivation is finite,
so there is none for a map entry that leads back to itself.

`Field.Shaped` adds the label and the absence on top of the tree, and the result
is that a member is what it says and nothing else (`member_shaped_iff`).
-/
import RpcStubs.Proofs.Extensions

namespace RpcStubs

/-! ## Trees -/

namespace TypeExpr

/-- Whether an expression is a map. -/
def isMap : TypeExpr → Bool
  | .map _ _ => true
  | _ => false

/-- Whether an expression is a list. -/
def isArray : TypeExpr → Bool
  | .array _ => true
  | _ => false

/-- The number of lists in an expression, at any depth. -/
def arrays : TypeExpr → Nat
  | .primitive _ => 0
  | .reference _ _ => 0
  | .map key value => key.arrays + value.arrays
  | .array element => element.arrays + 1

end TypeExpr

namespace Index

variable {ix : Index} {here : String} {type : TypeRef} {t t₁ t₂ : TypeExpr}

/-- The tree of a type, for use in the file `here`. -/
inductive HasTree (ix : Index) (here : String) : TypeRef → TypeExpr → Prop
  /-- A scalar is a leaf, whatever name stands beside it. -/
  | scalar {s : Scalar} {name : String} :
      HasTree ix here ⟨.scalar s, name⟩ (.primitive s.primitive)
  /-- An enum of the index is a leaf. -/
  | enum {name : String} {e : EnumEntry} : ix.enums.find? name = some e →
      HasTree ix here ⟨.enum, name⟩ (reference here e.file e.package name)
  /-- So is a message of the index that is no map entry. -/
  | message {kind : Kind} {name : String} {e : MessageEntry} :
      kind.isMessage = true → ix.messages.find? name = some e → e.isMapEntry = false →
      HasTree ix here ⟨kind, name⟩ (reference here e.file e.package name)
  /-- A map entry is a node over its key and its value. -/
  | map {kind : Kind} {name : String} {e : MessageEntry} {types : MapTypes} {key value : TypeExpr} :
      kind.isMessage = true → ix.messages.find? name = some e → e.isMapEntry = true →
      e.mapTypes = some types → HasTree ix here types.key key → HasTree ix here types.value value →
      HasTree ix here ⟨kind, name⟩ (.map key value)

namespace HasTree

theorem resolvable (h : ix.HasTree here type t) : ix.Resolvable type := by
  induction h with
  | scalar => exact .scalar
  | enum he => exact .enum he
  | message hkind he hentry => exact .message hkind he hentry
  | map hkind he hentry htypes _ _ ihk ihv =>
      exact .map hkind he hentry htypes ihk ihv (acyclicFrom_of_key_value he htypes ihk ihv)

theorem arrays_eq_zero (h : ix.HasTree here type t) : t.arrays = 0 := by
  induction h with
  | scalar => rfl
  | enum => rfl
  | message => rfl
  | map _ _ _ _ _ _ ihk ihv => rw [TypeExpr.arrays, ihk, ihv]

theorem unique (h₁ : ix.HasTree here type t₁) (h₂ : ix.HasTree here type t₂) : t₁ = t₂ := by
  induction h₁ generalizing t₂ with
  | scalar =>
      cases h₂ with
      | scalar => rfl
      | message hkind => cases hkind
      | map hkind => cases hkind
  | enum he =>
      cases h₂ with
      | enum he' =>
          rw [he] at he'
          cases he'
          rfl
      | message hkind => cases hkind
      | map hkind => cases hkind
  | message hkind he hentry =>
      cases h₂ with
      | scalar => cases hkind
      | enum => cases hkind
      | message _ he' _ =>
          rw [he] at he'
          cases he'
          rfl
      | map _ he' hentry' =>
          rw [he] at he'
          cases he'
          rw [hentry] at hentry'
          cases hentry'
  | map hkind he hentry htypes _ _ ihk ihv =>
      cases h₂ with
      | scalar => cases hkind
      | enum => cases hkind
      | message _ he' hentry' =>
          rw [he] at he'
          cases he'
          rw [hentry] at hentry'
          cases hentry'
      | map _ he' _ htypes' hk hv =>
          rw [he] at he'
          cases he'
          rw [htypes] at htypes'
          cases htypes'
          rw [ihk hk, ihv hv]

end HasTree

/-- What is resolved is the tree, whatever entries are open around it. -/
theorem hasTree_of_elementType (h : ix.Resolvable type) :
    ∀ (opened : List String) (t : TypeExpr),
      (ix.elementType here (ix.mapTypeWithin here opened) type.kind type.name).result = .ok t →
      ix.HasTree here type t := by
  induction h with
  | scalar =>
      intro opened t ht
      rw [elementType_eq_of_scalar] at ht
      cases ht
      exact .scalar
  | enum he =>
      intro opened t ht
      rw [elementType_eq_of_enum he] at ht
      cases ht
      exact .enum he
  | message hkind he hentry =>
      intro opened t ht
      rw [elementType_eq_of_message hkind he hentry] at ht
      cases ht
      exact .message hkind he hentry
  | map hkind he hentry htypes _ _ _ ihk ihv =>
      intro opened t ht
      rw [elementType_eq_of_map hkind he hentry] at ht
      obtain ⟨-, types, key, value, htypes', hk, hv, rfl⟩ := (mapTypeWithin_eq_ok he).mp ht
      rw [htypes] at htypes'
      cases htypes'
      exact .map hkind he hentry htypes (ihk _ key hk) (ihv _ value hv)

theorem valueType_eq_ok_iff : (ix.valueType here type).result = .ok t ↔ ix.HasTree here type t := by
  have hsound : ∀ t, (ix.valueType here type).result = .ok t → ix.HasTree here type t := by
    intro t ht
    exact hasTree_of_elementType (succeeds_valueType.mp ⟨t, ht⟩) [] t ht
  refine ⟨hsound t, fun h => ?_⟩
  obtain ⟨t', ht'⟩ := (@succeeds_valueType ix here type).mpr h.resolvable
  rw [ht', (hsound t' ht').unique h]

end Index

/-! ## Errors of resolution

Resolution knows nothing of options, so none of its errors is about one. -/

/-- Whether an error is about an option that is set to something that it cannot be. -/
def GenerationError.isUnsupportedOption : GenerationError → Bool
  | .unknownJsType _ _ => true
  | .misplacedJsType _ => true
  | _ => false

/-- A failure is about an option. -/
def Failure.IsUnsupportedOption (failure : Failure) : Prop :=
  ∃ e, failure = .invalid e ∧ e.isUnsupportedOption = true

namespace Index

variable {ix : Index} {here : String}

theorem avoids_check {α : Type} {c : Except GenerationError α}
    (h : ∀ e, c = .error e → e.isUnsupportedOption = false) :
    (Traced.check c).Avoids Failure.IsUnsupportedOption := by
  cases c with
  | ok a => exact Traced.avoids_of_ok rfl
  | error e =>
      refine Traced.avoids_refuse ?_
      rintro ⟨e', he', hoption⟩
      cases he'
      rw [h e rfl] at hoption
      cases hoption

theorem avoids_message (name : String) :
    (Traced.check (ix.message name)).Avoids Failure.IsUnsupportedOption := by
  refine avoids_check fun e he => ?_
  unfold message at he
  split at he
  next => cases he
  next => cases he; rfl

theorem avoids_enum (name : String) :
    (Traced.check (ix.enum name)).Avoids Failure.IsUnsupportedOption := by
  refine avoids_check fun e he => ?_
  unfold enum at he
  split at he
  next => cases he
  next => cases he; rfl

theorem avoids_primitive (kind : Kind) :
    (Traced.check kind.primitive).Avoids Failure.IsUnsupportedOption := by
  refine avoids_check fun e he => ?_
  cases kind with
  | scalar s => cases he
  | message => cases he; rfl
  | group => cases he; rfl
  | enum => cases he; rfl
  | unknown code => cases he; rfl

theorem avoids_elementType {enter : String → Traced TypeExpr}
    (henter : ∀ name, (enter name).Avoids Failure.IsUnsupportedOption) (kind : Kind)
    (name : String) :
    (ix.elementType here enter kind name).Avoids Failure.IsUnsupportedOption := by
  by_cases hkind : kind.isMessage = true
  · rw [elementType_message hkind]
    refine Traced.avoids_bind.mpr ⟨avoids_message name, fun e _ => ?_⟩
    split
    next => exact henter name
    next => exact Traced.avoids_of_ok rfl
  · cases kind with
    | message => exact absurd rfl hkind
    | group => exact absurd rfl hkind
    | scalar s => exact Traced.avoids_of_ok rfl
    | enum => exact Traced.avoids_bind.mpr ⟨avoids_enum name, fun e _ => Traced.avoids_of_ok rfl⟩
    | unknown code =>
        exact Traced.avoids_bind.mpr ⟨avoids_primitive _, fun p _ => Traced.avoids_of_ok rfl⟩

/-- The induction is on the number of entries that are not open. -/
theorem avoids_mapTypeWithin (n : Nat) :
    ∀ (opened : List String) (name : String), ix.closedCount opened = n →
      (ix.mapTypeWithin here opened name).Avoids Failure.IsUnsupportedOption := by
  induction n using Nat.strongRecOn with
  | ind n ih =>
      rintro opened name rfl
      rw [mapTypeWithin]
      split
      next => rintro failure ⟨e, rfl, -⟩ he; cases he
      next hopen =>
        split
        next =>
          refine Traced.avoids_refuse ?_
          rintro ⟨e, he, hoption⟩
          cases he
          cases hoption
        next e he =>
          have hnext := fun name' => ih _ (closedCount_lt he hopen) (name :: opened) name' rfl
          refine Traced.avoids_bind.mpr ⟨avoids_check fun error herror => ?_, fun types _ => ?_⟩
          · unfold MessageEntry.requireMapTypes at herror
            split at herror
            next => cases herror
            next => cases herror; rfl
          · refine Traced.avoids_bind.mpr ⟨avoids_elementType hnext _ _, fun key _ => ?_⟩
            refine Traced.avoids_bind.mpr ⟨avoids_elementType hnext _ _, fun value _ => ?_⟩
            exact Traced.avoids_of_ok rfl

theorem avoids_valueType (here : String) (type : TypeRef) :
    (ix.valueType here type).Avoids Failure.IsUnsupportedOption :=
  avoids_elementType (fun name => avoids_mapTypeWithin _ [] name rfl) _ _

end Index

/-! ## Fields -/

namespace Field

variable {ix : Index} {file : File} {x : Field} {t : TypeExpr} {m : Member}

/-- A field asks for a representation that is unknown, or for one that only 64-bit integers have. -/
def Misrepresented (x : Field) : Prop :=
  ∃ representation, x.jsType = some representation ∧
    ((∃ code, representation = .unknown code) ∨
      ((representation = .string ∨ representation = .number) ∧ x.kind.isWide = false))

/-- The tree of one value of a field: what it asks for, or else the tree of its type. -/
inductive HasTree (ix : Index) (here : String) (x : Field) : TypeExpr → Prop
  | text : x.jsType = some .string → x.kind.isWide = true → HasTree ix here x (.primitive .string)
  | number : x.jsType = some .number → x.kind.isWide = true → HasTree ix here x (.primitive .number)
  | ofType {t : TypeExpr} : x.jsType = none ∨ x.jsType = some .normal →
      ix.HasTree here x.typeRef t → HasTree ix here x t

/-- The member of a field: the tree of one value, put in a list if the field is repeated and the
tree is no map.  It can be absent if it is neither a map nor a list and a single value can be. -/
structure Shaped (ix : Index) (file : File) (x : Field) (m : Member) : Prop where
  name : m.name = Name.member x.name
  type : ∃ element, x.HasTree ix file.name element ∧ element.arrays = 0 ∧
    m.type = if x.label = .repeated ∧ element.isMap = false then .array element else element
  optional : m.optional = true ↔
    m.type.isMap = false ∧ m.type.isArray = false ∧ x.canBeAbsent file = true

theorem representationFits_iff : x.RepresentationFits ↔ ¬ x.Misrepresented := by
  unfold RepresentationFits Misrepresented
  cases x.jsType with
  | none => simp
  | some representation => cases representation <;> simp

theorem misrepresented_iff :
    x.Misrepresented ↔ ∃ e, x.override = .error e ∧ e.isUnsupportedOption = true := by
  unfold Misrepresented override
  cases x.jsType with
  | none => simp
  | some representation =>
      cases representation <;> cases x.kind.isWide <;> simp [GenerationError.isUnsupportedOption]

theorem elementType_eq_ok_iff :
    (x.elementType ix file).result = .ok t ↔ x.HasTree ix file.name t := by
  constructor
  · intro h
    obtain ⟨hfits, -⟩ := succeeds_elementType.mp ⟨t, h⟩
    rcases hfits with hnone | hnormal | ⟨htext | hnumber, hwide⟩
    · rw [elementType_of_asksForDefault (.inl hnone)] at h
      exact .ofType (.inl hnone) (Index.valueType_eq_ok_iff.mp h)
    · rw [elementType_of_asksForDefault (.inr (.inl hnormal))] at h
      exact .ofType (.inr hnormal) (Index.valueType_eq_ok_iff.mp h)
    · rw [elementType_of_asksForText htext hwide] at h
      cases h
      exact .text htext hwide
    · rw [elementType_of_asksForDefault (.inr (.inr ⟨hnumber, hwide⟩)),
        valueType_of_isWide hwide] at h
      cases h
      exact .number hnumber hwide
  · intro h
    cases h with
    | text htext hwide => exact elementType_of_asksForText htext hwide
    | number hnumber hwide =>
        rw [elementType_of_asksForDefault (.inr (.inr ⟨hnumber, hwide⟩)),
          valueType_of_isWide hwide]
    | ofType hdefault htree =>
        rw [elementType_of_asksForDefault (hdefault.imp_right .inl)]
        exact Index.valueType_eq_ok_iff.mpr htree

theorem HasTree.arrays_eq_zero {here : String} (h : x.HasTree ix here t) : t.arrays = 0 := by
  cases h with
  | text => rfl
  | number => rfl
  | ofType _ htree => exact htree.arrays_eq_zero

/-! ## Labels and absence -/

/-- The member of a field whose values have a type. -/
def memberOf (file : File) (x : Field) (t : TypeExpr) : Member where
  name := Name.member x.name
  type := memberType x.label t
  optional := !t.isMap && x.label ≠ .repeated && x.canBeAbsent file

theorem member_eq (ix : Index) (file : File) (x : Field) :
    x.member ix file = (x.elementType ix file >>= fun t => pure (x.memberOf file t)) := by
  unfold member
  refine congrArg (x.elementType ix file >>= ·) (funext fun t => ?_)
  cases t <;> by_cases hlabel : x.label = .repeated <;>
    simp [memberOf, memberType, constantType, TypeExpr.isMap, hlabel]

theorem memberType_eq (label : Label) (t : TypeExpr) :
    memberType label t = if label = .repeated ∧ t.isMap = false then .array t else t := by
  cases t <;> simp [memberType, constantType, TypeExpr.isMap]

theorem HasTree.unique {here : String} {t₁ t₂ : TypeExpr} (h₁ : x.HasTree ix here t₁)
    (h₂ : x.HasTree ix here t₂) : t₁ = t₂ := by
  have hresult : ∀ t, x.HasTree ix here t → (x.elementType ix { name := here }).result = .ok t :=
    fun t => (@elementType_eq_ok_iff ix { name := here } x t).mpr
  exact Except.ok.inj ((hresult t₁ h₁).symm.trans (hresult t₂ h₂))

theorem shaped_memberOf (h : x.HasTree ix file.name t) : x.Shaped ix file (x.memberOf file t) where
  name := rfl
  type := ⟨t, h, h.arrays_eq_zero, memberType_eq x.label t⟩
  optional := by
    -- the tree itself is no list, so a list comes from the label
    have hlist : t.isArray = false := by
      cases t with
      | array element => cases h.arrays_eq_zero
      | primitive p => rfl
      | reference token path => rfl
      | map key value => rfl
    show (!t.isMap && x.label ≠ .repeated && x.canBeAbsent file) = true ↔ _ ∧ _ ∧ _
    rw [show (x.memberOf file t).type = _ from memberType_eq x.label t]
    by_cases hlabel : x.label = .repeated
    · cases hmap : t.isMap <;> simp [hlabel, hmap, TypeExpr.isArray]
    · simp [hlabel, hlist]

theorem Shaped.unique {m₁ m₂ : Member} (h₁ : x.Shaped ix file m₁) (h₂ : x.Shaped ix file m₂) :
    m₁ = m₂ := by
  obtain ⟨name₁, type₁, optional₁⟩ := m₁
  obtain ⟨name₂, type₂, optional₂⟩ := m₂
  obtain ⟨element₁, htree₁, -, htype₁⟩ := h₁.type
  obtain ⟨element₂, htree₂, -, htype₂⟩ := h₂.type
  obtain rfl : name₁ = name₂ := h₁.name.trans h₂.name.symm
  obtain rfl : type₁ = type₂ := by
    rw [show type₁ = _ from htype₁, show type₂ = _ from htype₂, htree₁.unique htree₂]
  obtain rfl : optional₁ = optional₂ := Bool.eq_iff_iff.mpr (h₁.optional.trans h₂.optional.symm)
  rfl

/-- A field has the member of its shape, if there is one. -/
theorem member_eq_ok_iff : (x.member ix file).result = .ok m ↔ x.Shaped ix file m := by
  have hmember : ∀ t, x.HasTree ix file.name t →
      (x.member ix file).result = .ok (x.memberOf file t) := by
    intro t ht
    rw [member_eq]
    exact Traced.result_bind_eq_ok.mpr ⟨t, elementType_eq_ok_iff.mpr ht, rfl⟩
  constructor
  · intro h
    rw [member_eq] at h
    obtain ⟨t, ht, h⟩ := Traced.result_bind_eq_ok.mp h
    cases h
    exact shaped_memberOf (elementType_eq_ok_iff.mp ht)
  · intro h
    obtain ⟨t, ht, -, -⟩ := h.type
    rw [hmember t ht, (shaped_memberOf ht).unique h]

/-! ## Failures -/

theorem elementType_eq_error_of_override {e : GenerationError} (h : x.override = .error e) :
    (x.elementType ix file).result = .error (.invalid e) := by
  unfold elementType
  rw [h]
  rfl

theorem elementType_eq_error {failure : Failure} (h : ¬ x.Misrepresented) :
    (x.elementType ix file).result = .error failure ↔
      (ix.valueType file.name x.typeRef).result = .error failure := by
  rcases representationFits_iff.mpr h with hnone | hnormal | ⟨htext | hnumber, hwide⟩
  · rw [elementType_of_asksForDefault (.inl hnone)]
  · rw [elementType_of_asksForDefault (.inr (.inl hnormal))]
  · rw [elementType_of_asksForText htext hwide, valueType_of_isWide hwide]
    exact ⟨fun h => (nomatch h), fun h => (nomatch h)⟩
  · rw [elementType_of_asksForDefault (.inr (.inr ⟨hnumber, hwide⟩))]

/-- How a field becomes a member.  It is refused for its representation exactly if that does not
fit, whatever the index says about its type.  Else it fails where its type fails, and has the member
of its shape if its type has a tree. -/
theorem member_shaped_iff (ix : Index) (file : File) (x : Field) :
    ((∃ e, (x.member ix file).result = .error (.invalid e) ∧ e.isUnsupportedOption = true) ↔
      x.Misrepresented) ∧
    (¬ x.Misrepresented → ∀ failure, (x.member ix file).result = .error failure ↔
      (ix.valueType file.name x.typeRef).result = .error failure) ∧
    ∀ m, (x.member ix file).result = .ok m ↔ x.Shaped ix file m := by
  refine ⟨⟨?_, ?_⟩, ?_, fun m => member_eq_ok_iff⟩
  · rintro ⟨e, he, hoption⟩
    by_contra hfits
    rw [member_eq_error, elementType_eq_error hfits] at he
    exact Index.avoids_valueType _ _ _ ⟨e, rfl, hoption⟩ he
  · intro h
    obtain ⟨e, he, hoption⟩ := misrepresented_iff.mp h
    exact ⟨e, member_eq_error.mpr (elementType_eq_error_of_override he), hoption⟩
  · intro hfits failure
    rw [member_eq_error, elementType_eq_error hfits]

/-! An instance: a map of maps, a list of a message of another file, and a message that is not
there, with and without a representation. -/

namespace Gauge

def innerEntry : Message where
  name := "InnerEntry"
  fields := [{ name := "key", number := 1, kind := .scalar .string },
    { name := "value", number := 2, kind := .message, typeName := ".meter.Reading" }]
  isMapEntry := true

def outerEntry : Message where
  name := "OuterEntry"
  fields := [{ name := "key", number := 1, kind := .scalar .int64 },
    { name := "value", number := 2, kind := .message, typeName := ".meter.InnerEntry" }]
  isMapEntry := true

def meter : File where
  name := "meter.proto"
  package := "meter"
  messages := [{ name := "Reading" }, innerEntry, outerEntry]

def gauge : File where
  name := "gauge.proto"
  package := "gauge"

def index : Index := .ofFiles [meter, gauge]

def grid : Field where
  name := "grid"
  kind := .message
  typeName := ".meter.OuterEntry"
  label := .repeated

def history : Field where
  name := "history"
  kind := .message
  typeName := ".meter.Reading"
  label := .repeated

def lost : Field where
  name := "lost"
  kind := .message
  typeName := ".meter.Lost"

theorem readings : index.HasTree "gauge.proto" ⟨.message, "meter.Reading"⟩
    (.reference (some "meter_pb") "Reading") :=
  .message (e := ⟨"meter", "meter.proto", false, none⟩) rfl (by decide) rfl

theorem grid_tree : index.HasTree "gauge.proto" ⟨.message, "meter.OuterEntry"⟩
    (.map (.primitive .number)
      (.map (.primitive .string) (.reference (some "meter_pb") "Reading"))) := by
  have houter : index.messages.find? "meter.OuterEntry" = some ⟨"meter", "meter.proto", true,
      some ⟨⟨.scalar .int64, ""⟩, ⟨.message, "meter.InnerEntry"⟩⟩⟩ := by decide
  have hinner : index.messages.find? "meter.InnerEntry" = some ⟨"meter", "meter.proto", true,
      some ⟨⟨.scalar .string, ""⟩, ⟨.message, "meter.Reading"⟩⟩⟩ := by decide
  exact .map rfl houter rfl rfl .scalar (.map rfl hinner rfl rfl .scalar readings)

end Gauge

theorem member_shaped_iff_gauge :
    (Gauge.grid.member Gauge.index Gauge.gauge).result = .ok ⟨"grid", .map (.primitive .number)
      (.map (.primitive .string) (.reference (some "meter_pb") "Reading")), false⟩ ∧
    (Gauge.history.member Gauge.index Gauge.gauge).result
      = .ok ⟨"history", .array (.reference (some "meter_pb") "Reading"), false⟩ ∧
    (∃ e, ({ Gauge.lost with jsType := some .string }.member Gauge.index Gauge.gauge).result
      = .error (.invalid e) ∧ e.isUnsupportedOption = true) ∧
    (Gauge.lost.member Gauge.index Gauge.gauge).result
      = .error (.invalid (.missingMessage "meter.Lost")) := by
  refine ⟨((member_shaped_iff _ _ _).2.2 _).mpr ⟨by decide, ?_, by decide⟩,
    ((member_shaped_iff _ _ _).2.2 _).mpr ⟨by decide, ?_, by decide⟩,
    (member_shaped_iff _ _ _).1.mpr ⟨.string, rfl, .inr ⟨.inl rfl, rfl⟩⟩,
    ((member_shaped_iff _ _ _).2.1 ?_ _).mpr (by decide)⟩
  · exact ⟨_, .ofType (.inl rfl) Gauge.grid_tree, rfl, rfl⟩
  · exact ⟨_, .ofType (.inl rfl) Gauge.readings, rfl, rfl⟩
  · rintro ⟨representation, h, -⟩
    cases h

end Field

end RpcStubs
