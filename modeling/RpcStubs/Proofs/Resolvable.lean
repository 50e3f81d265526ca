/-
# Which types can be resolved

Resolution walks from a type to the key and the value of the map entry it
refers to, and on from there.  It stops at the first definition that is
missing, at the first map entry without a key or a value, at the first kind
without a counterpart, and at an entry that it is already inside of.

`Index.Resolvable` says when it meets none of these, without mention of the
walk: a clause for each kind of type.  Its last clause asks that no map entry
that can be reached is reachable from itself, and that is what the list of open
entries decides: if every open entry leads to the one that is entered, meeting
an open one again closes a circle.

The main result is `succeeds_valueType`: a type has an expression, in whatever
file it is used, exactly if it is resolvable.
-/
import Mathlib.Logic.Relation
import RpcStubs.Proofs.Success
import RpcStubs.Resolution

namespace RpcStubs

open Relation

namespace Index

variable {ix : Index} {here name : String} {opened : List String}

/-- A type refers to a message that is a map entry of the index. -/
def RefersToMap (ix : Index) (type : TypeRef) (name : String) : Prop :=
  type.kind.isMessage = true ∧ type.name = name ∧
    ∃ e, ix.messages.find? name = some e ∧ e.isMapEntry = true

/-- One map entry leads to another: its key or its value is of that type. -/
def LeadsTo (ix : Index) (name other : String) : Prop :=
  ∃ e types, ix.messages.find? name = some e ∧ e.isMapEntry = true ∧ e.mapTypes = some types ∧
    (ix.RefersToMap types.key other ∨ ix.RefersToMap types.value other)

/-- No map entry that can be reached from a map entry is reachable from itself. -/
def AcyclicFrom (ix : Index) (name : String) : Prop :=
  ∀ other, ReflTransGen ix.LeadsTo name other → ¬ TransGen ix.LeadsTo other other

/-- A type that generated code can express. -/
inductive Resolvable (ix : Index) : TypeRef → Prop
  /-- A scalar. -/
  | scalar {s : Scalar} {name : String} : Resolvable ix ⟨.scalar s, name⟩
  /-- An enum of the index. -/
  | enum {name : String} {e : EnumEntry} :
      ix.enums.find? name = some e → Resolvable ix ⟨.enum, name⟩
  /-- A message of the index that is no map entry. -/
  | message {kind : Kind} {name : String} {e : MessageEntry} :
      kind.isMessage = true → ix.messages.find? name = some e → e.isMapEntry = false →
      Resolvable ix ⟨kind, name⟩
  /-- A map entry of the index, with a key and a value that are resolvable. -/
  | map {kind : Kind} {name : String} {e : MessageEntry} {types : MapTypes} :
      kind.isMessage = true → ix.messages.find? name = some e → e.isMapEntry = true →
      e.mapTypes = some types → Resolvable ix types.key → Resolvable ix types.value →
      ix.AcyclicFrom name → Resolvable ix ⟨kind, name⟩

/-! ## Circles

A circle through the map entry itself, or through one that it leads to, runs
through its key or its value. -/

theorem acyclicFrom_of_resolvable {type : TypeRef} (h : ix.Resolvable type)
    (hmap : ix.RefersToMap type name) : ix.AcyclicFrom name := by
  obtain ⟨hkind, rfl, e, he, hentry⟩ := hmap
  cases h with
  | scalar => cases hkind
  | enum => cases hkind
  | message _ he' hentry' =>
      rw [he] at he'
      cases he'
      rw [hentry] at hentry'
      cases hentry'
  | map _ _ _ _ _ _ hacyclic => exact hacyclic

theorem acyclicFrom_of_key_value {e : MessageEntry} {types : MapTypes}
    (he : ix.messages.find? name = some e) (htypes : e.mapTypes = some types)
    (hkey : ix.Resolvable types.key) (hvalue : ix.Resolvable types.value) :
    ix.AcyclicFrom name := by
  have hnext : ∀ next, ix.LeadsTo name next → ix.AcyclicFrom next := by
    rintro next ⟨e', types', he', -, htypes', hnext⟩
    rw [he] at he'
    cases he'
    rw [htypes] at htypes'
    cases htypes'
    rcases hnext with hnext | hnext
    · exact acyclicFrom_of_resolvable hkey hnext
    · exact acyclicFrom_of_resolvable hvalue hnext
  intro other hreach hcircle
  rcases hreach.cases_head with rfl | ⟨next, hstep, hrest⟩
  · obtain ⟨next, hstep, hrest⟩ := TransGen.head'_iff.mp hcircle
    exact hnext next hstep _ hrest hcircle
  · exact hnext next hstep other hrest hcircle

/-! ## The walk

`elementType` does not walk by itself: it is given what to do at a map entry.
So its law speaks of whatever it is given, and the induction is over the walk
through the map entries alone. -/

theorem message_eq_ok {e : MessageEntry} :
    ix.message name = .ok e ↔ ix.messages.find? name = some e := by
  unfold message
  cases ix.messages.find? name <;> simp

theorem enum_eq_ok {e : EnumEntry} : ix.enum name = .ok e ↔ ix.enums.find? name = some e := by
  unfold enum
  cases ix.enums.find? name <;> simp

theorem requireMapTypes_eq_ok {e : MessageEntry} {types : MapTypes} :
    e.requireMapTypes name = .ok types ↔ e.mapTypes = some types := by
  unfold MessageEntry.requireMapTypes
  cases e.mapTypes <;> simp

variable {enter : String → Traced TypeExpr}

theorem elementType_message {kind : Kind} (hkind : kind.isMessage = true) :
    ix.elementType here enter kind name = (do
      let e ← Traced.check (ix.message name)
      if e.isMapEntry then enter name else return reference here e.file e.package name) := by
  cases kind with
  | message => rfl
  | group => rfl
  | scalar s => cases hkind
  | enum => cases hkind
  | unknown code => cases hkind

theorem elementType_eq_of_map {kind : Kind} {e : MessageEntry} (hkind : kind.isMessage = true)
    (he : ix.messages.find? name = some e) (hentry : e.isMapEntry = true) :
    (ix.elementType here enter kind name).result = (enter name).result := by
  rw [elementType_message hkind, Traced.result_bind, message_eq_ok.mpr he]
  show (if e.isMapEntry then _ else _ : Traced TypeExpr).result = _
  rw [if_pos hentry]

theorem elementType_eq_of_message {kind : Kind} {e : MessageEntry}
    (hkind : kind.isMessage = true) (he : ix.messages.find? name = some e)
    (hentry : e.isMapEntry = false) :
    (ix.elementType here enter kind name).result
      = .ok (reference here e.file e.package name) := by
  rw [elementType_message hkind, Traced.result_bind, message_eq_ok.mpr he]
  show (if e.isMapEntry then _ else _ : Traced TypeExpr).result = _
  rw [if_neg (by simp [hentry])]
  rfl

theorem elementType_eq_of_enum {e : EnumEntry} (he : ix.enums.find? name = some e) :
    (ix.elementType here enter .enum name).result
      = .ok (reference here e.file e.package name) := by
  show (Traced.check (ix.enum name) >>= _).result = _
  rw [Traced.result_bind, enum_eq_ok.mpr he]
  rfl

theorem elementType_eq_of_scalar (s : Scalar) :
    (ix.elementType here enter (.scalar s) name).result = .ok (.primitive s.primitive) :=
  rfl

theorem resolvable_of_elementType {type : TypeRef}
    (henter : ∀ name e, ix.messages.find? name = some e → e.isMapEntry = true →
      (enter name).Succeeds → ∀ kind : Kind, kind.isMessage = true → ix.Resolvable ⟨kind, name⟩)
    (h : (ix.elementType here enter type.kind type.name).Succeeds) : ix.Resolvable type := by
  obtain ⟨kind, name⟩ := type
  by_cases hkind : kind.isMessage = true
  · have hfound := h
    rw [elementType_message hkind, Traced.succeeds_bind] at hfound
    obtain ⟨e, he, -⟩ := hfound
    have he := message_eq_ok.mp (Traced.result_check_eq_ok.mp he)
    cases hentry : e.isMapEntry with
    | false => exact .message hkind he hentry
    | true =>
        obtain ⟨t, ht⟩ := h
        rw [elementType_eq_of_map hkind he hentry] at ht
        exact henter name e he hentry ⟨t, ht⟩ kind hkind
  · cases kind with
    | message => exact absurd rfl hkind
    | group => exact absurd rfl hkind
    | scalar s => exact .scalar
    | enum =>
        obtain ⟨e, he, -⟩ := Traced.succeeds_bind.mp h
        exact .enum (enum_eq_ok.mp (Traced.result_check_eq_ok.mp he))
    | unknown code =>
        obtain ⟨p, hp, -⟩ := Traced.succeeds_bind.mp h
        cases Traced.result_check_eq_ok.mp hp

/-- The map that an entry stands for, given how a map entry is entered. -/
def entryType (ix : Index) (here : String) (enter : String → Traced TypeExpr) (name : String)
    (e : MessageEntry) : Traced TypeExpr := do
  let types ← Traced.check (e.requireMapTypes name)
  let key ← ix.elementType here enter types.key.kind types.key.name
  let value ← ix.elementType here enter types.value.kind types.value.name
  Traced.report (.resolvedMap name key value)
  return .map key value

theorem entryType_eq_ok {e : MessageEntry} {t : TypeExpr} :
    (ix.entryType here enter name e).result = .ok t ↔
      ∃ types key value, e.mapTypes = some types ∧
        (ix.elementType here enter types.key.kind types.key.name).result = .ok key ∧
        (ix.elementType here enter types.value.kind types.value.name).result = .ok value ∧
        t = .map key value := by
  constructor
  · intro h
    obtain ⟨types, htypes, h⟩ := Traced.result_bind_eq_ok.mp h
    obtain ⟨key, hkey, h⟩ := Traced.result_bind_eq_ok.mp h
    obtain ⟨value, hvalue, h⟩ := Traced.result_bind_eq_ok.mp h
    refine ⟨types, key, value, ?_, hkey, hvalue, ?_⟩
    · exact requireMapTypes_eq_ok.mp (Traced.result_check_eq_ok.mp htypes)
    · cases h
      rfl
  · rintro ⟨types, key, value, htypes, hkey, hvalue, rfl⟩
    refine Traced.result_bind_eq_ok.mpr ⟨types, ?_, ?_⟩
    · exact Traced.result_check_eq_ok.mpr (requireMapTypes_eq_ok.mpr htypes)
    · exact Traced.result_bind_eq_ok.mpr ⟨key, hkey,
        Traced.result_bind_eq_ok.mpr ⟨value, hvalue, rfl⟩⟩

theorem mapTypeWithin_eq {e : MessageEntry} (hopen : name ∉ opened)
    (he : ix.messages.find? name = some e) :
    ix.mapTypeWithin here opened name
      = ix.entryType here (ix.mapTypeWithin here (name :: opened)) name e := by
  rw [mapTypeWithin, dif_neg hopen]
  split
  next h => rw [he] at h; cases h
  next e' h => rw [he] at h; cases h; rfl

theorem notMem_of_mapTypeWithin (h : (ix.mapTypeWithin here opened name).Succeeds) :
    name ∉ opened := by
  intro hopen
  rw [mapTypeWithin, dif_pos hopen] at h
  exact Traced.not_succeeds_fail _ h

/-- A map entry stands for a map exactly if it is closed, has a key and a value, and both have
an expression while it is open. -/
theorem mapTypeWithin_eq_ok {e : MessageEntry} (he : ix.messages.find? name = some e)
    {t : TypeExpr} :
    (ix.mapTypeWithin here opened name).result = .ok t ↔
      name ∉ opened ∧ ∃ types key value, e.mapTypes = some types ∧
        (ix.elementType here (ix.mapTypeWithin here (name :: opened)) types.key.kind
          types.key.name).result = .ok key ∧
        (ix.elementType here (ix.mapTypeWithin here (name :: opened)) types.value.kind
          types.value.name).result = .ok value ∧
        t = .map key value := by
  constructor
  · intro h
    have hopen := notMem_of_mapTypeWithin ⟨t, h⟩
    rw [mapTypeWithin_eq hopen he] at h
    exact ⟨hopen, entryType_eq_ok.mp h⟩
  · rintro ⟨hopen, h⟩
    rw [mapTypeWithin_eq hopen he]
    exact entryType_eq_ok.mpr h

/-- A map entry that stands for a map is resolvable.  The induction is on the number of entries
that are not open. -/
theorem resolvable_of_mapTypeWithin (n : Nat) :
    ∀ (opened : List String) (name : String) (e : MessageEntry), ix.closedCount opened = n →
      ix.messages.find? name = some e → e.isMapEntry = true →
      (ix.mapTypeWithin here opened name).Succeeds →
      ∀ kind : Kind, kind.isMessage = true → ix.Resolvable ⟨kind, name⟩ := by
  induction n using Nat.strongRecOn with
  | ind n ih =>
      rintro opened name e rfl he hentry ⟨t, ht⟩ kind hkind
      obtain ⟨hopen, types, key, value, htypes, hk, hv, -⟩ := (mapTypeWithin_eq_ok he).mp ht
      have hnext := fun name' e' => ih _ (closedCount_lt he hopen) (name :: opened) name' e' rfl
      have hkey : ix.Resolvable types.key := resolvable_of_elementType hnext ⟨key, hk⟩
      have hvalue : ix.Resolvable types.value := resolvable_of_elementType hnext ⟨value, hv⟩
      exact .map hkind he hentry htypes hkey hvalue
        (acyclicFrom_of_key_value he htypes hkey hvalue)

/-- The map entries of a list all lead to the one that a type refers to, if it refers to one. -/
def LedTo (ix : Index) (opened : List String) (type : TypeRef) : Prop :=
  ∀ other ∈ opened, ∀ name, ix.RefersToMap type name → TransGen ix.LeadsTo other name

theorem ledTo_nil (type : TypeRef) : ix.LedTo [] type :=
  fun _ hm => absurd hm List.not_mem_nil

theorem LedTo.step {kind : Kind} {e : MessageEntry} {types : MapTypes} {next : TypeRef}
    (h : ix.LedTo opened ⟨kind, name⟩) (hkind : kind.isMessage = true)
    (he : ix.messages.find? name = some e) (hentry : e.isMapEntry = true)
    (htypes : e.mapTypes = some types) (hnext : next = types.key ∨ next = types.value) :
    ix.LedTo (name :: opened) next := by
  intro other hother target htarget
  have hlead : ix.LeadsTo name target := by
    refine ⟨e, types, he, hentry, htypes, ?_⟩
    rcases hnext with rfl | rfl
    · exact .inl htarget
    · exact .inr htarget
  rcases List.mem_cons.mp hother with rfl | hother
  · exact .single hlead
  · exact .tail (h other hother name ⟨hkind, rfl, e, he, hentry⟩) hlead

/-- A resolvable type has an expression while map entries are open that all lead to it. -/
theorem succeeds_elementType_of_resolvable {type : TypeRef} (h : ix.Resolvable type) :
    ∀ opened : List String, ix.LedTo opened type →
      (ix.elementType here (ix.mapTypeWithin here opened) type.kind type.name).Succeeds := by
  induction h with
  | scalar => exact fun _ _ => ⟨_, elementType_eq_of_scalar _⟩
  | enum he => exact fun _ _ => ⟨_, elementType_eq_of_enum he⟩
  | message hkind he hentry => exact fun _ _ => ⟨_, elementType_eq_of_message hkind he hentry⟩
  | @map kind name e types hkind he hentry htypes _ _ hacyclic ihk ihv =>
      intro opened hled
      -- an open entry that is met again would be reachable from itself
      have hopen : name ∉ opened := fun hm =>
        hacyclic name ReflTransGen.refl (hled name hm name ⟨hkind, rfl, e, he, hentry⟩)
      obtain ⟨key, hk⟩ := ihk (name :: opened) (hled.step hkind he hentry htypes (.inl rfl))
      obtain ⟨value, hv⟩ := ihv (name :: opened) (hled.step hkind he hentry htypes (.inr rfl))
      refine ⟨.map key value, ?_⟩
      rw [elementType_eq_of_map hkind he hentry]
      exact (mapTypeWithin_eq_ok he).mpr ⟨hopen, types, key, value, htypes, hk, hv, rfl⟩

/-- A type has an expression exactly if it is resolvable. -/
theorem succeeds_valueType {type : TypeRef} :
    (ix.valueType here type).Succeeds ↔ ix.Resolvable type := by
  constructor
  · intro h
    exact resolvable_of_elementType (fun name e => resolvable_of_mapTypeWithin _ [] name e rfl) h
  · intro h
    exact succeeds_elementType_of_resolvable h [] (ledTo_nil type)

end Index

end RpcStubs
