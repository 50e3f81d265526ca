/-
# Resolution ends exactly off cycles

A map entry is resolved by resolving its key and then its value, each of which
may be a map entry again.  Nothing in the rules themselves makes that end: a
map entry can lead back to itself.  `Index.mapType` keeps a list of the open
entries for that, and gives up at one that is met again.

This module relates that to the rules without the list.
`Index.mapTypeUpTo` follows them as they stand, but refuses to have more than a
given number of map entries open at once; resolution without a list does not
end exactly if it exceeds every such limit.  The results:

  * Resolution that ends has never more map entries open than the index has
    (`mapTypeUpTo_of_ends`).  This is a pigeonhole: the open entries are
    different map entries of the index.
  * It does not end exactly if the walk, key before value, comes back to an
    open entry before it meets a type that is missing, malformed or not
    supported (`Index.Reenters`).
  * An entry that is met again is reachable from itself, so that resolution
    ends where no cycle can be reached (`not_acyclic_of_reenters`).

For the second, let an open entry be met again.  Resolution with a limit would
have to resolve the same entry with a smaller limit on the way, and so on below
every limit.
-/
import Mathlib.Data.List.Basic
import Mathlib.Data.List.Perm.Subperm
import RpcStubs.Proofs.Comparison
import RpcStubs.Proofs.Resolvable
import RpcStubs.Proofs.Tables

namespace RpcStubs

open Relation

namespace Index

variable {ix ix' : Index} {here name : String} {opened : List String} {type : TypeRef}

/-! ## Resolution with a limit -/

/-- A name is that of a map entry of the index. -/
def IsMapEntry (ix : Index) (name : String) : Prop :=
  ∃ e, ix.messages.find? name = some e ∧ e.isMapEntry = true

/-- The number of map entries of an index. -/
def mapEntryCount (ix : Index) : Nat :=
  (ix.messages.entries.filter (·.2.isMapEntry)).length

/-- The map that an entry stands for, with no more than `limit` entries open at once.  The one entry
too many is not entered, and resolution counts as cyclic. -/
def mapTypeUpTo (ix : Index) (here : String) : (limit : Nat) → (name : String) → Traced TypeExpr
  | 0, _ => Traced.fail .cyclic
  | limit + 1, name =>
    match ix.messages.find? name with
    | none => Traced.refuse (.missingMessage name)
    | some e => ix.entryType here (mapTypeUpTo ix here limit) name e

/-- The type of one value of a kind, with no more than `limit` map entries open at once. -/
def valueTypeUpTo (ix : Index) (here : String) (limit : Nat) (type : TypeRef) : Traced TypeExpr :=
  ix.elementType here (ix.mapTypeUpTo here limit) type.kind type.name

theorem mapTypeUpTo_succ {e : MessageEntry} (he : ix.messages.find? name = some e) (limit : Nat) :
    ix.mapTypeUpTo here (limit + 1) name
      = ix.entryType here (ix.mapTypeUpTo here limit) name e := by
  rw [mapTypeUpTo, he]

/-! ## Comparing resolutions

What is compared at the map entries compares for every type. -/

end Index

namespace Comparison

open Index

variable (C : Comparison) {ix ix' : Index} {here : String} {enter enter' : String → Traced TypeExpr}

theorem elementType
    (hmessage : ∀ name, C.Rel (Traced.check (ix.message name)) (Traced.check (ix'.message name)))
    (henum : ∀ name, C.Rel (Traced.check (ix.enum name)) (Traced.check (ix'.enum name)))
    (henter : ∀ name, ix.IsMapEntry name → C.Rel (enter name) (enter' name))
    (kind : Kind) (name : String) :
    C.Rel (ix.elementType here enter kind name) (ix'.elementType here enter' kind name) := by
  have hmessages : kind.isMessage = true →
      C.Rel (ix.elementType here enter kind name) (ix'.elementType here enter' kind name) := by
    intro hkind
    rw [elementType_message hkind, elementType_message hkind]
    refine C.bind (hmessage name) fun e he => ?_
    have he := message_eq_ok.mp (Traced.result_check_eq_ok.mp he)
    split
    next hentry => exact henter name ⟨e, he, hentry⟩
    next => exact C.pure _
  cases kind with
  | message => exact hmessages rfl
  | group => exact hmessages rfl
  | enum => exact C.bind (henum name) fun e _ => C.pure _
  | scalar s => exact C.bind (C.check _) fun p _ => C.pure _
  | unknown code => exact C.bind (C.check _) fun p _ => C.pure _

theorem entryType
    (hmessage : ∀ name, C.Rel (Traced.check (ix.message name)) (Traced.check (ix'.message name)))
    (henum : ∀ name, C.Rel (Traced.check (ix.enum name)) (Traced.check (ix'.enum name)))
    (henter : ∀ name, ix.IsMapEntry name → C.Rel (enter name) (enter' name))
    (name : String) (e : MessageEntry) :
    C.Rel (ix.entryType here enter name e) (ix'.entryType here enter' name e) := by
  have helement := @Comparison.elementType C ix ix' here enter enter' hmessage henum henter
  refine C.bind (C.check _) fun types _ => ?_
  refine C.bind (helement _ _) fun key _ => ?_
  refine C.bind (helement _ _) fun value _ => ?_
  exact C.bind (C.report _) fun _ _ => C.pure _

end Comparison

namespace Index

variable {ix : Index} {here name : String} {opened : List String} {type : TypeRef}

/-! ## A limit that is enough -/

/-- If there are as many different open entries as the index has map entries, they are all
open. -/
theorem mem_of_mapEntryCount_le (hnodup : opened.Nodup) (hopened : ∀ o ∈ opened, ix.IsMapEntry o)
    (hcount : ix.mapEntryCount ≤ opened.length) (hname : ix.IsMapEntry name) : name ∈ opened := by
  by_contra hopen
  have hnames : name :: opened ⊆ (ix.messages.entries.filter (·.2.isMapEntry)).map (·.1) := by
    intro o ho
    obtain ⟨e, he, hentry⟩ := List.forall_mem_cons.mpr ⟨hname, hopened⟩ o ho
    exact List.mem_map.mpr
      ⟨(o, e), List.mem_filter.mpr ⟨Table.mem_entries_of_find? he, hentry⟩, rfl⟩
  have hlength := (List.nodup_cons.mpr ⟨hopen, hnodup⟩).length_le_of_subset hnames
  rw [List.length_map, List.length_cons] at hlength
  exact absurd (Nat.le_trans hlength hcount) (Nat.not_succ_le_self _)

/-- Where resolution ends, it does so with a limit that leaves room for every map entry that is
not open.  The induction is on the limit; at zero there is no map entry left to enter. -/
theorem mapTypeUpTo_of_ends (limit : Nat) :
    ∀ (opened : List String) (name : String), opened.Nodup → (∀ o ∈ opened, ix.IsMapEntry o) →
      ix.mapEntryCount ≤ limit + opened.length → ix.IsMapEntry name →
      (Comparison.sameUnless (· = .cyclic)).Rel (ix.mapTypeWithin here opened name)
        (ix.mapTypeUpTo here limit name) := by
  induction limit with
  | zero =>
      intro opened name hnodup hopened hcount hname hends
      rw [Nat.zero_add] at hcount
      rw [mapTypeWithin, dif_pos (mem_of_mapEntryCount_le hnodup hopened hcount hname)] at hends
      exact absurd rfl (Traced.ends_iff.mp hends)
  | succ limit ih =>
      intro opened name hnodup hopened hcount hname
      by_cases hopen : name ∈ opened
      · intro hends
        rw [mapTypeWithin, dif_pos hopen] at hends
        exact absurd rfl (Traced.ends_iff.mp hends)
      · obtain ⟨e, he, hentry⟩ := hname
        rw [mapTypeWithin_eq hopen he, mapTypeUpTo_succ he]
        refine Comparison.entryType _ (fun _ => Comparison.check _ _)
          (fun _ => Comparison.check _ _)
          ?_ name e
        intro next hnext
        refine ih (name :: opened) next (List.nodup_cons.mpr ⟨hopen, hnodup⟩) ?_ ?_ hnext
        · exact List.forall_mem_cons.mpr ⟨⟨e, he, hentry⟩, hopened⟩
        · rw [List.length_cons]
          omega

theorem valueTypeUpTo_of_ends (hends : (ix.valueType here type).Ends) {limit : Nat}
    (hlimit : ix.mapEntryCount ≤ limit) :
    ix.valueTypeUpTo here limit type = ix.valueType here type := by
  refine Comparison.elementType (.sameUnless (· = .cyclic)) (fun _ => Comparison.check _ _)
    (fun _ => Comparison.check _ _) ?_ type.kind type.name hends
  intro name hname
  exact mapTypeUpTo_of_ends limit [] name List.nodup_nil (fun o ho => absurd ho List.not_mem_nil)
    hlimit hname

theorem ends_valueTypeUpTo_mapEntryCount (hends : (ix.valueType here type).Ends) :
    (ix.valueTypeUpTo here ix.mapEntryCount type).Ends := by
  rw [valueTypeUpTo_of_ends hends (Nat.le_refl _)]
  exact hends

/-! ## Meeting an open entry again -/

/-- The walk through a type, key before value, comes back to an entry that is open before it meets
a type that cannot be resolved for another reason.  The value of an entry is walked through only
if its key can be resolved. -/
inductive Reenters (ix : Index) : List String → TypeRef → Prop
  /-- The entry itself is open. -/
  | again {opened : List String} {kind : Kind} {name : String} {e : MessageEntry} :
      kind.isMessage = true → ix.messages.find? name = some e → e.isMapEntry = true →
      name ∈ opened → Reenters ix opened ⟨kind, name⟩
  /-- On the way through its key. -/
  | key {opened : List String} {kind : Kind} {name : String} {e : MessageEntry}
      {types : MapTypes} :
      kind.isMessage = true → ix.messages.find? name = some e → e.isMapEntry = true →
      e.mapTypes = some types → name ∉ opened →
      Reenters ix (name :: opened) types.key → Reenters ix opened ⟨kind, name⟩
  /-- On the way through its value. -/
  | value {opened : List String} {kind : Kind} {name : String} {e : MessageEntry}
      {types : MapTypes} :
      kind.isMessage = true → ix.messages.find? name = some e → e.isMapEntry = true →
      e.mapTypes = some types → name ∉ opened → ix.Resolvable types.key →
      Reenters ix (name :: opened) types.value → Reenters ix opened ⟨kind, name⟩

variable {enter : String → Traced TypeExpr} {e : MessageEntry} {types : MapTypes}

theorem elementType_eq_cyclic :
    (ix.elementType here enter type.kind type.name).result = .error .cyclic ↔
      ix.RefersToMap type type.name ∧ (enter type.name).result = .error .cyclic := by
  obtain ⟨kind, name⟩ := type
  constructor
  · intro h
    by_cases hkind : kind.isMessage = true
    · have hfound := h
      rw [elementType_message hkind, Traced.result_bind_eq_error] at hfound
      rcases hfound with hfound | ⟨e, he, -⟩
      · exact absurd hfound Traced.check_ne_cyclic
      · have he := message_eq_ok.mp (Traced.result_check_eq_ok.mp he)
        cases hentry : e.isMapEntry with
        | false =>
            rw [elementType_eq_of_message hkind he hentry] at h
            cases h
        | true =>
            rw [elementType_eq_of_map hkind he hentry] at h
            exact ⟨⟨hkind, rfl, e, he, hentry⟩, h⟩
    · cases kind with
      | message => exact absurd rfl hkind
      | group => exact absurd rfl hkind
      | enum =>
          rcases Traced.result_bind_eq_error.mp h with h | ⟨_, _, h⟩
          · exact absurd h Traced.check_ne_cyclic
          · cases h
      | scalar s => cases h
      | unknown code => cases h
  · rintro ⟨⟨hkind, -, e, he, hentry⟩, h⟩
    rw [elementType_eq_of_map hkind he hentry]
    exact h

theorem entryType_eq_cyclic (htypes : e.mapTypes = some types) :
    (ix.entryType here enter name e).result = .error .cyclic ↔
      (ix.elementType here enter types.key.kind types.key.name).result = .error .cyclic ∨
      ((ix.elementType here enter types.key.kind types.key.name).Succeeds ∧
        (ix.elementType here enter types.value.kind types.value.name).result = .error .cyclic) := by
  have hcheck : (Traced.check (e.requireMapTypes name)).result = .ok types :=
    Traced.result_check_eq_ok.mpr (requireMapTypes_eq_ok.mpr htypes)
  unfold entryType
  rw [Traced.result_bind_eq_error]
  constructor
  · rintro (h | ⟨types', htypes', h⟩)
    · exact absurd h Traced.check_ne_cyclic
    · rw [hcheck] at htypes'
      cases htypes'
      rcases Traced.result_bind_eq_error.mp h with h | ⟨key, hkey, h⟩
      · exact .inl h
      · rcases Traced.result_bind_eq_error.mp h with h | ⟨value, _, h⟩
        · exact .inr ⟨⟨key, hkey⟩, h⟩
        · cases h
  · rintro (h | ⟨⟨key, hkey⟩, h⟩)
    · exact .inr ⟨types, hcheck, Traced.result_bind_eq_error.mpr (.inl h)⟩
    · refine .inr ⟨types, hcheck, Traced.result_bind_eq_error.mpr (.inr ⟨key, hkey, ?_⟩)⟩
      exact Traced.result_bind_eq_error.mpr (.inl h)

theorem entryType_ne_cyclic (htypes : e.mapTypes = none) :
    (ix.entryType here enter name e).result ≠ .error .cyclic := by
  have hcheck : Traced.check (e.requireMapTypes name)
      = Traced.refuse (.malformedMapEntry name) := by
    unfold MessageEntry.requireMapTypes
    rw [htypes]
    rfl
  unfold entryType
  rw [hcheck]
  intro h
  cases h

/-- If resolution gives up, the walk comes back to an open entry.  The induction is on the number
of entries that are not open. -/
theorem reenters_of_cyclic (n : Nat) :
    ∀ (opened : List String) (type : TypeRef), ix.closedCount opened = n →
      (ix.elementType here (ix.mapTypeWithin here opened) type.kind type.name).result
        = .error .cyclic → ix.Reenters opened type := by
  induction n using Nat.strongRecOn with
  | ind n ih =>
      rintro opened ⟨kind, name⟩ rfl h
      obtain ⟨⟨hkind, -, e, he, hentry⟩, h⟩ := elementType_eq_cyclic.mp h
      by_cases hopen : name ∈ opened
      · exact .again hkind he hentry hopen
      · rw [mapTypeWithin_eq hopen he] at h
        have hless := closedCount_lt he hopen
        cases htypes : e.mapTypes with
        | none => exact absurd h (entryType_ne_cyclic htypes)
        | some types =>
            rcases (entryType_eq_cyclic htypes).mp h with hkey | ⟨hkey, hvalue⟩
            · exact .key hkind he hentry htypes hopen (ih _ hless _ _ rfl hkey)
            · have hkey := resolvable_of_elementType
                (fun name' e' => resolvable_of_mapTypeWithin _ _ name' e' rfl) hkey
              exact .value hkind he hentry htypes hopen hkey (ih _ hless _ _ rfl hvalue)

/-! ## No limit is enough -/

theorem ends_valueTypeUpTo {kind : Kind} (hkind : kind.isMessage = true)
    (he : ix.messages.find? name = some e) (hentry : e.isMapEntry = true) {limit : Nat} :
    (ix.valueTypeUpTo here limit ⟨kind, name⟩).Ends ↔ (ix.mapTypeUpTo here limit name).Ends := by
  rw [Traced.ends_iff, Traced.ends_iff, valueTypeUpTo, elementType_eq_of_map hkind he hentry]

/-- Resolving an entry within a limit resolves a type on the way, within a smaller one. -/
def Requires (ix : Index) (here name : String) (type : TypeRef) : Prop :=
  ∀ limit, (ix.mapTypeUpTo here limit name).Ends →
    ∃ less, less < limit ∧ (ix.valueTypeUpTo here less type).Ends

theorem ends_key_value (he : ix.messages.find? name = some e) (htypes : e.mapTypes = some types)
    {limit : Nat} (h : (ix.mapTypeUpTo here limit name).Ends) :
    ∃ less, limit = less + 1 ∧ (ix.valueTypeUpTo here less types.key).Ends ∧
      ((ix.valueTypeUpTo here less types.key).Succeeds →
        (ix.valueTypeUpTo here less types.value).Ends) := by
  cases limit with
  | zero => exact absurd rfl (Traced.ends_iff.mp h)
  | succ less =>
      rw [Traced.ends_iff, mapTypeUpTo_succ he, Ne, entryType_eq_cyclic htypes, not_or,
        not_and] at h
      exact ⟨less, rfl, Traced.ends_iff.mpr h.1, fun hkey => Traced.ends_iff.mpr (h.2 hkey)⟩

theorem succeeds_valueTypeUpTo (h : ix.Resolvable type) :
    ∀ limit, (ix.valueTypeUpTo here limit type).Ends →
      (ix.valueTypeUpTo here limit type).Succeeds := by
  induction h with
  | scalar => exact fun _ _ => ⟨_, elementType_eq_of_scalar _⟩
  | enum he => exact fun _ _ => ⟨_, elementType_eq_of_enum he⟩
  | message hkind he hentry => exact fun _ _ => ⟨_, elementType_eq_of_message hkind he hentry⟩
  | map hkind he hentry htypes _ _ _ ihk ihv =>
      intro limit hends
      rw [ends_valueTypeUpTo hkind he hentry] at hends
      obtain ⟨less, rfl, hkey, hvalue⟩ := ends_key_value he htypes hends
      obtain ⟨key, hk⟩ := ihk less hkey
      obtain ⟨value, hv⟩ := ihv less (hvalue ⟨key, hk⟩)
      refine ⟨.map key value, ?_⟩
      rw [valueTypeUpTo, elementType_eq_of_map hkind he hentry, mapTypeUpTo_succ he]
      exact entryType_eq_ok.mpr ⟨_, key, value, htypes, hk, hv, rfl⟩

theorem requires_key (he : ix.messages.find? name = some e) (htypes : e.mapTypes = some types) :
    ix.Requires here name types.key := by
  intro limit hends
  obtain ⟨less, rfl, hkey, -⟩ := ends_key_value he htypes hends
  exact ⟨less, Nat.lt_succ_self less, hkey⟩

theorem requires_value (he : ix.messages.find? name = some e) (htypes : e.mapTypes = some types)
    (hkey : ix.Resolvable types.key) : ix.Requires here name types.value := by
  intro limit hends
  obtain ⟨less, rfl, hk, hvalue⟩ := ends_key_value he htypes hends
  exact ⟨less, Nat.lt_succ_self less, hvalue (succeeds_valueTypeUpTo hkey less hk)⟩

theorem forall_requires_cons {next : TypeRef}
    (hopened : ∀ o ∈ opened, ix.Requires here o type)
    (hstep : ∀ limit, (ix.valueTypeUpTo here limit type).Ends →
      (ix.mapTypeUpTo here limit name).Ends)
    (hnext : ix.Requires here name next) : ∀ o ∈ name :: opened, ix.Requires here o next := by
  intro o ho
  rcases List.mem_cons.mp ho with rfl | ho
  · exact hnext
  · intro limit hends
    obtain ⟨less, hless, hends⟩ := hopened o ho limit hends
    obtain ⟨lesser, hlesser, hends⟩ := hnext less (hstep less hends)
    exact ⟨lesser, Nat.lt_trans hlesser hless, hends⟩

/-- If the walk comes back to an open entry, no limit is enough: an open entry that is resolved
within a limit would be resolved on the way within a smaller one. -/
theorem not_ends_of_reenters (h : ix.Reenters opened type) :
    (∀ o ∈ opened, ix.Requires here o type) →
      ∀ limit, ¬ (ix.valueTypeUpTo here limit type).Ends := by
  induction h with
  | again hkind he hentry hopen =>
      intro hopened limit
      induction limit using Nat.strongRecOn with
      | ind limit ih =>
          intro hends
          obtain ⟨less, hless, hends⟩ :=
            hopened _ hopen limit ((ends_valueTypeUpTo hkind he hentry).mp hends)
          exact ih less hless hends
  | @key _ _ name _ types hkind he hentry htypes _ _ ih =>
      intro hopened limit hends
      have hrequires : ix.Requires here name types.key := requires_key he htypes
      have hentered := fun limit => (@ends_valueTypeUpTo _ here _ _ _ hkind he hentry limit).mp
      obtain ⟨less, -, hkey⟩ := hrequires limit (hentered limit hends)
      exact ih (forall_requires_cons hopened hentered hrequires) less hkey
  | @value _ _ name _ types hkind he hentry htypes _ hkey _ ih =>
      intro hopened limit hends
      have hrequires : ix.Requires here name types.value := requires_value he htypes hkey
      have hentered := fun limit => (@ends_valueTypeUpTo _ here _ _ _ hkind he hentry limit).mp
      obtain ⟨less, -, hvalue⟩ := hrequires limit (hentered limit hends)
      exact ih (forall_requires_cons hopened hentered hrequires) less hvalue

theorem not_ends_valueTypeUpTo (h : ix.Reenters [] type) (limit : Nat) :
    ¬ (ix.valueTypeUpTo here limit type).Ends :=
  not_ends_of_reenters h (fun _ ho => absurd ho List.not_mem_nil) limit

/-! ## Cycles -/

theorem AcyclicFrom.step {other : String} (h : ix.AcyclicFrom name)
    (hstep : ix.LeadsTo name other) :
    ix.AcyclicFrom other :=
  fun target hreach => h target (hreach.head hstep)

theorem refersToMap_of_reenters (h : ix.Reenters opened type) : ix.RefersToMap type type.name := by
  cases h with
  | again hkind he hentry => exact ⟨hkind, rfl, _, he, hentry⟩
  | key hkind he hentry => exact ⟨hkind, rfl, _, he, hentry⟩
  | value hkind he hentry => exact ⟨hkind, rfl, _, he, hentry⟩

theorem not_acyclic_of_reenters (h : ix.Reenters opened type) :
    ix.LedTo opened type → ¬ ix.AcyclicFrom type.name := by
  induction h with
  | again hkind he hentry hopen =>
      intro hled hacyclic
      exact hacyclic _ .refl (hled _ hopen _ ⟨hkind, rfl, _, he, hentry⟩)
  | key hkind he hentry htypes _ hkey ih =>
      intro hled hacyclic
      refine ih (hled.step hkind he hentry htypes (.inl rfl)) (hacyclic.step ?_)
      exact ⟨_, _, he, hentry, htypes, .inl (refersToMap_of_reenters hkey)⟩
  | value hkind he hentry htypes _ _ hvalue ih =>
      intro hled hacyclic
      refine ih (hled.step hkind he hentry htypes (.inr rfl)) (hacyclic.step ?_)
      exact ⟨_, _, he, hentry, htypes, .inr (refersToMap_of_reenters hvalue)⟩

/-- Resolution gives up exactly if the walk comes back to an open entry. -/
theorem valueType_eq_cyclic :
    (ix.valueType here type).result = .error .cyclic ↔ ix.Reenters [] type := by
  constructor
  · exact reenters_of_cyclic _ [] type rfl
  · intro h
    by_contra hends
    exact not_ends_valueTypeUpTo h ix.mapEntryCount
      (ends_valueTypeUpTo_mapEntryCount (Traced.ends_iff.mpr hends))

theorem ends_valueType (h : ∀ name, ix.RefersToMap type name → ix.AcyclicFrom name) :
    (ix.valueType here type).Ends := by
  rw [Traced.ends_iff, Ne, valueType_eq_cyclic]
  intro hreenters
  exact not_acyclic_of_reenters hreenters (ledTo_nil type)
    (h _ (refersToMap_of_reenters hreenters))

theorem forall_valueTypeUpTo_eq_cyclic :
    (∀ limit, (ix.valueTypeUpTo here limit type).result = .error .cyclic) ↔
      ix.Reenters [] type := by
  constructor
  · intro h
    rw [← @valueType_eq_cyclic ix here]
    by_contra hends
    exact Traced.ends_iff.mp (ends_valueTypeUpTo_mapEntryCount (Traced.ends_iff.mpr hends))
      (h ix.mapEntryCount)
  · intro h limit
    by_contra hends
    exact not_ends_valueTypeUpTo h limit (Traced.ends_iff.mpr hends)

/-- Resolution ends exactly off cycles.

If no map entry that can be reached from a type is reachable from itself, the type has an
expression or there is a stated cause why it has none, and no more map entries are open at once
than the index has.  No limit on the open entries is enough exactly if the walk comes back to an
open entry before it meets anything else that stops it, and that is where resolution gives up. -/
theorem resolution_ends_exactly_off_cycles (ix : Index) (here : String) (type : TypeRef) :
    ((∀ name, ix.RefersToMap type name → ix.AcyclicFrom name) →
      ∃ outcome : Except GenerationError TypeExpr,
        (ix.valueType here type).result = outcome.mapError .invalid ∧
        ∀ limit, ix.mapEntryCount ≤ limit →
          (ix.valueTypeUpTo here limit type).result = outcome.mapError .invalid) ∧
    ((∀ limit, (ix.valueTypeUpTo here limit type).result = .error .cyclic) ↔
      ix.Reenters [] type) ∧
    ((ix.valueType here type).result = .error .cyclic ↔ ix.Reenters [] type) := by
  refine ⟨?_, forall_valueTypeUpTo_eq_cyclic, valueType_eq_cyclic⟩
  intro hacyclic
  have hends : (ix.valueType here type).Ends := ends_valueType hacyclic
  obtain ⟨outcome, houtcome⟩ := Traced.exists_of_ends hends
  refine ⟨outcome, houtcome, fun limit hlimit => ?_⟩
  rw [valueTypeUpTo_of_ends hends hlimit, houtcome]

/-! ## An instance

A map of maps, a map entry that leads back to itself through its value, and one that would if its
key were not missing. -/

namespace Ledger

def entry (key value : TypeRef) : MessageEntry where
  package := ""
  file := "ledger.proto"
  isMapEntry := true
  mapTypes := some ⟨key, value⟩

def index : Index where
  messages := ⟨[
    ("Accounts", entry ⟨.scalar .string, ""⟩ ⟨.message, "Balances"⟩),
    ("Balances", entry ⟨.scalar .int32, ""⟩ ⟨.scalar .double, ""⟩),
    ("Loop", entry ⟨.message, "Balances"⟩ ⟨.group, "Loop"⟩),
    ("Broken", entry ⟨.enum, "Missing"⟩ ⟨.message, "Broken"⟩)]⟩

theorem resolvable_balances : index.Resolvable ⟨.message, "Balances"⟩ :=
  .map rfl rfl rfl rfl .scalar .scalar (acyclicFrom_of_key_value rfl rfl .scalar .scalar)

theorem acyclicFrom_accounts : index.AcyclicFrom "Accounts" :=
  acyclicFrom_of_key_value rfl rfl .scalar resolvable_balances

theorem reenters_loop : index.Reenters [] ⟨.message, "Loop"⟩ :=
  .value rfl rfl rfl rfl List.not_mem_nil resolvable_balances
    (.again rfl rfl rfl List.mem_cons_self)

end Ledger

theorem resolution_ends_exactly_off_cycles_ledger :
    (∀ name, Ledger.index.RefersToMap ⟨.message, "Accounts"⟩ name → Ledger.index.AcyclicFrom name) ∧
    (∀ limit, 4 ≤ limit →
      (Ledger.index.valueTypeUpTo "ledger.proto" limit ⟨.message, "Accounts"⟩).result
        = .ok (.map (.primitive .string) (.map (.primitive .number) (.primitive .number)))) ∧
    (∀ limit, (Ledger.index.valueTypeUpTo "ledger.proto" limit ⟨.message, "Loop"⟩).result
      = .error .cyclic) ∧
    ¬ Ledger.index.Reenters [] ⟨.message, "Broken"⟩ := by
  have hacyclic : ∀ name, Ledger.index.RefersToMap ⟨.message, "Accounts"⟩ name →
      Ledger.index.AcyclicFrom name := by
    rintro name ⟨-, rfl, -⟩
    exact Ledger.acyclicFrom_accounts
  refine ⟨hacyclic, ?_, ?_, ?_⟩
  · obtain ⟨outcome, -, houtcome⟩ := (resolution_ends_exactly_off_cycles Ledger.index
      "ledger.proto" ⟨.message, "Accounts"⟩).1 hacyclic
    intro limit hlimit
    rw [houtcome limit hlimit, ← houtcome 4 (by decide)]
    rfl
  · exact (resolution_ends_exactly_off_cycles _ _ _).2.1.mpr Ledger.reenters_loop
  · rw [← (resolution_ends_exactly_off_cycles Ledger.index "ledger.proto" _).2.1]
    intro h
    cases h 4

end Index

end RpcStubs
