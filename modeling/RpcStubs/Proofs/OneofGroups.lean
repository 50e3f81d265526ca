/-
# Oneof groups

The fields of a message are sorted into its oneof groups in one pass.  The pass
keeps a list of fields for every group and marks the groups that have an
optional field, and it stops at the first field whose group is not declared.
Only at the end the groups are put beside their declarations, by position, and
the marked ones are dropped.

`Grouping.Gathers` is what the pass has reached after some of the fields: every
group has its own fields among them, in order, and a group is marked exactly if
one of them is optional.  One step keeps it, so the whole pass does; what is
left is to read off the outcome (`oneofGroups_eq`).

The main result says this without the pass (`oneofs_grouped_exactly`): what is
refused and for which field, which groups there are, and that no field is lost
on the way or turns up twice.
-/
import RpcStubs.MessageModule
import RpcStubs.Proofs.Success

namespace RpcStubs

namespace Message

/-- Whether an index is that of a declared oneof group. -/
def declaresOneof (m : Message) (index : Int) : Bool :=
  0 ≤ index && index < m.oneofs.length

/-- The first field that belongs to a oneof group that is not declared. -/
def strayOneof? (m : Message) : Option (Field × Int) :=
  m.fields.findSome? fun f =>
    match f.oneofIndex with
    | some index => if m.declaresOneof index then none else some (f, index)
    | none => none

/-- The fields of the oneof group with an index. -/
def oneofFields (m : Message) (index : Nat) : List Field :=
  m.fields.filter (·.oneofIndex == some (index : Int))

variable {m : Message}

theorem declaresOneof_iff {index : Int} :
    m.declaresOneof index = true ↔ 0 ≤ index ∧ index < m.oneofs.length := by
  simp [declaresOneof]

theorem strayOneof?_eq_none :
    m.strayOneof? = none ↔ ∀ f ∈ m.fields, ∀ index : Int, f.oneofIndex = some index →
      0 ≤ index ∧ index < m.oneofs.length := by
  unfold strayOneof?
  rw [List.findSome?_eq_none_iff]
  refine forall₂_congr fun f _ => ?_
  cases f.oneofIndex with
  | none => simp
  | some index => simp [← declaresOneof_iff]

/-- A field is the first one that belongs to a oneof group that is not declared. -/
structure FirstStray (m : Message) (f : Field) (index : Int) : Prop where
  belongs : f.oneofIndex = some index
  undeclared : index < 0 ∨ m.oneofs.length ≤ index
  first : ∃ before after, m.fields = before ++ f :: after ∧
    ∀ g ∈ before, ∀ i : Int, g.oneofIndex = some i → 0 ≤ i ∧ i < m.oneofs.length

theorem strayOneof?_eq_some {f : Field} {index : Int} :
    m.strayOneof? = some (f, index) ↔ m.FirstStray f index := by
  have hstray : ∀ g : Field, (match g.oneofIndex with
      | some i => if m.declaresOneof i then none else some (g, i)
      | none => none) = (none : Option (Field × Int)) ↔
      ∀ i : Int, g.oneofIndex = some i → 0 ≤ i ∧ i < m.oneofs.length := by
    intro g
    cases g.oneofIndex with
    | none => simp
    | some i => simp [← declaresOneof_iff]
  unfold strayOneof?
  rw [List.findSome?_eq_some_iff]
  constructor
  · rintro ⟨before, g, after, hfields, hg, hbefore⟩
    cases hindex : g.oneofIndex with
    | none =>
        rw [hindex] at hg
        cases hg
    | some i =>
        rw [hindex] at hg
        dsimp only at hg
        split at hg
        next => cases hg
        next hundeclared =>
          cases hg
          rw [declaresOneof_iff] at hundeclared
          exact ⟨hindex, by omega, before, after, hfields,
            fun g hg => (hstray g).mp (hbefore g hg)⟩
  · rintro ⟨hindex, hundeclared, before, after, hfields, hbefore⟩
    refine ⟨before, f, after, hfields, ?_, fun g hg => (hstray g).mpr (hbefore g hg)⟩
    have hno : ¬ m.declaresOneof index = true := by
      rw [declaresOneof_iff]
      omega
    rw [hindex]
    dsimp only
    rw [if_neg hno]

end Message

/-! ## The pass -/

namespace Grouping

variable {g : Grouping} {n : Nat} {fs rest : List Field} {f : Field}

/-- What has been gathered from some of the fields: each of the groups has its own, in order, and is
marked if one of them is optional. -/
structure Gathers (n : Nat) (fs : List Field) (g : Grouping) : Prop where
  members : g.members = (List.range n).map fun i : Nat => fs.filter (·.oneofIndex == some (i : Int))
  synthetic : ∀ i : Nat, i ∈ g.synthetic ↔
    ∃ f ∈ fs, f.oneofIndex = some (i : Int) ∧ f.proto3Optional = true

theorem gathers_nil (oneofs : List String) :
    Gathers oneofs.length [] { members := oneofs.map fun _ => [] } where
  members := by simp [List.map_const']
  synthetic := by simp

theorem modify_members {k : Nat} (hf : f.oneofIndex = some (k : Int)) :
    ((List.range n).map fun i : Nat => fs.filter (·.oneofIndex == some (i : Int))).modify k
      (· ++ [f])
      = (List.range n).map fun i : Nat => (fs ++ [f]).filter (·.oneofIndex == some (i : Int)) := by
  refine List.ext_getElem? fun i => ?_
  rw [List.getElem?_modify, List.getElem?_map, List.getElem?_map]
  by_cases hi : i < n
  · by_cases hik : k = i
    · subst hik
      simp [hi, hf]
    · have hne : ¬ (k : Int) = i := by omega
      simp [hi, hik, hf, hne]
  · simp [hi]

/-- A step: a field that belongs to no group, or to one that is there, is sorted in. -/
theorem Gathers.add (message : String) (h : Gathers n fs g)
    (hf : ∀ index : Int, f.oneofIndex = some index → 0 ≤ index ∧ index < n) :
    ∃ g', g.add message f = .ok g' ∧ Gathers n (fs ++ [f]) g' := by
  have hlength : g.members.length = n := by simp [h.members]
  unfold Grouping.add
  cases hindex : f.oneofIndex with
  | none =>
      refine ⟨g, rfl, ?_, ?_⟩
      · simp [h.members, List.filter_append, hindex]
      · simp [h.synthetic, or_and_right, exists_or, hindex]
  | some index =>
      obtain ⟨hnonneg, hlt⟩ := hf index hindex
      obtain ⟨k, rfl⟩ := Int.eq_ofNat_of_zero_le hnonneg
      refine ⟨_, if_pos ⟨hnonneg, by rw [hlength]; exact hlt⟩, ?_, ?_⟩
      · show g.members.modify k _ = _
        rw [h.members, modify_members hindex]
      · intro i
        show i ∈ (if f.proto3Optional = true then k :: g.synthetic else g.synthetic) ↔ _
        by_cases hoptional : f.proto3Optional = true
        · have hcast : (k : Int) = i ↔ i = k := by omega
          simp [hoptional, h.synthetic, or_and_right, exists_or, hindex, hcast, or_comm]
        · simp [hoptional, h.synthetic, or_and_right, exists_or]

theorem Gathers.add_eq_error (message : String) (h : Gathers n fs g) {index : Int}
    (hindex : f.oneofIndex = some index) (hundeclared : index < 0 ∨ n ≤ index) :
    g.add message f = .error (.undeclaredOneof message f.name index) := by
  have hlength : g.members.length = n := by simp [h.members]
  unfold Grouping.add
  rw [hindex]
  exact if_neg (by omega)

/-- A run: what one step keeps, all steps keep. -/
theorem Gathers.foldlM (message : String) (h : Gathers n fs g)
    (hrest : ∀ f ∈ rest, ∀ index : Int, f.oneofIndex = some index → 0 ≤ index ∧ index < n) :
    ∃ g', rest.foldlM (Grouping.add message) g = .ok g' ∧ Gathers n (fs ++ rest) g' := by
  induction rest generalizing fs g with
  | nil => exact ⟨g, rfl, by rwa [List.append_nil]⟩
  | cons f rest ih =>
      rw [List.forall_mem_cons] at hrest
      obtain ⟨next, hnext, hgathers⟩ := h.add message hrest.1
      obtain ⟨last, hlast, hall⟩ := ih hgathers hrest.2
      refine ⟨last, ?_, ?_⟩
      · rw [List.foldlM_cons, hnext]
        exact hlast
      · rwa [List.append_assoc] at hall

end Grouping

namespace Message

variable {m : Message}

theorem zipIdx_zip_members {g : Grouping} (h : Grouping.Gathers m.oneofs.length m.fields g) :
    (m.oneofs.zip g.members).zipIdx = m.oneofs.zipIdx.map fun p =>
      ((p.1, m.oneofFields p.2), p.2) := by
  refine List.ext_getElem? fun i => ?_
  rw [h.members, List.getElem?_zipIdx, List.getElem?_map, List.getElem?_zipIdx]
  by_cases hi : i < m.oneofs.length
  · simp [hi, oneofFields]
  · simp [hi]

/-- The oneof groups of a message, without the pass. -/
theorem oneofGroups_eq (m : Message) : m.oneofGroups = match m.strayOneof? with
    | some (f, index) => .error (.undeclaredOneof m.name f.name index)
    | none => .ok ((m.oneofs.zipIdx.map fun p => (p.1, m.oneofFields p.2)).filter fun g =>
        !g.2.any (·.proto3Optional)) := by
  have hstart := Grouping.gathers_nil m.oneofs
  unfold oneofGroups
  cases hstray : m.strayOneof? with
  | none =>
      obtain ⟨g, hg, hgathers⟩ := hstart.foldlM m.name (strayOneof?_eq_none.mp hstray)
      rw [List.nil_append] at hgathers
      rw [hg]
      refine congrArg Except.ok ?_
      rw [zipIdx_zip_members hgathers, List.filter_map, List.map_map, List.filter_map]
      refine congrArg (List.map _) (List.filter_congr fun p _ => ?_)
      rw [Bool.eq_iff_iff]
      simp [hgathers.synthetic, oneofFields]
  | some p =>
      obtain ⟨f, index⟩ := p
      obtain ⟨hindex, hundeclared, before, after, hfields, hbefore⟩ := strayOneof?_eq_some.mp hstray
      obtain ⟨g, hg, hgathers⟩ := hstart.foldlM m.name hbefore
      rw [hfields, List.foldlM_append, hg]
      show ((after.foldlM _ =<< g.add m.name f) >>= _) = _
      rw [hgathers.add_eq_error m.name hindex hundeclared]
      rfl

theorem oneofGroups_eq_ok :
    (∃ groups, m.oneofGroups = .ok groups) ↔
      ∀ f ∈ m.fields, ∀ index : Int, f.oneofIndex = some index →
        0 ≤ index ∧ index < m.oneofs.length := by
  rw [← strayOneof?_eq_none, oneofGroups_eq]
  cases m.strayOneof? with
  | none => simp
  | some p => simp

theorem oneofGroups_eq_error {e : GenerationError} :
    m.oneofGroups = .error e ↔
      ∃ f index, m.FirstStray f index ∧ e = .undeclaredOneof m.name f.name index := by
  simp only [← strayOneof?_eq_some]
  rw [oneofGroups_eq]
  cases m.strayOneof? with
  | none => simp
  | some p =>
      obtain ⟨f, index⟩ := p
      simp [eq_comm]

/-! ## The outcome -/

/-- A oneof group stands for the presence of a field: one of its fields is optional. -/
def Synthetic (m : Message) (i : Nat) : Prop :=
  ∃ f ∈ m.fields, f.oneofIndex = some (i : Int) ∧ f.proto3Optional = true

/-- A group is that of an index: it has its declaration and its fields, in their order. -/
structure IsGroup (m : Message) (i : Nat) (g : String × List Field) : Prop where
  declaration : m.oneofs[i]? = some g.1
  fields : g.2 = m.fields.filter (·.oneofIndex == some (i : Int))

/-- A field stands in the group of its index as often as in the message, and in no other group. -/
def InOwnGroup (m : Message) (groups : List (String × List Field)) (f : Field) (i : Nat) : Prop :=
  ∃ (k : Nat) (g : String × List Field), groups[k]? = some g ∧ m.IsGroup i g ∧
    g.2.count f = m.fields.count f ∧
    ∀ (k' : Nat) (g' : String × List Field), groups[k']? = some g' → f ∈ g'.2 → k' = k

/-- Groups are those that a message declares, in their order, without those that stand for the
presence of a field. -/
structure GroupedAs (m : Message) (groups : List (String × List Field)) : Prop where
  declared : ∃ kept : List Nat, kept.Pairwise (· < ·) ∧
    (∀ i, i ∈ kept ↔ i < m.oneofs.length ∧ ¬ m.Synthetic i) ∧ List.Forall₂ m.IsGroup kept groups
  belongs : ∀ f ∈ m.fields, ∀ index, f.oneofIndex = some index → ∃ i : Nat, index = i ∧
    ((m.Synthetic i ∧ ∀ g ∈ groups, f ∉ g.2) ∨ (¬ m.Synthetic i ∧ m.InOwnGroup groups f i))
  unset : ∀ f ∈ m.fields, f.oneofIndex = none → ∀ g ∈ groups, f ∉ g.2

theorem synthetic_iff {i : Nat} :
    m.Synthetic i ↔ (m.oneofFields i).any (·.proto3Optional) = true := by
  simp [Synthetic, oneofFields]

theorem IsGroup.index_eq {i : Nat} {g : String × List Field} (h : m.IsGroup i g) {f : Field}
    (hf : f ∈ g.2) : f.oneofIndex = some (i : Int) := by
  rw [h.fields] at hf
  simpa using (List.mem_filter.mp hf).2

variable {groups : List (String × List Field)}

theorem exists_kept (h : m.oneofGroups = .ok groups) :
    ∃ kept : List Nat, kept.Pairwise (· < ·) ∧
      (∀ i, i ∈ kept ↔ i < m.oneofs.length ∧ ¬ m.Synthetic i) ∧
      List.Forall₂ m.IsGroup kept groups := by
  rw [oneofGroups_eq] at h
  split at h
  next => cases h
  next =>
    cases h
    refine ⟨(List.range m.oneofs.length).filter fun i => !(m.oneofFields i).any (·.proto3Optional),
      List.pairwise_lt_range.filter _, fun i => ?_, ?_⟩
    · rw [synthetic_iff]
      simp
    · rw [List.range_eq_range', ← List.zipIdx_map_snd, List.filter_map, List.filter_map,
        List.forall₂_map_left_iff, List.forall₂_map_right_iff]
      refine List.forall₂_same.mpr fun p hp => ?_
      have hp := List.mem_zipIdx_iff_getElem?.mp (List.mem_of_mem_filter hp)
      exact ⟨hp, rfl⟩

theorem inOwnGroup_of_kept {kept : List Nat} (hsorted : kept.Pairwise (· < ·))
    (hgroups : List.Forall₂ m.IsGroup kept groups) {f : Field} {i : Nat} (hi : i ∈ kept)
    (hf : f.oneofIndex = some (i : Int)) : m.InOwnGroup groups f i := by
  obtain ⟨k, hk⟩ := List.mem_iff_getElem?.mp hi
  obtain ⟨g, hg, hgroup⟩ := getElem?_of_forall₂ hgroups.flip hk
  refine ⟨k, g, hg, hgroup, ?_, ?_⟩
  · rw [hgroup.fields]
    exact List.count_filter (by simpa using hf)
  · intro k' g' hg' hf'
    obtain ⟨i', hk', hgroup'⟩ := getElem?_of_forall₂ hgroups hg'
    have hindex := hgroup'.index_eq hf'
    rw [hf] at hindex
    obtain rfl : i = i' := Int.ofNat.inj (Option.some.inj hindex)
    have hlt : k' < kept.length := (List.getElem?_eq_some_iff.mp hk').1
    exact (List.getElem?_inj hlt (hsorted.imp Nat.ne_of_lt)).mp (hk'.trans hk.symm)

theorem groupedAs_of_oneofGroups (h : m.oneofGroups = .ok groups) : m.GroupedAs groups := by
  obtain ⟨kept, hsorted, hkept, hgroups⟩ := exists_kept h
  have hindex : ∀ f, ∀ g ∈ groups, f ∈ g.2 → ∃ i ∈ kept, f.oneofIndex = some (i : Int) := by
    intro f g hg hf
    obtain ⟨i, hi, hgroup⟩ := exists_of_forall₂ hgroups.flip hg
    exact ⟨i, hi, hgroup.index_eq hf⟩
  refine ⟨⟨kept, hsorted, hkept, hgroups⟩, ?_, ?_⟩
  · intro f hf index hfindex
    obtain ⟨hnonneg, hlt⟩ := oneofGroups_eq_ok.mp ⟨groups, h⟩ f hf index hfindex
    obtain ⟨i, rfl⟩ := Int.eq_ofNat_of_zero_le hnonneg
    refine ⟨i, rfl, ?_⟩
    by_cases hsynthetic : m.Synthetic i
    · refine .inl ⟨hsynthetic, fun g hg hmem => ?_⟩
      obtain ⟨i', hi', hf'⟩ := hindex f g hg hmem
      rw [hfindex] at hf'
      cases hf'
      exact ((hkept i).mp hi').2 hsynthetic
    · have hi : i ∈ kept := (hkept i).mpr ⟨by omega, hsynthetic⟩
      exact .inr ⟨hsynthetic, inOwnGroup_of_kept hsorted hgroups hi hfindex⟩
  · intro f _ hunset g hg hmem
    obtain ⟨i, -, hf⟩ := hindex f g hg hmem
    rw [hunset] at hf
    cases hf

/-- The oneof groups of a message are refused exactly if a field belongs to none that is declared,
and for the first such field.  Else they are the declared groups without those that stand for the
presence of a field, and every field is where it belongs and nowhere else. -/
theorem oneofs_grouped_exactly (m : Message) :
    ((∃ e, m.oneofGroups = .error e) ↔
      ∃ f ∈ m.fields, ∃ index, f.oneofIndex = some index ∧ (index < 0 ∨ m.oneofs.length ≤ index)) ∧
    (∀ e, m.oneofGroups = .error e ↔
      ∃ f index, m.FirstStray f index ∧ e = .undeclaredOneof m.name f.name index) ∧
    ∀ groups, m.oneofGroups = .ok groups → m.GroupedAs groups := by
  refine ⟨?_, fun e => oneofGroups_eq_error, fun groups => groupedAs_of_oneofGroups⟩
  have hfails : (∃ e, m.oneofGroups = .error e) ↔ ¬ ∃ groups, m.oneofGroups = .ok groups := by
    cases m.oneofGroups <;> simp
  rw [hfails, oneofGroups_eq_ok]
  push Not
  refine exists_congr fun f => and_congr_right fun _ => exists_congr fun index => ?_
  rw [and_congr_right_iff]
  intro _
  omega

/-! An instance: a group of two fields, one without fields, and one that stands for the presence of
an optional field although it has another. -/

namespace Parcel

def weight : Field := { name := "weight", number := 1, oneofIndex := some 2 }

def street : Field := { name := "street", number := 2, oneofIndex := some 0 }

def note : Field := { name := "note", number := 3 }

def mark : Field := { name := "mark", number := 4, oneofIndex := some 2, proto3Optional := true }

def locker : Field := { name := "locker", number := 5, oneofIndex := some 0 }

def message : Message where
  name := "Parcel"
  fields := [weight, street, note, mark, locker]
  oneofs := ["target", "spare", "_mark"]

end Parcel

theorem oneofs_grouped_exactly_parcel :
    Parcel.message.oneofGroups
      = .ok [("target", [Parcel.street, Parcel.locker]), ("spare", [])] ∧
    Parcel.message.GroupedAs [("target", [Parcel.street, Parcel.locker]), ("spare", [])] ∧
    { Parcel.message with oneofs := ["target"] }.oneofGroups
      = .error (.undeclaredOneof "Parcel" "weight" 2) := by
  refine ⟨by decide, (oneofs_grouped_exactly Parcel.message).2.2 _ (by decide), by decide⟩

end Message

end RpcStubs
