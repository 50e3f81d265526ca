/-
# The messages that a module declares, and when it can declare them

A module declares every message of its file that is no map entry, at any depth,
as long as no message around it is a map entry: what stands inside a map entry
is never looked at.  `Message.Emits` is that relation.

Declaring a message resolves its fields, its nested messages, its oneof groups
and its extensions, in this order.  `Message.Sound` collects what each of these
needs, for one message and without its nested ones; the result here is that a
list of messages can be declared exactly if every message it emits is sound.
-/
import RpcStubs.Proofs.OneofGroups
import RpcStubs.Proofs.Resolvable

namespace RpcStubs

variable {ix : Index} {file : File}

/-! ## Fields -/

theorem Kind.scalar_of_isWide {kind : Kind} (h : kind.isWide = true) : ∃ s, kind = .scalar s := by
  cases kind with
  | scalar s => exact ⟨s, rfl⟩
  | message => cases h
  | group => cases h
  | enum => cases h
  | unknown code => cases h

namespace Field

variable {f : Field}

/-- The representation that a field asks for fits its kind: it asks for none, or for the normal
one, or it holds a 64-bit integer. -/
def RepresentationFits (f : Field) : Prop :=
  f.jsType = none ∨ f.jsType = some .normal ∨
    ((f.jsType = some .string ∨ f.jsType = some .number) ∧ f.kind.isWide = true)

theorem isWide_of_override {p : Primitive} (h : f.override = .ok (some p)) :
    f.kind.isWide = true := by
  unfold override at h
  split at h
  next => cases h
  next => cases h
  next => cases h
  next =>
    split at h
    next hw => exact hw
    next => cases h
  next =>
    split at h
    next hw => exact hw
    next => cases h

theorem override_eq_ok : (∃ o, f.override = .ok o) ↔ f.RepresentationFits := by
  unfold override RepresentationFits
  cases f.jsType with
  | none => simp
  | some t => cases t <;> cases f.kind.isWide <;> simp

theorem resolvable_of_isWide (h : f.kind.isWide = true) : ix.Resolvable f.typeRef := by
  obtain ⟨s, hs⟩ := Kind.scalar_of_isWide h
  unfold typeRef
  rw [hs]
  exact .scalar

theorem succeeds_elementType :
    (f.elementType ix file).Succeeds ↔ f.RepresentationFits ∧ ix.Resolvable f.typeRef := by
  unfold elementType
  rw [Traced.succeeds_bind, ← override_eq_ok]
  constructor
  · rintro ⟨o, ho, h⟩
    have ho := Traced.result_check_eq_ok.mp ho
    cases o with
    | none => exact ⟨⟨none, ho⟩, Index.succeeds_valueType.mp h⟩
    | some p => exact ⟨⟨some p, ho⟩, resolvable_of_isWide (isWide_of_override ho)⟩
  · rintro ⟨⟨o, ho⟩, hr⟩
    refine ⟨o, Traced.result_check_eq_ok.mpr ho, ?_⟩
    cases o with
    | none => exact Index.succeeds_valueType.mpr hr
    | some p => exact Traced.succeeds_pure _

/-- A field has a member exactly if its representation fits and its type is resolvable. -/
theorem succeeds_member :
    (f.member ix file).Succeeds ↔ f.RepresentationFits ∧ ix.Resolvable f.typeRef := by
  rw [← @succeeds_elementType ix file f]
  refine Traced.succeeds_bind_of_forall fun t => ?_
  split
  next => exact Traced.succeeds_pure _
  next => split <;> exact Traced.succeeds_pure _

theorem succeeds_declareExtension :
    (f.declareExtension ix file).Succeeds ↔ ix.Resolvable f.typeRef := by
  rw [← @Index.succeeds_valueType ix file.name f.typeRef]
  exact Traced.succeeds_bind_of_forall fun t => Traced.succeeds_pure _

end Field

/-! ## Messages -/

namespace Message

variable {m : Message}

/-- A message emits itself and what its nested messages emit, unless it is a map entry. -/
inductive Emits : Message → Message → Prop
  | self {m : Message} : m.isMapEntry = false → Emits m m
  | nested {m c d : Message} : m.isMapEntry = false → c ∈ m.nested → Emits c d → Emits m d

/-- What is declared in a message itself is in order. -/
structure Sound (ix : Index) (m : Message) : Prop where
  representations : ∀ f ∈ m.fields, f.RepresentationFits
  fields : ∀ f ∈ m.fields, ix.Resolvable f.typeRef
  oneofs : ∀ f ∈ m.fields, ∀ index : Int, f.oneofIndex = some index →
    0 ≤ index ∧ index < m.oneofs.length
  extensions : ∀ f ∈ m.extensions, ix.Resolvable f.typeRef

theorem declare_eq (ix : Index) (file : File) (m : Message) :
    m.declare ix file = if m.isMapEntry then pure none else do
      let members ← m.fields.mapM (·.member ix file)
      let classes ← declareAll ix file m.nested
      let groups ← Traced.check m.oneofGroups
      let constants ← m.extensions.mapM (·.declareExtension ix file)
      return some ⟨m.name, members, classes,
        m.enums.map Enum.declare ++ groups.map fun g => oneofCases g.1 g.2, constants⟩ := by
  cases m
  rw [declare]

theorem declareAll_cons (ix : Index) (file : File) (m : Message) (ms : List Message) :
    declareAll ix file (m :: ms) = (do
      let c ← m.declare ix file
      let cs ← declareAll ix file ms
      return c.toList ++ cs) := by
  rw [declareAll]

theorem declare_eq_ok {c : Option ClassDecl} :
    (m.declare ix file).result = .ok c ↔
      (m.isMapEntry = true ∧ c = none) ∨
      (m.isMapEntry = false ∧ ∃ members classes groups constants,
        (m.fields.mapM (Field.member ix file)).result = .ok members ∧
        (declareAll ix file m.nested).result = .ok classes ∧
        m.oneofGroups = .ok groups ∧
        (m.extensions.mapM (Field.declareExtension ix file)).result = .ok constants ∧
        c = some ⟨m.name, members, classes,
          m.enums.map Enum.declare ++ groups.map fun g => oneofCases g.1 g.2, constants⟩) := by
  rw [declare_eq]
  cases hentry : m.isMapEntry with
  | true =>
      constructor
      · intro h
        cases h
        exact .inl ⟨rfl, rfl⟩
      · rintro (⟨-, rfl⟩ | ⟨h, -⟩)
        · rfl
        · cases h
  | false =>
      simp only [Bool.false_eq_true, if_false, Traced.result_bind_eq_ok, Traced.result_check_eq_ok,
        false_and, true_and, false_or]
      constructor
      · rintro ⟨members, hm, classes, hc, groups, hg, constants, hx, h⟩
        cases h
        exact ⟨members, classes, groups, constants, hm, hc, hg, hx, rfl⟩
      · rintro ⟨members, classes, groups, constants, hm, hc, hg, hx, rfl⟩
        exact ⟨members, hm, classes, hc, groups, hg, constants, hx, rfl⟩

theorem succeeds_declare_step (hentry : m.isMapEntry = false) :
    (m.declare ix file).Succeeds ↔ (declareAll ix file m.nested).Succeeds ∧ m.Sound ix := by
  constructor
  · rintro ⟨c, hc⟩
    rcases declare_eq_ok.mp hc with
      ⟨h, -⟩ | ⟨-, members, classes, groups, constants, hm, hc, hg, hx, -⟩
    · rw [hentry] at h
      cases h
    · have hm := Traced.succeeds_mapM.mp ⟨members, hm⟩
      have hx := Traced.succeeds_mapM.mp ⟨constants, hx⟩
      refine ⟨⟨classes, hc⟩, ?_, ?_, ?_, ?_⟩
      · exact fun f hf => (Field.succeeds_member.mp (hm f hf)).1
      · exact fun f hf => (Field.succeeds_member.mp (hm f hf)).2
      · exact oneofGroups_eq_ok.mp ⟨groups, hg⟩
      · exact fun f hf => Field.succeeds_declareExtension.mp (hx f hf)
  · rintro ⟨⟨classes, hc⟩, hsound⟩
    obtain ⟨members, hm⟩ := Traced.succeeds_mapM.mpr fun f hf =>
      (@Field.succeeds_member ix file f).mpr ⟨hsound.representations f hf, hsound.fields f hf⟩
    obtain ⟨groups, hg⟩ := oneofGroups_eq_ok.mpr hsound.oneofs
    obtain ⟨constants, hx⟩ := Traced.succeeds_mapM.mpr fun f hf =>
      (@Field.succeeds_declareExtension ix file f).mpr (hsound.extensions f hf)
    exact ⟨_, declare_eq_ok.mpr (.inr ⟨hentry, members, classes, groups, constants, hm, hc, hg, hx,
      rfl⟩)⟩

mutual

/-- A message can be declared exactly if every message that it emits is sound. -/
theorem succeeds_declare (ix : Index) (file : File) :
    ∀ m : Message, (m.declare ix file).Succeeds ↔ ∀ d, m.Emits d → d.Sound ix
  | ⟨name, fields, nested, enums, oneofs, extensions, true⟩ => by
      constructor
      · intro _ d hd
        cases hd with
        | self h => cases h
        | nested h => cases h
      · intro _
        exact ⟨none, declare_eq_ok.mpr (.inl ⟨rfl, rfl⟩)⟩
  | ⟨name, fields, nested, enums, oneofs, extensions, false⟩ => by
      rw [succeeds_declare_step rfl, succeeds_declareAll ix file nested]
      constructor
      · rintro ⟨hnested, hself⟩ d hd
        cases hd with
        | self => exact hself
        | nested _ hc hd => exact hnested _ hc d hd
      · intro h
        exact ⟨fun c hc d hd => h d (.nested rfl hc hd), h _ (.self rfl)⟩

theorem succeeds_declareAll (ix : Index) (file : File) :
    ∀ ms : List Message,
      (declareAll ix file ms).Succeeds ↔ ∀ m ∈ ms, ∀ d, m.Emits d → d.Sound ix
  | [] => by
      constructor
      · intro _ m hm
        cases hm
      · intro _
        rw [declareAll]
        exact Traced.succeeds_pure _
  | m :: ms => by
      rw [declareAll_cons, Traced.succeeds_bind, List.forall_mem_cons,
        ← succeeds_declare ix file m, ← succeeds_declareAll ix file ms]
      constructor
      · rintro ⟨c, hc, h⟩
        obtain ⟨cs, hcs, -⟩ := Traced.succeeds_bind.mp h
        exact ⟨⟨c, hc⟩, ⟨cs, hcs⟩⟩
      · rintro ⟨⟨c, hc⟩, ⟨cs, hcs⟩⟩
        exact ⟨c, hc, Traced.succeeds_bind.mpr ⟨cs, hcs, Traced.succeeds_pure _⟩⟩

end

end Message

/-! ## Files -/

namespace File

/-- The messages that the module of a file declares. -/
def Emits (file : File) (d : Message) : Prop := ∃ m ∈ file.messages, m.Emits d

/-- Everything that the message module of a file declares is in order. -/
structure MessagesSound (ix : Index) (file : File) : Prop where
  messages : ∀ d, file.Emits d → d.Sound ix
  extensions : ∀ f ∈ file.extensions, ix.Resolvable f.typeRef

end File

namespace MessageModule

variable {wellKnown : Table String} {m : MessageModule}

theorem ofFile_eq_ok :
    (ofFile ix wellKnown file).result = .ok m ↔ ∃ classes constants,
      (Message.declareAll ix file file.messages).result = .ok classes ∧
      (file.extensions.mapM (Field.declareExtension ix file)).result = .ok constants ∧
      m = { package := file.package
            file := file.name
            imports := file.dependencies.map (Import.ofDependency file.name wellKnown)
            enums := file.enums.map Enum.declare
            classes
            constants } := by
  unfold ofFile
  simp only [Traced.result_bind_eq_ok]
  constructor
  · rintro ⟨classes, hc, constants, hx, -, -, h⟩
    cases h
    exact ⟨classes, constants, hc, hx, rfl⟩
  · rintro ⟨classes, constants, hc, hx, rfl⟩
    exact ⟨classes, hc, constants, hx, (), rfl, rfl⟩

/-- The message module of a file exists exactly if its messages and extensions are in order. -/
theorem succeeds_ofFile : (ofFile ix wellKnown file).Succeeds ↔ file.MessagesSound ix := by
  constructor
  · rintro ⟨m, hm⟩
    obtain ⟨classes, constants, hc, hx, -⟩ := ofFile_eq_ok.mp hm
    refine ⟨?_, ?_⟩
    · rintro d ⟨m, hm, hd⟩
      exact (Message.succeeds_declareAll ix file _).mp ⟨classes, hc⟩ m hm d hd
    · intro f hf
      exact Field.succeeds_declareExtension.mp (Traced.succeeds_mapM.mp ⟨constants, hx⟩ f hf)
  · rintro ⟨hm, hx⟩
    obtain ⟨classes, hc⟩ := (Message.succeeds_declareAll ix file file.messages).mpr
      fun m hmem d hd => hm d ⟨m, hmem, hd⟩
    obtain ⟨constants, hx⟩ := Traced.succeeds_mapM.mpr fun f hf =>
      (@Field.succeeds_declareExtension ix file f).mpr (hx f hf)
    exact ⟨_, ofFile_eq_ok.mpr ⟨classes, constants, hc, hx, rfl⟩⟩

end MessageModule

end RpcStubs
