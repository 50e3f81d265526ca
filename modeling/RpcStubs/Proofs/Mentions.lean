/-
# What a type leads to

A type refers to a message or to an enum, and through a map entry to whatever
its key and its value lead to.  `Index.Mentions` is that relation, down to
definitions that are no map entries.

`TypeExpr.references` lists the references in a type expression, and
`mem_references_valueType` is the link: the references of a resolved type are
those to the definitions that it mentions, each written as the file it stands
in requires.  Members and constants inherit the law, as a label adds no
references and takes none away.
-/
import RpcStubs.Proofs.Emitted

namespace RpcStubs

variable {ix : Index} {file : File}

/-! ## Definitions and references -/

/-- A message or an enum: its full name, and the package and the file that define it. -/
structure Definition where
  name : String
  package : String
  file : String

namespace Definition

/-- The path of a definition inside its file. -/
def path (d : Definition) : String := TypeName.within d.package d.name

/-- A definition as it is referred to in a file. -/
def writtenIn (here : String) (d : Definition) : String :=
  if d.file = here then d.path else SchemaPath.token d.file ++ "." ++ d.path

end Definition

/-- The references in a type expression, from left to right. -/
def TypeExpr.references : TypeExpr → List TypeExpr
  | .primitive _ => []
  | .reference token path => [.reference token path]
  | .map key value => key.references ++ value.references
  | .array element => element.references

theorem TypeExpr.infix_text {u t : TypeExpr} (h : u ∈ t.references) :
    u.text.toList <:+: t.text.toList := by
  induction t with
  | primitive p => cases h
  | reference token path =>
      obtain rfl := List.mem_singleton.mp h
      exact List.infix_refl _
  | map key value ihk ihv =>
      simp only [text, String.toList_append]
      rcases List.mem_append.mp h with h | h
      · refine (ihk h).trans ⟨"Map<".toList, ", ".toList ++ value.text.toList ++ ">".toList, ?_⟩
        simp only [List.append_assoc]
      · refine (ihv h).trans ⟨"Map<".toList ++ key.text.toList ++ ", ".toList, ">".toList, ?_⟩
        simp only [List.append_assoc]
  | array element ih =>
      simp only [text, String.toList_append]
      exact (ih h).trans ⟨"Array<".toList, ">".toList, rfl⟩

namespace Index

variable {here : String} {d : Definition}

/-- A type mentions a definition: it refers to it, or to a map entry whose key or value mentions
it. -/
inductive Mentions (ix : Index) : TypeRef → Definition → Prop
  | message {kind : Kind} {name : String} {e : MessageEntry} :
      kind.isMessage = true → ix.messages.find? name = some e → e.isMapEntry = false →
      Mentions ix ⟨kind, name⟩ ⟨name, e.package, e.file⟩
  | enum {name : String} {e : EnumEntry} :
      ix.enums.find? name = some e → Mentions ix ⟨.enum, name⟩ ⟨name, e.package, e.file⟩
  | key {kind : Kind} {name : String} {e : MessageEntry} {types : MapTypes} {d : Definition} :
      kind.isMessage = true → ix.messages.find? name = some e → e.isMapEntry = true →
      e.mapTypes = some types → Mentions ix types.key d → Mentions ix ⟨kind, name⟩ d
  | value {kind : Kind} {name : String} {e : MessageEntry} {types : MapTypes} {d : Definition} :
      kind.isMessage = true → ix.messages.find? name = some e → e.isMapEntry = true →
      e.mapTypes = some types → Mentions ix types.value d → Mentions ix ⟨kind, name⟩ d

/-- The reference to a definition from a file. -/
def referenceTo (here : String) (d : Definition) : TypeExpr :=
  reference here d.file d.package d.name

theorem text_referenceTo (here : String) (d : Definition) :
    (referenceTo here d).text = d.writtenIn here := by
  unfold referenceTo reference Definition.writtenIn
  split <;> rfl

theorem not_mentions_scalar {s : Scalar} {name : String} : ¬ ix.Mentions ⟨.scalar s, name⟩ d := by
  intro h
  cases h with
  | message hkind => cases hkind
  | key hkind => cases hkind
  | value hkind => cases hkind

theorem mentions_enum {name : String} {e : EnumEntry} (he : ix.enums.find? name = some e) :
    ix.Mentions ⟨.enum, name⟩ d ↔ d = ⟨name, e.package, e.file⟩ := by
  constructor
  · intro h
    cases h with
    | message hkind => cases hkind
    | enum he' =>
        rw [he] at he'
        cases he'
        rfl
    | key hkind => cases hkind
    | value hkind => cases hkind
  · rintro rfl
    exact .enum he

section Message

variable {kind : Kind} {name : String} {e : MessageEntry}

theorem mentions_message (hkind : kind.isMessage = true) (he : ix.messages.find? name = some e)
    (hentry : e.isMapEntry = false) :
    ix.Mentions ⟨kind, name⟩ d ↔ d = ⟨name, e.package, e.file⟩ := by
  have hsame : ∀ e', ix.messages.find? name = some e' → e' = e := fun e' he' =>
    Option.some.inj (he'.symm.trans he)
  constructor
  · intro h
    cases h with
    | message _ he' _ => rw [hsame _ he']
    | enum => cases hkind
    | key _ he' hentry' => rw [hsame _ he', hentry] at hentry'; cases hentry'
    | value _ he' hentry' => rw [hsame _ he', hentry] at hentry'; cases hentry'
  · rintro rfl
    exact .message hkind he hentry

theorem mentions_map {types : MapTypes} (hkind : kind.isMessage = true)
    (he : ix.messages.find? name = some e) (hentry : e.isMapEntry = true)
    (htypes : e.mapTypes = some types) :
    ix.Mentions ⟨kind, name⟩ d ↔ ix.Mentions types.key d ∨ ix.Mentions types.value d := by
  have hsame : ∀ e', ix.messages.find? name = some e' → e' = e := fun e' he' =>
    Option.some.inj (he'.symm.trans he)
  constructor
  · intro h
    cases h with
    | message _ he' hentry' => rw [hsame _ he', hentry] at hentry'; cases hentry'
    | enum => cases hkind
    | key _ he' _ htypes' h =>
        rw [hsame _ he', htypes] at htypes'
        cases htypes'
        exact .inl h
    | value _ he' _ htypes' h =>
        rw [hsame _ he', htypes] at htypes'
        cases htypes'
        exact .inr h
  · rintro (h | h)
    · exact .key hkind he hentry htypes h
    · exact .value hkind he hentry htypes h

end Message

/-- The references of a resolved type, whatever entries are open around it.  The induction is on
the type being resolvable, which follows the walk through map entries. -/
theorem mem_references_elementType {type : TypeRef} (h : ix.Resolvable type) :
    ∀ (opened : List String) (t : TypeExpr),
      (ix.elementType here (ix.mapTypeWithin here opened) type.kind type.name).result = .ok t →
      ∀ u, u ∈ t.references ↔ ∃ d, ix.Mentions type d ∧ u = referenceTo here d := by
  induction h with
  | scalar =>
      intro opened t ht u
      rw [elementType_eq_of_scalar] at ht
      cases ht
      constructor
      · intro hu
        cases hu
      · rintro ⟨d, hd, -⟩
        exact absurd hd not_mentions_scalar
  | enum he =>
      intro opened t ht u
      rw [elementType_eq_of_enum he] at ht
      cases ht
      simp only [mentions_enum he, exists_eq_left]
      exact List.mem_singleton
  | message hkind he hentry =>
      intro opened t ht u
      rw [elementType_eq_of_message hkind he hentry] at ht
      cases ht
      simp only [mentions_message hkind he hentry, exists_eq_left]
      exact List.mem_singleton
  | map hkind he hentry htypes _ _ _ ihk ihv =>
      intro opened t ht u
      rw [elementType_eq_of_map hkind he hentry] at ht
      obtain ⟨-, types, key, value, htypes', hk, hv, rfl⟩ := (mapTypeWithin_eq_ok he).mp ht
      rw [htypes] at htypes'
      cases htypes'
      rw [TypeExpr.references, List.mem_append, ihk _ key hk u, ihv _ value hv u]
      simp only [mentions_map hkind he hentry htypes, or_and_right, exists_or]

theorem mem_references_valueType {type : TypeRef} {t : TypeExpr}
    (h : (ix.valueType here type).result = .ok t) (u : TypeExpr) :
    u ∈ t.references ↔ ∃ d, ix.Mentions type d ∧ u = referenceTo here d :=
  mem_references_elementType (succeeds_valueType.mp ⟨t, h⟩) [] t h u

end Index

/-! ## Members and constants -/

namespace Field

variable {f : Field}

theorem mem_references_elementType {t : TypeExpr} (h : (f.elementType ix file).result = .ok t)
    (u : TypeExpr) :
    u ∈ t.references ↔ ∃ d, ix.Mentions f.typeRef d ∧ u = Index.referenceTo file.name d := by
  obtain ⟨o, ho, h⟩ := Traced.result_bind_eq_ok.mp h
  cases o with
  | none => exact Index.mem_references_valueType h u
  | some p =>
      -- a field with a representation of its own holds a scalar, and mentions nothing
      have hwide := isWide_of_override (Traced.result_check_eq_ok.mp ho)
      cases h
      constructor
      · intro hu
        cases hu
      · rintro ⟨d, hd, -⟩
        obtain ⟨s, hs⟩ := Kind.scalar_of_isWide hwide
        unfold typeRef at hd
        rw [hs] at hd
        exact absurd hd Index.not_mentions_scalar

theorem mem_references_member {m : Member} (h : (f.member ix file).result = .ok m)
    (u : TypeExpr) :
    u ∈ m.type.references ↔
      ∃ d, ix.Mentions f.typeRef d ∧ u = Index.referenceTo file.name d := by
  obtain ⟨t, ht, h⟩ := Traced.result_bind_eq_ok.mp h
  rw [← mem_references_elementType ht u]
  split at h
  next => cases h; rfl
  next =>
    split at h
    next => cases h; rfl
    next => cases h; rfl

theorem mem_references_declareExtension {c : ConstantDecl}
    (h : (f.declareExtension ix file).result = .ok c) (u : TypeExpr) :
    u ∈ c.type.references ↔
      ∃ d, ix.Mentions f.typeRef d ∧ u = Index.referenceTo file.name d := by
  obtain ⟨t, ht, h⟩ := Traced.result_bind_eq_ok.mp h
  rw [← Index.mem_references_valueType ht u]
  cases h
  show u ∈ TypeExpr.references (if _ then _ else _) ↔ _
  split
  next => rfl
  next => rfl

end Field

end RpcStubs
