/-
# Where an extension is typed like a field

A field of a message becomes a member, an extension a constant, and the type of
either is built from the same parts: the type of one value, and the label.  But
the two do not go the same way about it.  A member looks first for the
representation that the field asks for, and does not put a map into a list.  A
constant does neither.

So there are three ways for them to differ, and the result here is that there
are no others (`extension_typed_alike_iff`):

  * a 64-bit integer that asks for text is a number as a constant;
  * a representation that does not fit is refused for a member, and is not
    looked at for a constant;
  * a repeated map is a list of maps as a constant.

In all other cases the types are the same, and so are the failures.
-/
import RpcStubs.Proofs.Comparison
import RpcStubs.Proofs.Emitted

namespace RpcStubs

variable {ix : Index} {file : File}

/-! ## The type of one value -/

theorem Index.valueType_isMap_iff {here : String} {type : TypeRef} {t : TypeExpr}
    (h : (ix.valueType here type).result = .ok t) :
    (∃ key value, t = .map key value) ↔ ix.RefersToMap type type.name := by
  have hplain : ∀ {kind : Kind} {name : String} {e : MessageEntry},
      ix.messages.find? name = some e → e.isMapEntry = false →
        ¬ ix.RefersToMap ⟨kind, name⟩ name := by
    rintro kind name e he hentry ⟨-, -, e', he', hentry'⟩
    rw [he] at he'
    cases he'
    rw [hentry] at hentry'
    cases hentry'
  unfold valueType at h
  cases succeeds_valueType.mp ⟨t, h⟩ with
  | scalar =>
      rw [elementType_eq_of_scalar] at h
      cases h
      exact ⟨fun ⟨_, _, hmap⟩ => (nomatch hmap), fun hmap => (nomatch hmap.1)⟩
  | enum he =>
      rw [elementType_eq_of_enum he] at h
      cases h
      exact ⟨fun ⟨_, _, hmap⟩ => (nomatch hmap), fun hmap => (nomatch hmap.1)⟩
  | message hkind he hentry =>
      rw [elementType_eq_of_message hkind he hentry] at h
      cases h
      exact ⟨fun ⟨_, _, hmap⟩ => (nomatch hmap), fun hmap => absurd hmap (hplain he hentry)⟩
  | map hkind he hentry =>
      rw [elementType_eq_of_map hkind he hentry] at h
      obtain ⟨-, -, key, value, -, -, -, rfl⟩ := (mapTypeWithin_eq_ok he).mp h
      exact ⟨fun _ => ⟨hkind, rfl, _, he, hentry⟩, fun _ => ⟨key, value, rfl⟩⟩

namespace Field

variable {x : Field}

/-- A field asks for the representation that it has anyway: for none, for the normal one, or for
that of a 64-bit integer as a number. -/
def AsksForDefault (x : Field) : Prop :=
  x.jsType = none ∨ x.jsType = some .normal ∨ (x.jsType = some .number ∧ x.kind.isWide = true)

theorem AsksForDefault.fits (h : x.AsksForDefault) : x.RepresentationFits := by
  rcases h with h | h | ⟨h, hwide⟩
  · exact .inl h
  · exact .inr (.inl h)
  · exact .inr (.inr ⟨.inr h, hwide⟩)

theorem valueType_of_isWide (h : x.kind.isWide = true) (here : String) :
    (ix.valueType here x.typeRef).result = .ok (.primitive .number) := by
  obtain ⟨s, hs⟩ := Kind.scalar_of_isWide h
  unfold typeRef Index.valueType
  rw [hs] at h ⊢
  rw [Index.elementType_eq_of_scalar]
  cases s <;> cases h <;> rfl

theorem elementType_of_asksForDefault (h : x.AsksForDefault) :
    (x.elementType ix file).result = (ix.valueType file.name x.typeRef).result := by
  unfold elementType override
  rcases h with h | h | ⟨h, hwide⟩
  · rw [h]
    rfl
  · rw [h]
    rfl
  · rw [h, valueType_of_isWide hwide]
    dsimp only
    rw [if_pos hwide]
    rfl

theorem elementType_of_asksForText (h : x.jsType = some .string) (hwide : x.kind.isWide = true) :
    (x.elementType ix file).result = .ok (.primitive .string) := by
  unfold elementType override
  rw [h]
  dsimp only
  rw [if_pos hwide]
  rfl

/-! ## Labels -/

/-- The type of a constant, given that of one value. -/
def constantType (label : Label) (element : TypeExpr) : TypeExpr :=
  if label = .repeated then .array element else element

/-- The type of a member, given that of one value. -/
def memberType (label : Label) : TypeExpr → TypeExpr
  | .map key value => .map key value
  | element => constantType label element

theorem memberType_of_ne_map {label : Label} {t : TypeExpr} (h : ∀ key value, t ≠ .map key value) :
    memberType label t = constantType label t := by
  cases t with
  | map key value => exact absurd rfl (h key value)
  | primitive p => rfl
  | reference token path => rfl
  | array element => rfl

/-- A label makes no difference between a member and a constant, unless it makes a list of maps. -/
theorem text_constantType_eq_iff {label : Label} {t : TypeExpr} :
    (constantType label t).text = (memberType label t).text ↔
      (label = .repeated → ∀ key value, t ≠ .map key value) := by
  by_cases hmap : ∃ key value, t = .map key value
  · obtain ⟨key, value, rfl⟩ := hmap
    unfold memberType constantType
    by_cases hlabel : label = .repeated
    · rw [if_pos hlabel]
      constructor
      · intro htext
        have hchars := congrArg String.toList htext
        simp [TypeExpr.text] at hchars
      · intro h
        exact absurd rfl (h hlabel key value)
    · rw [if_neg hlabel]
      exact ⟨fun _ h => absurd h hlabel, fun _ => rfl⟩
  · have hne : ∀ key value, t ≠ .map key value := by
      intro key value h
      exact hmap ⟨key, value, h⟩
    rw [memberType_of_ne_map hne]
    exact ⟨fun _ _ => hne, fun _ => rfl⟩

theorem declareExtension_eq_ok {c : ConstantDecl}
    (h : (x.declareExtension ix file).result = .ok c) :
    ∃ t, (ix.valueType file.name x.typeRef).result = .ok t ∧ c.type = constantType x.label t := by
  obtain ⟨t, ht, h⟩ := Traced.result_bind_eq_ok.mp h
  cases h
  exact ⟨t, ht, rfl⟩

theorem member_eq_ok {m : Member} (h : (x.member ix file).result = .ok m) :
    ∃ t, (x.elementType ix file).result = .ok t ∧ m.type = memberType x.label t := by
  obtain ⟨t, ht, h⟩ := Traced.result_bind_eq_ok.mp h
  refine ⟨t, ht, ?_⟩
  split at h
  next key value =>
    cases h
    rfl
  next hne =>
    rw [memberType_of_ne_map hne, constantType]
    split at h
    next hlabel =>
      cases h
      rw [if_pos hlabel]
    next hlabel =>
      cases h
      rw [if_neg hlabel]

theorem text_number_ne_text_string (label : Label) :
    (constantType label (.primitive .number)).text
      ≠ (memberType label (.primitive .string)).text := by
  show _ ≠ (constantType label (.primitive .string)).text
  unfold constantType
  by_cases hlabel : label = .repeated
  · rw [if_pos hlabel, if_pos hlabel]
    decide
  · rw [if_neg hlabel, if_neg hlabel]
    decide

/-! ## Failures -/

theorem declareExtension_eq_error {e : Failure} :
    (x.declareExtension ix file).result = .error e ↔
      (ix.valueType file.name x.typeRef).result = .error e := by
  refine Traced.result_bind_eq_error.trans (or_iff_left ?_)
  rintro ⟨t, -, h⟩
  cases h

theorem member_eq_error {e : Failure} :
    (x.member ix file).result = .error e ↔ (x.elementType ix file).result = .error e := by
  refine Traced.result_bind_eq_error.trans (or_iff_left ?_)
  rintro ⟨t, -, h⟩
  split at h
  next => cases h
  next => split at h <;> cases h

theorem declareExtension_fails :
    (∃ e, (x.declareExtension ix file).result = .error e) ↔ ¬ ix.Resolvable x.typeRef := by
  rw [← @succeeds_declareExtension ix file x, Traced.not_succeeds_iff]

theorem member_fails :
    (∃ e, (x.member ix file).result = .error e) ↔
      ¬ (x.RepresentationFits ∧ ix.Resolvable x.typeRef) := by
  rw [← @succeeds_member ix file x, Traced.not_succeeds_iff]

/-! ## The comparison -/

/-- A field has the same type as an extension as it has in a message, or has none in both cases. -/
structure TypedAlike (ix : Index) (file : File) (x : Field) : Prop where
  fails : (∃ e, (x.declareExtension ix file).result = .error e) ↔
    ∃ e, (x.member ix file).result = .error e
  text : ∀ c m, (x.declareExtension ix file).result = .ok c → (x.member ix file).result = .ok m →
    c.type.text = m.type.text

/-- A field that is typed alike and has a type asks for the representation that it has anyway: if
another does not fit, there is no member, and if it fits, the member is not a number. -/
theorem TypedAlike.asksForDefault (h : x.TypedAlike ix file)
    (hresolvable : ix.Resolvable x.typeRef) :
    x.AsksForDefault := by
  have hfits : x.RepresentationFits := by
    by_contra hfits
    have hfails := h.fails.mpr (member_fails.mpr fun hboth => hfits hboth.1)
    exact declareExtension_fails.mp hfails hresolvable
  obtain ⟨c, hc⟩ := (@succeeds_declareExtension ix file x).mpr hresolvable
  obtain ⟨m, hm⟩ := (@succeeds_member ix file x).mpr ⟨hfits, hresolvable⟩
  rcases hfits with hnone | hnormal | ⟨htext | hnumber, hwide⟩
  · exact .inl hnone
  · exact .inr (.inl hnormal)
  · obtain ⟨t, ht, hctype⟩ := declareExtension_eq_ok hc
    obtain ⟨t', ht', hmtype⟩ := member_eq_ok hm
    rw [valueType_of_isWide hwide] at ht
    rw [elementType_of_asksForText htext hwide] at ht'
    cases ht
    cases ht'
    have hsame := h.text c m hc hm
    rw [hctype, hmtype] at hsame
    exact absurd hsame (text_number_ne_text_string x.label)
  · exact .inr (.inr ⟨hnumber, hwide⟩)

theorem text_eq_iff_of_asksForDefault (hdefault : x.AsksForDefault) {c : ConstantDecl} {m : Member}
    (hc : (x.declareExtension ix file).result = .ok c) (hm : (x.member ix file).result = .ok m) :
    c.type.text = m.type.text ↔
      (x.label = .repeated → ¬ ix.RefersToMap x.typeRef x.typeRef.name) := by
  obtain ⟨t, ht, hctype⟩ := declareExtension_eq_ok hc
  obtain ⟨t', ht', hmtype⟩ := member_eq_ok hm
  rw [elementType_of_asksForDefault hdefault, ht] at ht'
  cases ht'
  rw [hctype, hmtype, text_constantType_eq_iff, ← Index.valueType_isMap_iff ht]
  simp only [not_exists, ne_eq]

/-- A field is typed alike exactly if it cannot be resolved, or asks for the representation that it
has anyway and is no repeated map.  Fields that ask for nothing else fail alike in any case. -/
theorem extension_typed_alike_iff (ix : Index) (file : File) (x : Field) :
    (x.TypedAlike ix file ↔
      (ix.Resolvable x.typeRef →
        x.AsksForDefault ∧ (x.label = .repeated → ¬ ix.RefersToMap x.typeRef x.typeRef.name))) ∧
    (x.AsksForDefault → ∀ e, (x.declareExtension ix file).result = .error e ↔
      (x.member ix file).result = .error e) := by
  refine ⟨⟨?_, ?_⟩, ?_⟩
  · intro halike hresolvable
    have hdefault := halike.asksForDefault hresolvable
    obtain ⟨c, hc⟩ := (@succeeds_declareExtension ix file x).mpr hresolvable
    obtain ⟨m, hm⟩ := (@succeeds_member ix file x).mpr ⟨hdefault.fits, hresolvable⟩
    exact ⟨hdefault, (text_eq_iff_of_asksForDefault hdefault hc hm).mp (halike.text c m hc hm)⟩
  · intro h
    by_cases hresolvable : ix.Resolvable x.typeRef
    · obtain ⟨hdefault, hmap⟩ := h hresolvable
      refine ⟨?_, ?_⟩
      · rw [declareExtension_fails, member_fails]
        exact ⟨fun hno => absurd hresolvable hno,
          fun hno => absurd ⟨hdefault.fits, hresolvable⟩ hno⟩
      · intro c m hc hm
        exact (text_eq_iff_of_asksForDefault hdefault hc hm).mpr hmap
    · refine ⟨?_, ?_⟩
      · rw [declareExtension_fails, member_fails]
        exact ⟨fun _ hboth => hresolvable hboth.2, fun _ => hresolvable⟩
      · intro c m hc _
        exact absurd (succeeds_declareExtension.mp ⟨c, hc⟩) hresolvable
  · intro hdefault e
    rw [declareExtension_eq_error, member_eq_error, elementType_of_asksForDefault hdefault]

/-! An extension that asks for text: a 64-bit integer, and a member with the same declaration. -/

namespace Serial

def number : Field where
  name := "serial_number"
  number := 100
  kind := .scalar .int64
  jsType := some .string

def schema : File where
  name := "serial.proto"
  package := "serial"
  messages := [{ name := "Device" }]
  extensions := [number]

end Serial

/-- The constant is a number, and the member is a text. -/
theorem extension_ignores_representation :
    (Serial.number.declareExtension (.ofFiles [Serial.schema]) Serial.schema).result
      = .ok ⟨"serialNumber", .primitive .number⟩ ∧
    (Serial.number.member (.ofFiles [Serial.schema]) Serial.schema).result
      = .ok ⟨"serial_number", .primitive .string, true⟩ ∧
    ¬ Serial.number.TypedAlike (.ofFiles [Serial.schema]) Serial.schema := by
  refine ⟨rfl, rfl, ?_⟩
  intro halike
  exact absurd (halike.text _ _ rfl rfl) (by decide)

end Field

end RpcStubs
