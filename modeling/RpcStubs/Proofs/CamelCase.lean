/-
# Camel case loses nothing

A name by the style guide is a list of SEGMENTS with single underscores between
them; a segment is a small letter and then small letters and digits.  Camel case
drops every underscore and raises the letter behind it.  No other letter of such
a name is capital, so that the capitals tell where the underscores were.

The change is one scan from the left that takes an underscore and the character
behind it together.  It passes over a segment as it is, and over an underscore
and a segment as the segment with its first letter raised (`camelChars_join`).
Reading back is the same the other way round (`snakeChars_join`).

What is generated from a name is different from what is generated from another,
also if one is an extension and the other a oneof group: a constant begins with
a small letter, the cases of a group with a capital one.
-/
import RpcStubs.Proofs.Marks
import RpcStubs.Proofs.Pieces

namespace RpcStubs.Name

open Text

/-! ## Names by the style guide -/

/-- The characters of a segment behind the first. -/
def isSegmentChar (c : Char) : Bool := c.isLower || c.isDigit

/-- A small letter, then small letters and digits. -/
def isSegment : List Char → Bool
  | [] => false
  | c :: cs => c.isLower && cs.all isSegmentChar

/-- One or more segments with single underscores between them. -/
def IsSnake (name : String) : Prop :=
  ∃ segments : List (List Char), segments ≠ [] ∧ (∀ s ∈ segments, isSegment s = true) ∧
    name.toList = ['_'].intercalate segments

/-- Each capital letter becomes an underscore and the small letter. -/
def snakeChars (cs : List Char) : List Char :=
  cs.flatMap fun c => if c.isUpper then ['_', c.toLower] else [c]

/-- A name in camel case read back, `userId` as `user_id`. -/
def snake (name : String) : String :=
  String.ofList (snakeChars name.toList)

/-- A segment with its first letter capital. -/
def capital : List Char → List Char
  | [] => []
  | c :: cs => c.toUpper :: cs

/-! ## Characters

What holds of small letters and of digits is settled by trying the ASCII characters. -/

section Characters

variable {c : Char}

theorem isSegmentChar_of_isLower (h : c.isLower = true) : isSegmentChar c = true :=
  Bool.or_eq_true_iff.mpr (.inl h)

theorem ascii_of_isSegmentChar (h : isSegmentChar c = true) : c.toNat < 128 := by
  rcases Bool.or_eq_true_iff.mp h with hlower | hdigit
  · have hz : c.toNat ≤ 122 :=
      UInt32.le_iff_toNat_le.mp (of_decide_eq_true (Bool.and_eq_true_iff.mp hlower).2)
    omega
  · have hnine : c.toNat ≤ 57 := (Char.isDigit_iff_toNat.mp hdigit).2
    omega

theorem of_ascii (P : Char → Prop) (htried : ∀ n : Fin 128, P (Char.ofNat n)) (hc : c.toNat < 128) :
    P c := by
  have hown := htried ⟨c.toNat, hc⟩
  rwa [Char.ofNat_toNat] at hown

theorem ascii_of_isLower (h : c.isLower = true) : c.toNat < 128 :=
  ascii_of_isSegmentChar (isSegmentChar_of_isLower h)

theorem isWord_of_isLower (h : c.isLower = true) : isWord c = true :=
  of_ascii (fun c => c.isLower = true → isWord c = true) (by decide) (ascii_of_isLower h) h

theorem isUpper_toUpper (h : c.isLower = true) : c.toUpper.isUpper = true :=
  of_ascii (fun c => c.isLower = true → c.toUpper.isUpper = true) (by decide) (ascii_of_isLower h) h

theorem isLower_toUpper (h : c.isLower = true) : c.toUpper.isLower = false :=
  of_ascii (fun c => c.isLower = true → c.toUpper.isLower = false) (by decide)
    (ascii_of_isLower h) h

theorem toLower_toUpper (h : c.isLower = true) : c.toUpper.toLower = c :=
  of_ascii (fun c => c.isLower = true → c.toUpper.toLower = c) (by decide) (ascii_of_isLower h) h

theorem isUpper_of_isSegmentChar (h : isSegmentChar c = true) : c.isUpper = false :=
  of_ascii (fun c => isSegmentChar c = true → c.isUpper = false) (by decide)
    (ascii_of_isSegmentChar h) h

theorem toLower_of_isSegmentChar (h : isSegmentChar c = true) : c.toLower = c :=
  of_ascii (fun c => isSegmentChar c = true → c.toLower = c) (by decide)
    (ascii_of_isSegmentChar h) h

end Characters

/-! ## Segments -/

section Segments

variable {s : List Char} {ss : List (List Char)}

theorem exists_of_isSegment (h : isSegment s = true) : ∃ c cs, s = c :: cs ∧ c.isLower = true ∧
    ∀ d ∈ cs, isSegmentChar d = true := by
  cases s with
  | nil => cases h
  | cons c cs =>
      obtain ⟨hc, hcs⟩ := Bool.and_eq_true_iff.mp h
      exact ⟨c, cs, rfl, hc, List.all_eq_true.mp hcs⟩

theorem isSegmentChar_of_mem (h : isSegment s = true) : ∀ c ∈ s, isSegmentChar c = true := by
  obtain ⟨c, cs, rfl, hc, hcs⟩ := exists_of_isSegment h
  exact List.forall_mem_cons.mpr ⟨isSegmentChar_of_isLower hc, hcs⟩

theorem underscore_notMem (h : ∀ c ∈ s, isSegmentChar c = true) : '_' ∉ s := by
  intro hmem
  cases h _ hmem

theorem intercalate_eq (s : List Char) (ss : List (List Char)) :
    ['_'].intercalate (s :: ss) = s ++ ss.flatMap ('_' :: ·) := by
  induction ss generalizing s with
  | nil => simp
  | cons t ss ih => simp [List.intercalate_cons_cons, ih]

/-! ### There -/

theorem camelChars_append (h : '_' ∉ s) (rest : List Char) :
    camelChars (s ++ rest) = s ++ camelChars rest := by
  induction s with
  | nil => rfl
  | cons c s ih =>
      rw [List.mem_cons, not_or] at h
      rw [List.cons_append, camelChars, ih h.2, List.cons_append]
      intro _ _ hc _
      exact h.1 hc.symm

theorem camelChars_underscore {c : Char} (h : c.isLower = true) (rest : List Char) :
    camelChars ('_' :: c :: rest) = c.toUpper :: camelChars rest := by
  rw [camelChars, if_pos (isWord_of_isLower h), upperChar_ascii (ascii_of_isLower h)]
  rfl

theorem camelChars_flatMap (h : ∀ s ∈ ss, isSegment s = true) :
    camelChars (ss.flatMap ('_' :: ·)) = ss.flatMap capital := by
  induction ss with
  | nil => rfl
  | cons s ss ih =>
      obtain ⟨hs, hss⟩ := List.forall_mem_cons.mp h
      obtain ⟨c, cs, rfl, hc, hcs⟩ := exists_of_isSegment hs
      rw [List.flatMap_cons, List.flatMap_cons, ← ih hss]
      show camelChars ('_' :: c :: (cs ++ _)) = c.toUpper :: (cs ++ _)
      rw [camelChars_underscore hc, camelChars_append (underscore_notMem hcs)]

theorem camelChars_join (hs : isSegment s = true) (hss : ∀ s ∈ ss, isSegment s = true) :
    camelChars (s ++ ss.flatMap ('_' :: ·)) = s ++ ss.flatMap capital := by
  rw [camelChars_append (underscore_notMem (isSegmentChar_of_mem hs)), camelChars_flatMap hss]

/-! ### And back -/

theorem snakeChars_append (cs ds : List Char) :
    snakeChars (cs ++ ds) = snakeChars cs ++ snakeChars ds :=
  List.flatMap_append

theorem snakeChars_eq_self (h : ∀ c ∈ s, isSegmentChar c = true) : snakeChars s = s := by
  induction s with
  | nil => rfl
  | cons c s ih =>
      obtain ⟨hc, hs⟩ := List.forall_mem_cons.mp h
      have hplain := isUpper_of_isSegmentChar hc
      rw [snakeChars, List.flatMap_cons, if_neg (by simp [hplain])]
      exact congrArg (c :: ·) (ih hs)

theorem snakeChars_capital (h : isSegment s = true) : snakeChars (capital s) = '_' :: s := by
  obtain ⟨c, cs, rfl, hc, hcs⟩ := exists_of_isSegment h
  rw [capital, snakeChars, List.flatMap_cons, if_pos (isUpper_toUpper hc), toLower_toUpper hc]
  exact congrArg (['_', c] ++ ·) (snakeChars_eq_self hcs)

theorem snakeChars_join (hs : isSegment s = true) (hss : ∀ s ∈ ss, isSegment s = true) :
    snakeChars (s ++ ss.flatMap capital) = s ++ ss.flatMap ('_' :: ·) := by
  rw [snakeChars_append, snakeChars_eq_self (isSegmentChar_of_mem hs)]
  congr 1
  induction ss with
  | nil => rfl
  | cons t ss ih =>
      obtain ⟨ht, hss⟩ := List.forall_mem_cons.mp hss
      rw [List.flatMap_cons, List.flatMap_cons, snakeChars_append, snakeChars_capital ht, ih hss]

end Segments

/-! ## Names -/

variable {a b name : String}

theorem isSnake_iff : IsSnake name ↔ ∀ s ∈ pieces '_' name.toList, isSegment s = true := by
  constructor
  · rintro ⟨segments, hne, hsegments, hname⟩
    have hplain : ∀ s ∈ segments, '_' ∉ s :=
      fun s hs => underscore_notMem (isSegmentChar_of_mem (hsegments s hs))
    rw [hname, pieces_intercalate hne hplain]
    exact hsegments
  · intro h
    refine ⟨pieces '_' name.toList, ?_, h, (intercalate_pieces '_' name.toList).symm⟩
    intro hnil
    have hlength := length_pieces '_' name.toList
    rw [hnil] at hlength
    cases hlength

instance (name : String) : Decidable (IsSnake name) := decidable_of_iff' _ isSnake_iff

/-- A name and its camel case, segment by segment. -/
theorem IsSnake.exists_segments (h : IsSnake name) :
    ∃ (s : List Char) (ss : List (List Char)), isSegment s = true ∧
    (∀ s ∈ ss, isSegment s = true) ∧ name.toList = s ++ ss.flatMap ('_' :: ·) ∧
    (camel name).toList = s ++ ss.flatMap capital := by
  obtain ⟨segments, hne, hsegments, hname⟩ := h
  obtain ⟨s, ss, rfl⟩ := List.exists_cons_of_ne_nil hne
  obtain ⟨hs, hss⟩ := List.forall_mem_cons.mp hsegments
  rw [intercalate_eq] at hname
  refine ⟨s, ss, hs, hss, hname, ?_⟩
  rw [camel, String.toList_ofList, hname, camelChars_join hs hss]

theorem IsSnake.snake_camel (h : IsSnake name) : snake (camel name) = name := by
  obtain ⟨s, ss, hs, hss, hname, hcamel⟩ := h.exists_segments
  rw [snake, hcamel, snakeChars_join hs hss, ← hname, String.ofList_toList]

theorem IsSnake.underscore_notMem_camel (h : IsSnake name) : '_' ∉ (camel name).toList := by
  obtain ⟨s, ss, hs, hss, -, hcamel⟩ := h.exists_segments
  rw [hcamel, List.mem_append, List.mem_flatMap, not_or]
  refine ⟨underscore_notMem (isSegmentChar_of_mem hs), ?_⟩
  rintro ⟨t, ht, hmem⟩
  obtain ⟨c, cs, rfl, hc, hcs⟩ := exists_of_isSegment (hss t ht)
  rcases List.mem_cons.mp hmem with hc' | hmem
  · have hupper := isUpper_toUpper hc
    rw [← hc'] at hupper
    cases hupper
  · exact underscore_notMem hcs hmem

theorem lowerAfter_eq_self {cs : List Char} (before : List Char)
    (h : ∀ c ∈ cs, isSegmentChar c = true ∨ c = '_') : lowerAfter before cs = cs := by
  induction cs generalizing before with
  | nil => rfl
  | cons c cs ih =>
      obtain ⟨hc, hcs⟩ := List.forall_mem_cons.mp h
      have hlower : c.toNat < 128 ∧ c.toLower = c := by
        rcases hc with hc | rfl
        · exact ⟨ascii_of_isSegmentChar hc, toLower_of_isSegmentChar hc⟩
        · decide
      have hsigma : c ≠ 'Σ' := by
        rintro rfl
        exact absurd hlower.1 (by decide)
      rw [lowerAfter, if_neg hsigma, lowerChar_ascii hlower.1, hlower.2, ih _ hcs]
      rfl

theorem IsSnake.lower_eq_self (h : IsSnake name) : lower name = name := by
  obtain ⟨s, ss, hs, hss, hname, -⟩ := h.exists_segments
  rw [lower, lowerAfter_eq_self, String.ofList_toList]
  intro c hc
  rw [hname, List.mem_append, List.mem_flatMap] at hc
  rcases hc with hc | ⟨t, ht, hc⟩
  · exact .inl (isSegmentChar_of_mem hs c hc)
  · rcases List.mem_cons.mp hc with hc | hc
    · exact .inr hc
    · exact .inl (isSegmentChar_of_mem (hss t ht) c hc)

/-- The type of a oneof group is the camel case of its name with the first letter raised. -/
theorem IsSnake.oneofType_eq (h : IsSnake name) : ∃ c cs, c.isLower = true ∧
    (camel name).toList = c :: cs ∧ (oneofType name).toList = c.toUpper :: cs := by
  obtain ⟨s, ss, hs, -, -, hcamel⟩ := h.exists_segments
  obtain ⟨c, cs, rfl, hc, -⟩ := exists_of_isSegment hs
  refine ⟨c, cs ++ ss.flatMap capital, hc, hcamel, ?_⟩
  rw [oneofType, h.lower_eq_self, upperFirst, String.toList_ofList, hcamel]
  show upperChar c ++ _ = _
  rw [upperChar_ascii (ascii_of_isLower hc)]
  rfl

theorem IsSnake.camel_inj (ha : IsSnake a) (hb : IsSnake b) (h : camel a = camel b) : a = b := by
  rw [← ha.snake_camel, h, hb.snake_camel]

theorem IsSnake.oneofType_inj (ha : IsSnake a) (hb : IsSnake b) (h : oneofType a = oneofType b) :
    a = b := by
  obtain ⟨c, cs, hc, hcamel, hraised⟩ := ha.oneofType_eq
  obtain ⟨d, ds, hd, hcamel', hraised'⟩ := hb.oneofType_eq
  rw [h, hraised'] at hraised
  obtain ⟨hupper, rfl⟩ := List.cons.inj hraised
  have hsame : d = c := by rw [← toLower_toUpper hd, hupper, toLower_toUpper hc]
  refine ha.camel_inj hb (String.toList_inj.mp ?_)
  rw [hcamel, hcamel', hsame]

/-! ## What is generated -/

/-- A name that a declared name gives rise to: that of the constant of an extension, or that of the
cases of a oneof group. -/
inductive NamedAfter : String → String → Prop
  | constant {ix : Index} {file : File} {f : Field} {c : ConstantDecl} :
      (f.declareExtension ix file).result = .ok c → NamedAfter f.name c.name
  | cases (oneof : String) (fields : List Field) : NamedAfter oneof (oneofCases oneof fields).name

theorem IsSnake.camel_ne (ha : IsSnake a) (hb : IsSnake b) : camel a ≠ oneofType b ++ "Case" := by
  intro h
  obtain ⟨c, cs, hc, hcamel, -⟩ := ha.oneofType_eq
  obtain ⟨d, ds, hd, -, hraised⟩ := hb.oneofType_eq
  rw [h, String.toList_append, hraised] at hcamel
  have hsmall := isLower_toUpper hd
  rw [(List.cons.inj hcamel).1, hc] at hsmall
  cases hsmall

/-- What two names give rise to is the same only if the names are. -/
theorem IsSnake.eq_of_namedAfter (ha : IsSnake a) (hb : IsSnake b) {x y : String}
    (hx : NamedAfter a x) (hy : NamedAfter b y) (h : x = y) : a = b := by
  cases hx with
  | constant hf =>
      rw [Field.name_of_declareExtension hf] at h
      cases hy with
      | constant hg =>
          rw [Field.name_of_declareExtension hg] at h
          exact ha.camel_inj hb h
      | cases oneof fields => exact absurd h (ha.camel_ne hb)
  | cases oneof fields =>
      cases hy with
      | constant hg =>
          rw [Field.name_of_declareExtension hg] at h
          exact absurd h.symm (hb.camel_ne ha)
      | cases oneof' fields' => exact ha.oneofType_inj hb ((String.append_left_inj _).mp h)

/-- On names by the style guide, camel case drops the underscores and can be read back; the type of
a oneof group differs from it in its first letter alone, which is raised.  Hence both are injective,
and what is generated for extensions and oneof groups with different names has different names. -/
theorem camel_case_lossless {a b : String} (ha : IsSnake a) (hb : IsSnake b) :
    '_' ∉ (camel a).toList ∧ snake (camel a) = a ∧
    (∃ (c : Char) (cs : List Char), c.isLower = true ∧ (camel a).toList = c :: cs ∧
      (oneofType a).toList = c.toUpper :: cs) ∧
    (camel a = camel b → a = b) ∧ (oneofType a = oneofType b → a = b) ∧
    (a ≠ b → ∀ x y, NamedAfter a x → NamedAfter b y → x ≠ y) :=
  ⟨ha.underscore_notMem_camel, ha.snake_camel, ha.oneofType_eq, ha.camel_inj hb,
    ha.oneofType_inj hb, fun hne _ _ hx hy h => hne (ha.eq_of_namedAfter hb hx hy h)⟩

/-! Two names that differ in one underscore, behind a digit: extensions of both names, and a oneof
group of the second. -/

theorem camel_case_lossless_item :
    IsSnake "item_v2_id" ∧ IsSnake "item_v2id" ∧
    snake (camel "item_v2_id") = "item_v2_id" ∧
    camel "item_v2_id" ≠ camel "item_v2id" ∧ oneofType "item_v2_id" ≠ oneofType "item_v2id" ∧
    NamedAfter "item_v2_id" "itemV2Id" ∧
    ∀ x ∈ ["itemV2id", "ItemV2idCase"], NamedAfter "item_v2id" x ∧ "itemV2Id" ≠ x := by
  have hdeclared : ∀ name, (Field.declareExtension {} {} { name, kind := .scalar .int64 }).result
      = .ok ⟨camel name, .primitive .number⟩ := fun _ => rfl
  have hextension : ∀ name, NamedAfter name (camel name) := by
    intro name
    have hname := NamedAfter.constant (hdeclared name)
    exact hname
  have ha : IsSnake "item_v2_id" := by decide
  have hb : IsSnake "item_v2id" := by decide
  have hne : "item_v2_id" ≠ "item_v2id" := by decide
  obtain ⟨-, hback, -, hcamel, honeof, hnames⟩ := camel_case_lossless ha hb
  have hname : NamedAfter "item_v2_id" "itemV2Id" := hextension "item_v2_id"
  refine ⟨ha, hb, hback, fun h => hne (hcamel h), fun h => hne (honeof h), hname, ?_⟩
  have hothers : ∀ x ∈ ["itemV2id", "ItemV2idCase"], NamedAfter "item_v2id" x := by
    intro x hx
    rcases List.mem_cons.mp hx with rfl | hx
    · exact hextension "item_v2id"
    · rw [List.mem_singleton.mp hx]
      exact .cases "item_v2id" []
  exact fun x hx => ⟨hothers x hx, hnames hne _ _ hname (hothers x hx)⟩

end RpcStubs.Name
