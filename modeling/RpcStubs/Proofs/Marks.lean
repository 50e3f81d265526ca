/-
# Names that bring no marks with them

The shape of a generated text is in a few of its characters: the line breaks and
the brackets.  A name goes into the text as it is, or in another case, or behind
other names.  If it brought such a mark along, the text would have lines or
blocks that no declaration put there.  This module says when it does not: no
declared name, path or package holds the mark to begin with.

Everything is said of one mark `x`, whichever it is.  To lack it is kept by
joining texts and by taking parts of them.  It is kept by changing case as well,
which may turn one character into several: that none of them is a mark is a fact
about the tables of case mappings, and is settled by going through them.

The `texts` of a declaration are what its lines are made of, besides what is the
same for all declarations.  Messages are followed down their nesting once, with
any index that knows its types by names without the mark; what is said of lines
or of blocks then starts from the texts.
-/
import Mathlib.Data.Bool.AllAny
import RpcStubs.Proofs.Mentions
import RpcStubs.Proofs.Tables
import RpcStubs.WellKnown

namespace RpcStubs

namespace Text

/-- All brackets. -/
def brackets : List Char := ['(', ')', '[', ']', '\x7b', '\x7d']

/-- The characters that give a text its shape. -/
def marks : List Char := '\n' :: brackets

/-- A text does not hold a character. -/
def Lacks (x : Char) (s : String) : Prop := x ∉ s.toList

instance (x : Char) (s : String) : Decidable (Lacks x s) :=
  inferInstanceAs (Decidable (x ∉ s.toList))

variable {x : Char}

theorem lacks_append {s t : String} : Lacks x (s ++ t) ↔ Lacks x s ∧ Lacks x t := by
  rw [Lacks, String.toList_append, List.mem_append, not_or]
  rfl

theorem lacks_ofList {cs : List Char} : Lacks x (String.ofList cs) ↔ x ∉ cs := by
  rw [Lacks, String.toList_ofList]

theorem lacks_of_subset {s : String} {cs : List Char} (hs : Lacks x s) (h : cs ⊆ s.toList) :
    Lacks x (String.ofList cs) :=
  lacks_ofList.mpr fun hmem => hs (h hmem)

theorem toList_bytes (s : String) :
    s.toByteArray.data.toList = s.toList.flatMap String.utf8EncodeChar := by
  rw [← String.ofList_toList (s := s), String.toByteArray_ofList, List.utf8Encode,
    List.toList_data_toByteArray, String.toList_ofList]

/-! ## Changing case -/

theorem eq_of_ofNat_eq {n : Nat} (hx : 0 < x.toNat) (h : Char.ofNat n = x) : n = x.toNat := by
  by_cases hvalid : n.isValidChar
  · rw [show Char.ofNat n = Char.ofNatAux n hvalid from dif_pos hvalid] at h
    exact congrArg Char.toNat h
  · rw [show Char.ofNat n = '\x00' from dif_neg hvalid] at h
    subst h
    exact absurd hx (by decide)

/-- A table of case mappings maps nothing else to a character: no row expands to it, and every run
stays on one side of it. -/
def Unreached (x : Char) (expansions : List (Nat × List Nat)) (runs : List CaseRun) : Prop :=
  (∀ e ∈ expansions, x.toNat ∉ e.2) ∧
    ∀ r ∈ runs, (x.toNat : Int) < r.first + r.shift ∨ r.last + r.shift < (x.toNat : Int)

instance (x : Char) (expansions : List (Nat × List Nat)) (runs : List CaseRun) :
    Decidable (Unreached x expansions runs) := inferInstanceAs (Decidable (_ ∧ _))

theorem Unreached.notMem_mapped {expansions : List (Nat × List Nat)} {runs : List CaseRun}
    (h : Unreached x expansions runs) (hx : 0 < x.toNat) {c : Char} (hc : c ≠ x) :
    x ∉ mapped expansions runs c := by
  intro hmem
  unfold mapped at hmem
  split at hmem
  next codes hcodes =>
    obtain ⟨code, hcode, heq⟩ := List.mem_map.mp hmem
    obtain rfl := eq_of_ofNat_eq hx heq
    obtain ⟨before, after, rfl, -⟩ := List.lookup_eq_some_iff.mp hcodes
    exact h.1 _ (List.mem_append_right _ List.mem_cons_self) hcode
  next =>
    rw [List.mem_singleton] at hmem
    unfold shifted at hmem
    split at hmem
    next r hr =>
      have hcovers := List.find?_some hr
      simp only [CaseRun.covers, Bool.and_eq_true, decide_eq_true_eq] at hcovers
      have hcode := eq_of_ofNat_eq hx hmem.symm
      have hrun := h.2 r (List.mem_of_find?_eq_some hr)
      omega
    next => exact hc hmem.symm

/-- What a mapping does to ASCII is settled by trying it. -/
theorem notMem_of_ascii {f : Char → Char}
    (hf : (marks.all fun y => ∀ n : Fin 128, y = f (Char.ofNat n) → Char.ofNat n = y) = true)
    (hx : x ∈ marks) {c : Char} (hascii : c.toNat < 128) (hc : c ≠ x) : x ∉ [f c] := by
  intro hmem
  have hback := List.all_iff_forall_prop.mp hf x hx ⟨c.toNat, hascii⟩
  rw [Char.ofNat_toNat] at hback
  exact hc (hback (List.mem_singleton.mp hmem))

theorem upperTables_unreached :
    ∀ y ∈ marks, 0 < y.toNat ∧ Unreached y upperExpansions upperRuns :=
  List.all_iff_forall_prop.mp (by decide +kernel)

theorem lowerTables_unreached :
    ∀ y ∈ marks, 0 < y.toNat ∧ Unreached y lowerExpansions lowerRuns :=
  List.all_iff_forall_prop.mp (by decide +kernel)

section Mark

variable (hx : x ∈ marks)
include hx

theorem notMem_upperChar {c : Char} (hc : c ≠ x) : x ∉ upperChar c := by
  obtain ⟨hpos, hunreached⟩ := upperTables_unreached x hx
  unfold upperChar
  split
  next hascii => exact notMem_of_ascii (by decide) hx hascii hc
  next => exact hunreached.notMem_mapped hpos hc

theorem notMem_lowerChar {c : Char} (hc : c ≠ x) : x ∉ lowerChar c := by
  obtain ⟨hpos, hunreached⟩ := lowerTables_unreached x hx
  unfold lowerChar
  split
  next hascii => exact notMem_of_ascii (by decide) hx hascii hc
  next => exact hunreached.notMem_mapped hpos hc

theorem notMem_lowerAfter {before cs : List Char} (h : x ∉ cs) : x ∉ lowerAfter before cs := by
  have hsigma : ∀ y ∈ marks, y ≠ 'ς' ∧ y ≠ 'σ' := List.all_iff_forall_prop.mp (by decide)
  induction cs generalizing before with
  | nil => exact h
  | cons c cs ih =>
      rw [List.mem_cons, not_or] at h
      rw [lowerAfter, List.mem_append, not_or]
      refine ⟨?_, ih h.2⟩
      split
      next =>
        rw [List.mem_singleton]
        split
        · exact (hsigma x hx).1
        · exact (hsigma x hx).2
      next => exact notMem_lowerChar hx (Ne.symm h.1)

theorem notMem_camelChars {cs : List Char} (h : x ∉ cs) : x ∉ Name.camelChars cs := by
  fun_induction Name.camelChars cs with
  | case1 c cs hword ih =>
      simp only [List.mem_cons, not_or] at h
      rw [List.mem_append, not_or]
      exact ⟨notMem_upperChar hx (Ne.symm h.2.1), ih h.2.2⟩
  | case2 c cs hword ih =>
      rw [List.mem_cons, not_or] at h ⊢
      exact ⟨h.1, ih h.2⟩
  | case3 c cs hstart ih =>
      rw [List.mem_cons, not_or] at h ⊢
      exact ⟨h.1, ih h.2⟩
  | case4 => exact h

omit hx in
theorem notMem_mapFirst {f : Char → List Char} (hf : ∀ c, c ≠ x → x ∉ f c) {cs : List Char}
    (h : x ∉ cs) : x ∉ Name.mapFirst f cs := by
  cases cs with
  | nil => exact h
  | cons c cs =>
      rw [List.mem_cons, not_or] at h
      rw [Name.mapFirst, List.mem_append, not_or]
      exact ⟨hf c (Ne.symm h.1), h.2⟩

/-! ## Names -/

/-- A text that holds no mark, as can be seen from it, lacks each of them. -/
theorem lacks_literal {s : String} (h : (marks.all fun y => Lacks y s) = true) : Lacks x s :=
  List.all_iff_forall_prop.mp h x hx

variable {name : String}

theorem lacks_upper (h : Lacks x name) : Lacks x (upper name) := by
  refine lacks_ofList.mpr fun hmem => ?_
  obtain ⟨c, hc, hmem⟩ := List.mem_flatMap.mp hmem
  exact notMem_upperChar hx (fun heq => h (heq ▸ hc)) hmem

theorem lacks_camel (h : Lacks x name) : Lacks x (Name.camel name) :=
  lacks_ofList.mpr (notMem_camelChars hx h)

theorem lacks_oneofType (h : Lacks x name) : Lacks x (Name.oneofType name) := by
  have hlower : Lacks x (lower name) := lacks_ofList.mpr (notMem_lowerAfter hx h)
  exact lacks_ofList.mpr
    (notMem_mapFirst (fun _ => notMem_upperChar hx) (lacks_camel hx hlower))

theorem lacks_member (h : Lacks x name) : Lacks x (Name.member name) := by
  unfold Name.member
  split
  next => exact lacks_append.mpr ⟨lacks_literal hx (by decide), h⟩
  next => exact h

theorem lacks_stub (h : Lacks x name) : Lacks x (Name.stub name) :=
  lacks_member hx (lacks_ofList.mpr (notMem_mapFirst (fun _ => notMem_lowerChar hx) h))

theorem lacks_toString (n : Int) : Lacks x (toString n) := by
  have hdigits : ∀ y ∈ marks, y.isDigit = false := List.all_iff_forall_prop.mp (by decide)
  have hnat : ∀ n : Nat, Lacks x n.repr := by
    intro n hmem
    rw [Nat.toList_repr] at hmem
    have hdigit := Nat.isDigit_of_mem_toDigits (by decide) (by decide) hmem
    rw [hdigits x hx] at hdigit
    cases hdigit
  cases n with
  | ofNat n => exact hnat n
  | negSucc n => exact lacks_append.mpr ⟨lacks_literal hx (by decide), hnat (n + 1)⟩

/-! ## Paths and type expressions -/

omit hx in
theorem eraseFirst_subset (pattern cs : List Char) : eraseFirst pattern cs ⊆ cs := by
  induction cs with
  | nil => exact List.Subset.refl []
  | cons c cs ih =>
      rw [eraseFirst]
      split
      next => exact List.drop_subset _ _
      next => exact List.cons_subset_cons c ih

theorem lacks_token {path : String} (h : Lacks x path) : Lacks x (SchemaPath.token path) := by
  have hunderscore : '_' ∉ marks := by decide
  refine lacks_append.mpr ⟨lacks_ofList.mpr fun hmem => ?_, lacks_literal hx (by decide)⟩
  obtain ⟨c, hc, heq⟩ := List.mem_map.mp hmem
  split at heq
  next => exact hunderscore (heq ▸ hx)
  next => exact h (eraseFirst_subset _ _ (heq ▸ hc))

theorem lacks_toRoot (path : String) : Lacks x (SchemaPath.toRoot path) := by
  unfold SchemaPath.toRoot
  split
  next => exact lacks_literal hx (by decide)
  next =>
    refine lacks_ofList.mpr fun hmem => ?_
    obtain ⟨cs, hcs, hmem⟩ := List.mem_flatten.mp hmem
    rw [List.eq_of_mem_replicate hcs] at hmem
    exact lacks_literal hx (by decide) hmem

theorem lacks_moduleStem {path : String} (h : Lacks x path) :
    Lacks x (SchemaPath.moduleStem path) := by
  unfold SchemaPath.moduleStem
  split
  next stem hstem =>
    refine lacks_append.mpr ⟨lacks_of_subset h ?_, lacks_literal hx (by decide)⟩
    rw [beforeSuffix?] at hstem
    split at hstem
    next =>
      cases hstem
      exact List.take_subset _ _
    next => cases hstem
  next => exact h

theorem lacks_importPath {wellKnown : Table String} {dependency host : String}
    (hwell : ∀ path ∈ wellKnown.values, Lacks x path) (hdep : Lacks x dependency) :
    Lacks x (SchemaPath.importPath dependency host wellKnown) := by
  unfold SchemaPath.importPath
  split
  next path hpath =>
    exact hwell path (List.mem_map.mpr ⟨_, Table.mem_entries_of_find? hpath, rfl⟩)
  next => exact lacks_append.mpr ⟨lacks_toRoot hx host, lacks_moduleStem hx hdep⟩

theorem lacks_wellKnown {package : String} (h : Lacks x package) :
    ∀ path ∈ (WellKnown.table package).values, Lacks x path := by
  have hstems : ∀ stem ∈ WellKnown.stems, (stem.toList.all fun c => c ∉ marks) = true := by
    decide
  intro path hpath
  obtain ⟨entry, hentry, rfl⟩ := List.mem_map.mp hpath
  obtain ⟨stem, hstem, rfl⟩ := List.mem_map.mp hentry
  have hstem : Lacks x stem := fun hmem => List.all_iff_forall_prop.mp (hstems stem hstem) x hmem hx
  simp only [lacks_append]
  exact ⟨⟨⟨h, lacks_literal hx (by decide)⟩, hstem⟩, lacks_literal hx (by decide)⟩

omit hx in
theorem lacks_within {package full : String} (h : Lacks x full) :
    Lacks x (TypeName.within package full) := by
  unfold TypeName.within
  split
  next => exact h
  next => exact lacks_of_subset h (List.drop_subset _ _)

theorem lacks_qualify {scope : String} (hs : Lacks x scope) (hn : Lacks x name) :
    Lacks x (TypeName.qualify scope name) := by
  unfold TypeName.qualify
  split
  next => exact hn
  next => exact lacks_append.mpr ⟨lacks_append.mpr ⟨hs, lacks_literal hx (by decide)⟩, hn⟩

end Mark

end Text

open Text (Lacks marks lacks_append lacks_literal)

variable {x : Char} (hx : x ∈ marks)

include hx in
theorem TypeExpr.lacks_text {t : TypeExpr} (h : ∀ u ∈ t.references, Lacks x u.text) :
    Lacks x t.text := by
  induction t with
  | primitive p => cases p <;> exact lacks_literal hx (by decide)
  | reference token path => exact h _ List.mem_cons_self
  | map key value ihk ihv =>
      have hk := ihk fun u hu => h u (List.mem_append_left _ hu)
      have hv := ihv fun u hu => h u (List.mem_append_right _ hu)
      simp only [text, lacks_append]
      exact ⟨⟨⟨⟨lacks_literal hx (by decide), hk⟩, lacks_literal hx (by decide)⟩, hv⟩,
        lacks_literal hx (by decide)⟩
  | array element ih =>
      simp only [text, lacks_append]
      exact ⟨⟨lacks_literal hx (by decide), ih h⟩, lacks_literal hx (by decide)⟩

include hx in
theorem Import.lacks_line {i : Import} (htoken : Lacks x i.token) (hpath : Lacks x i.path) :
    Lacks x i.line := by
  show Lacks x ("import * as " ++ i.token ++ " from \"" ++ i.path ++ "\";")
  simp only [lacks_append]
  exact ⟨⟨⟨⟨lacks_literal hx (by decide), htoken⟩, lacks_literal hx (by decide)⟩, hpath⟩,
    lacks_literal hx (by decide)⟩

include hx in
theorem Import.lacks_ofDependency {host dependency : String} {wellKnown : Table String}
    (hwell : ∀ path ∈ wellKnown.values, Lacks x path) (hdep : Lacks x dependency) :
    Lacks x (ofDependency host wellKnown dependency).line :=
  lacks_line hx (Text.lacks_token hx hdep) (Text.lacks_importPath hx hwell hdep)

include hx in
theorem Import.lacks_ofHost {host : String} (h : Lacks x host) : Lacks x (ofHost host).line :=
  lacks_line hx (Text.lacks_token hx h)
    (lacks_append.mpr ⟨Text.lacks_toRoot hx host, Text.lacks_moduleStem hx h⟩)

/-! ## The names of a schema -/

section Names

variable {P : String → Prop}

/-- The name of an enum and those of its values. -/
def Enum.names (e : Enum) : List String := e.name :: e.values.map (·.name)

/-- The names that a message declares, without those of its nested messages. -/
def Message.ownNames (m : Message) : List String :=
  m.name :: (m.fields.map (·.name) ++ m.enums.flatMap Enum.names ++ m.oneofs
    ++ m.extensions.map (·.name))

/-- The names that the types of a file go by: of the file, its package and its dependencies, and of
all that its messages and enums declare at any depth. -/
def File.schemaNames (file : File) : List String :=
  file.name :: file.package :: (file.dependencies
    ++ (Message.namedAll file.package file.messages).flatMap (fun p => p.2.ownNames)
    ++ file.enums.flatMap Enum.names ++ file.extensions.map (·.name))

theorem Enum.forall_mem_names {e : Enum} :
    (∀ name ∈ e.names, P name) ↔ P e.name ∧ ∀ v ∈ e.values, P v.name := by
  rw [names, List.forall_mem_cons, List.forall_mem_map]

theorem Message.forall_mem_ownNames {m : Message} :
    (∀ name ∈ m.ownNames, P name) ↔
      P m.name ∧ (∀ f ∈ m.fields, P f.name) ∧ (∀ e ∈ m.enums, ∀ name ∈ e.names, P name) ∧
        (∀ name ∈ m.oneofs, P name) ∧ ∀ f ∈ m.extensions, P f.name := by
  simp only [ownNames, List.forall_mem_cons, List.forall_mem_append, List.forall_mem_map,
    List.forall_mem_flatMap, and_assoc]

theorem File.forall_mem_schemaNames {file : File} :
    (∀ name ∈ file.schemaNames, P name) ↔
      P file.name ∧ P file.package ∧ (∀ path ∈ file.dependencies, P path) ∧
        (∀ p ∈ Message.namedAll file.package file.messages, ∀ name ∈ p.2.ownNames, P name) ∧
        (∀ e ∈ file.enums, ∀ name ∈ e.names, P name) ∧ ∀ f ∈ file.extensions, P f.name := by
  simp only [schemaNames, List.forall_mem_cons, List.forall_mem_append, List.forall_mem_map,
    List.forall_mem_flatMap, and_assoc]

end Names

/-! ## The index -/

/-- The full names and the files that an index knows lack a character. -/
structure Index.NamesLack (x : Char) (ix : Index) : Prop where
  messages : ∀ p ∈ ix.messages.entries, Lacks x p.1 ∧ Lacks x p.2.file
  enums : ∀ p ∈ ix.enums.entries, Lacks x p.1 ∧ Lacks x p.2.file

namespace Message

/-- The full names of the enums of a message, without those of its nested messages. -/
def ownEnums (full : String) (m : Message) : List String :=
  m.enums.map fun e => full ++ "." ++ e.name

mutual

/-- The enums in a message are those of the messages in it.  The index lists the inner ones
first, so the order differs. -/
theorem enumNames_perm (scope : String) :
    ∀ m : Message, (m.enumNames scope).Perm ((m.named scope).flatMap fun p => p.2.ownEnums p.1)
  | ⟨name, fields, nested, enums, oneofs, extensions, isMapEntry⟩ => by
      rw [enumNames, named, List.flatMap_cons]
      exact ((enumNamesAll_perm _ nested).append_right _).trans List.perm_append_comm

theorem enumNamesAll_perm (scope : String) :
    ∀ ms : List Message,
      (enumNamesAll scope ms).Perm ((namedAll scope ms).flatMap fun p => p.2.ownEnums p.1)
  | [] => by
      rw [enumNamesAll, namedAll]
      exact .refl []
  | m :: ms => by
      rw [enumNamesAll, namedAll, List.flatMap_append]
      exact (enumNames_perm scope m).append (enumNamesAll_perm scope ms)

end

mutual

/-- What every scope hands on to the names in it holds of all full names in it. -/
theorem forall_named {P Q : String → Prop}
    (hstep : ∀ scope name, Q scope → P name → Q (TypeName.qualify scope name)) (scope : String)
    (hscope : ∀ name, P name → Q (TypeName.qualify scope name)) :
    ∀ m : Message, (∀ p ∈ m.named scope, P p.2.name) → ∀ p ∈ m.named scope, Q p.1
  | ⟨name, fields, nested, enums, oneofs, extensions, isMapEntry⟩ => by
      rw [named, List.forall_mem_cons, List.forall_mem_cons]
      rintro ⟨hm, hnested⟩
      have hname := hscope name hm
      exact ⟨hname, forall_namedAll hstep _ (fun n hn => hstep _ n hname hn) nested hnested⟩

theorem forall_namedAll {P Q : String → Prop}
    (hstep : ∀ scope name, Q scope → P name → Q (TypeName.qualify scope name)) (scope : String)
    (hscope : ∀ name, P name → Q (TypeName.qualify scope name)) :
    ∀ ms : List Message, (∀ p ∈ namedAll scope ms, P p.2.name) → ∀ p ∈ namedAll scope ms, Q p.1
  | [] => by
      rw [namedAll]
      intro _ p hp
      cases hp
  | m :: ms => by
      rw [namedAll, List.forall_mem_append, List.forall_mem_append]
      rintro ⟨hm, hms⟩
      exact ⟨forall_named hstep scope hscope m hm, forall_namedAll hstep scope hscope ms hms⟩

end

theorem mem_namedAll {scope : String} {ms : List Message} {m : Message} (hm : m ∈ ms)
    {p : String × Message} (hp : p ∈ m.named scope) : p ∈ namedAll scope ms := by
  induction ms with
  | nil => cases hm
  | cons m' ms ih =>
      rw [namedAll, List.mem_append]
      rcases List.mem_cons.mp hm with rfl | hm
      · exact .inl hp
      · exact .inr (ih hm)

theorem exists_named_of_emits {m d : Message} (h : m.Emits d) :
    ∀ scope : String, ∃ full, (full, d) ∈ m.named scope := by
  induction h with
  | @self m _ =>
      intro scope
      cases m
      rw [named]
      exact ⟨_, List.mem_cons_self⟩
  | @nested m n d _ hn _ ih =>
      intro scope
      cases m
      rw [named]
      obtain ⟨full, hfull⟩ := ih _
      exact ⟨full, List.mem_cons_of_mem _ (mem_namedAll hn hfull)⟩

end Message

namespace File

variable {file : File} (h : ∀ name ∈ file.schemaNames, Lacks x name)
include h

theorem lacks_of_emits :
    ∀ m ∈ file.messages, ∀ d, m.Emits d → ∀ name ∈ d.ownNames, Lacks x name := by
  intro m hm d hd
  obtain ⟨full, hfull⟩ := Message.exists_named_of_emits hd file.package
  obtain ⟨-, -, -, hmessages, -, -⟩ := forall_mem_schemaNames.mp h
  exact hmessages _ (Message.mem_namedAll hm hfull)

include hx

theorem lacks_namedAll : ∀ p ∈ Message.namedAll file.package file.messages, Lacks x p.1 := by
  obtain ⟨-, hpackage, -, hmessages, -, -⟩ := forall_mem_schemaNames.mp h
  have hstep : ∀ scope name, Lacks x scope → Lacks x name → Lacks x (TypeName.qualify scope name) :=
    fun _ _ => Text.lacks_qualify hx
  refine Message.forall_namedAll hstep file.package (fun name => hstep _ name hpackage)
    file.messages fun p hp => ?_
  exact (Message.forall_mem_ownNames.mp (hmessages p hp)).1

theorem lacks_messageEntries : ∀ p ∈ file.messageEntries, Lacks x p.1 ∧ Lacks x p.2.file := by
  intro p hp
  obtain ⟨q, hq, rfl⟩ := List.mem_map.mp hp
  exact ⟨lacks_namedAll hx h q hq, (forall_mem_schemaNames.mp h).1⟩

theorem lacks_enumNames : ∀ name ∈ file.enumNames, Lacks x name := by
  obtain ⟨-, hpackage, -, hmessages, henums, -⟩ := forall_mem_schemaNames.mp h
  intro name hname
  rcases List.mem_append.mp hname with hname | hname
  · obtain ⟨p, hp, hname⟩ := List.mem_flatMap.mp ((Message.enumNamesAll_perm _ _).mem_iff.mp hname)
    obtain ⟨e, he, rfl⟩ := List.mem_map.mp hname
    obtain ⟨-, -, henums, -, -⟩ := Message.forall_mem_ownNames.mp (hmessages p hp)
    simp only [lacks_append]
    exact ⟨⟨lacks_namedAll hx h p hp, lacks_literal hx (by decide)⟩,
      henums e he _ List.mem_cons_self⟩
  · obtain ⟨e, he, rfl⟩ := List.mem_map.mp hname
    exact Text.lacks_qualify hx hpackage (henums e he _ List.mem_cons_self)

end File

include hx in
/-- The index of a schema set knows everything by texts that lack a mark, if the set does. -/
theorem Index.namesLack_ofFiles {files : List File}
    (h : ∀ g ∈ files, ∀ name ∈ g.schemaNames, Lacks x name) :
    (Index.ofFiles files).NamesLack x := by
  constructor
  · intro p hp
    have he := (Table.find?_iff_mem_entries (Table.nodup_keys_ofList _)).mpr hp
    obtain ⟨g, hg, he⟩ := List.mem_flatMap.mp (Table.mem_of_find?_ofList he)
    exact File.lacks_messageEntries hx (h g hg) p he
  · rintro ⟨name, e⟩ hp
    have he := (Table.find?_iff_mem_entries (Table.nodup_keys_ofList _)).mpr hp
    obtain ⟨g, hg, he⟩ := List.mem_flatMap.mp (Table.mem_of_find?_ofList he)
    obtain ⟨name, hname, hpair⟩ := List.mem_map.mp he
    cases hpair
    exact ⟨File.lacks_enumNames hx (h g hg) name hname, (File.forall_mem_schemaNames.mp (h g hg)).1⟩

section Index

variable {ix : Index} (hix : ix.NamesLack x)
include hix

theorem Index.NamesLack.of_mentions {type : TypeRef} {d : Definition} (hd : ix.Mentions type d) :
    Lacks x d.name ∧ Lacks x d.file := by
  induction hd with
  | message _ he _ => exact hix.messages _ (Table.mem_entries_of_find? he)
  | enum he => exact hix.enums _ (Table.mem_entries_of_find? he)
  | key _ _ _ _ _ ih => exact ih
  | value _ _ _ _ _ ih => exact ih

include hx

theorem Index.NamesLack.writtenIn {type : TypeRef} {d : Definition} (hd : ix.Mentions type d)
    (here : String) : Lacks x (d.writtenIn here) := by
  obtain ⟨hname, hfile⟩ := hix.of_mentions hd
  have hpath : Lacks x d.path := Text.lacks_within hname
  unfold Definition.writtenIn
  split
  next => exact hpath
  next =>
    exact lacks_append.mpr
      ⟨lacks_append.mpr ⟨Text.lacks_token hx hfile, lacks_literal hx (by decide)⟩, hpath⟩

theorem Index.NamesLack.text {type : TypeRef} {t : TypeExpr} {here : String}
    (ht : ∀ u, u ∈ t.references ↔ ∃ d, ix.Mentions type d ∧ u = Index.referenceTo here d) :
    Lacks x t.text := by
  refine TypeExpr.lacks_text hx fun u hu => ?_
  obtain ⟨d, hd, rfl⟩ := (ht u).mp hu
  rw [Index.text_referenceTo]
  exact hix.writtenIn hx hd here

end Index

/-! ## What declarations are written with -/

/-- The texts that an enum is written with. -/
def EnumDecl.texts (e : EnumDecl) : List String := e.name :: e.values.map (·.1)

/-- The texts that a constant is written with. -/
def ConstantDecl.texts (c : ConstantDecl) : List String := [c.name, c.type.text]

mutual

/-- The texts that a class is written with, and all that is declared in it. -/
def ClassDecl.texts : ClassDecl → List String
  | ⟨name, members, classes, enums, constants⟩ =>
    name :: (members.map Member.declaration ++ ClassDecl.textsAll classes
      ++ enums.flatMap EnumDecl.texts ++ constants.flatMap ConstantDecl.texts)

/-- The texts that a list of classes is written with. -/
def ClassDecl.textsAll : List ClassDecl → List String
  | [] => []
  | c :: cs => c.texts ++ ClassDecl.textsAll cs

end

/-- The texts that a module is written with. -/
def MessageModule.texts (m : MessageModule) : List String :=
  m.package :: m.file :: (m.imports.map Import.line ++ m.enums.flatMap EnumDecl.texts
    ++ ClassDecl.textsAll m.classes ++ m.constants.flatMap ConstantDecl.texts)

theorem ClassDecl.textsAll_eq (cs : List ClassDecl) : textsAll cs = cs.flatMap texts := by
  induction cs with
  | nil => rw [textsAll, List.flatMap_nil]
  | cons c cs ih => rw [textsAll, ih, List.flatMap_cons]

theorem Enum.texts_declare (e : Enum) : e.declare.texts = e.names := by
  rw [declare, EnumDecl.texts, names, List.map_map]
  rfl

include hx in
theorem EnumDecl.lacks_oneofCases {name : String} {fields : List Field} (hname : Lacks x name)
    (hfields : ∀ f ∈ fields, Lacks x f.name) : ∀ t ∈ (oneofCases name fields).texts, Lacks x t := by
  rw [oneofCases, texts, List.forall_mem_cons, List.map_cons, List.forall_mem_cons, List.map_map,
    List.forall_mem_map]
  refine ⟨?_, ?_, fun f hf => Text.lacks_upper hx (hfields f hf)⟩
  · exact lacks_append.mpr ⟨Text.lacks_oneofType hx hname, lacks_literal hx (by decide)⟩
  · exact lacks_append.mpr ⟨Text.lacks_upper hx hname, lacks_literal hx (by decide)⟩

section Declarations

variable {ix : Index} {file : File} (hix : ix.NamesLack x)

namespace Field

variable {f : Field}

theorem name_of_member {m : Member} (h : (f.member ix file).result = .ok m) :
    m.name = Name.member f.name := by
  obtain ⟨t, -, h⟩ := Traced.result_bind_eq_ok.mp h
  split at h
  next => cases h; rfl
  next =>
    split at h
    next => cases h; rfl
    next => cases h; rfl

theorem name_of_declareExtension {c : ConstantDecl}
    (h : (f.declareExtension ix file).result = .ok c) :
    c.name = Name.camel f.name := by
  obtain ⟨t, -, h⟩ := Traced.result_bind_eq_ok.mp h
  cases h
  rfl

include hx hix

theorem lacks_declaration (hname : Lacks x f.name) {m : Member}
    (h : (f.member ix file).result = .ok m) : Lacks x m.declaration := by
  have htype := hix.text hx (mem_references_member h)
  have hoptional : Lacks x (if m.optional then "?" else "") := by
    cases m.optional <;> exact lacks_literal hx (by decide)
  simp only [Member.declaration, name_of_member h, lacks_append]
  exact ⟨⟨⟨⟨Text.lacks_member hx hname, hoptional⟩, lacks_literal hx (by decide)⟩, htype⟩,
    lacks_literal hx (by decide)⟩

theorem lacks_constant (hname : Lacks x f.name) {c : ConstantDecl}
    (h : (f.declareExtension ix file).result = .ok c) : ∀ t ∈ c.texts, Lacks x t := by
  have htype := hix.text hx (mem_references_declareExtension h)
  rw [ConstantDecl.texts, List.forall_mem_cons, List.forall_mem_singleton,
    name_of_declareExtension h]
  exact ⟨Text.lacks_camel hx hname, htype⟩

end Field

namespace Message

theorem eq_of_oneofGroups {m : Message} {groups : List (String × List Field)}
    (h : m.oneofGroups = .ok groups) :
    groups = (m.oneofs.zipIdx.map fun p => (p.1, m.oneofFields p.2)).filter fun g =>
      !g.2.any (·.proto3Optional) := by
  rw [oneofGroups_eq] at h
  split at h
  next => cases h
  next =>
    cases h
    rfl

theorem mem_of_oneofGroups {m : Message} {groups : List (String × List Field)}
    (h : m.oneofGroups = .ok groups) {g : String × List Field} (hg : g ∈ groups) :
    g.1 ∈ m.oneofs ∧ ∀ f ∈ g.2, f ∈ m.fields := by
  rw [eq_of_oneofGroups h] at hg
  obtain ⟨p, hp, rfl⟩ := List.mem_map.mp (List.mem_of_mem_filter hg)
  exact ⟨(List.mem_zipIdx' hp).2 ▸ List.getElem_mem _, fun f hf => List.mem_of_mem_filter hf⟩

include hx hix in
theorem lacks_class {m : Message} (hm : ∀ name ∈ m.ownNames, Lacks x name) {members : List Member}
    {classes : List ClassDecl} {groups : List (String × List Field)} {constants : List ConstantDecl}
    (hmembers : (m.fields.mapM (Field.member ix file)).result = .ok members)
    (hgroups : m.oneofGroups = .ok groups)
    (hconstants : (m.extensions.mapM (Field.declareExtension ix file)).result = .ok constants)
    (hclasses : ∀ t ∈ ClassDecl.textsAll classes, Lacks x t) :
    ∀ t ∈ ClassDecl.texts ⟨m.name, members, classes,
      m.enums.map Enum.declare ++ groups.map fun g => oneofCases g.1 g.2, constants⟩,
        Lacks x t := by
  obtain ⟨hname, hfields, henums, honeofs, hextensions⟩ := forall_mem_ownNames.mp hm
  have hmembers := (Traced.result_mapM_eq_ok.mp hmembers).flip
  have hconstants := (Traced.result_mapM_eq_ok.mp hconstants).flip
  simp only [ClassDecl.texts, List.forall_mem_cons, List.forall_mem_append, List.forall_mem_map,
    List.forall_mem_flatMap]
  refine ⟨hname, ⟨⟨?_, hclasses⟩, ?_, ?_⟩, ?_⟩
  · intro member hmember
    obtain ⟨f, hf, hmember⟩ := exists_of_forall₂ hmembers hmember
    exact Field.lacks_declaration hx hix (hfields f hf) hmember
  · intro e he
    rw [Enum.texts_declare]
    exact henums e he
  · intro g hg
    obtain ⟨hname, hmem⟩ := mem_of_oneofGroups hgroups hg
    exact EnumDecl.lacks_oneofCases hx (honeofs _ hname) fun f hf => hfields f (hmem f hf)
  · intro constant hconstant
    obtain ⟨f, hf, hconstant⟩ := exists_of_forall₂ hconstants hconstant
    exact Field.lacks_constant hx hix (hextensions f hf) hconstant

mutual

/-- By induction on the nesting: a message emits itself and what its nested messages emit. -/
theorem lacks_declare (hx : x ∈ marks) (hix : ix.NamesLack x) :
    ∀ (m : Message) (c : Option ClassDecl), (∀ d, m.Emits d → ∀ name ∈ d.ownNames, Lacks x name) →
      (m.declare ix file).result = .ok c → ∀ t ∈ ClassDecl.textsAll c.toList, Lacks x t
  | ⟨name, fields, nested, enums, oneofs, extensions, isMapEntry⟩, c => by
      intro hm hc
      rcases declare_eq_ok.mp hc with ⟨-, rfl⟩ |
        ⟨hentry, members, classes, groups, constants, hmembers, hclasses, hgroups, hconstants, rfl⟩
      · rw [Option.toList, ClassDecl.textsAll]
        exact List.forall_mem_nil _
      · have hnested : ∀ n ∈ nested, ∀ d, n.Emits d → ∀ name ∈ d.ownNames, Lacks x name :=
          fun n hn d hd => hm d (.nested hentry hn hd)
        rw [Option.toList, ClassDecl.textsAll, ClassDecl.textsAll, List.append_nil]
        exact lacks_class hx hix (hm _ (.self hentry)) hmembers hgroups hconstants
          (lacks_declareAll hx hix nested classes hnested hclasses)

theorem lacks_declareAll (hx : x ∈ marks) (hix : ix.NamesLack x) :
    ∀ (ms : List Message) (cs : List ClassDecl),
      (∀ m ∈ ms, ∀ d, m.Emits d → ∀ name ∈ d.ownNames, Lacks x name) →
      (declareAll ix file ms).result = .ok cs → ∀ t ∈ ClassDecl.textsAll cs, Lacks x t
  | [], cs => by
      intro _ hcs
      rw [declareAll] at hcs
      cases hcs
      rw [ClassDecl.textsAll]
      exact List.forall_mem_nil _
  | m :: ms, cs => by
      intro hms hcs
      rw [List.forall_mem_cons] at hms
      rw [declareAll_cons] at hcs
      obtain ⟨c, hc, hcs⟩ := Traced.result_bind_eq_ok.mp hcs
      obtain ⟨rest, hrest, hcs⟩ := Traced.result_bind_eq_ok.mp hcs
      cases hcs
      rw [ClassDecl.textsAll_eq, List.flatMap_append, List.forall_mem_append,
        ← ClassDecl.textsAll_eq, ← ClassDecl.textsAll_eq]
      exact ⟨lacks_declare hx hix m c hms.1 hc, lacks_declareAll hx hix ms rest hms.2 hrest⟩

end

end Message

include hx in
theorem MessageModule.lacks_texts {files : List File} {wellKnown : Table String} {m : MessageModule}
    (hfiles : ∀ g ∈ files, ∀ name ∈ g.schemaNames, Lacks x name)
    (hfile : ∀ name ∈ file.schemaNames, Lacks x name)
    (hwell : ∀ path ∈ wellKnown.values, Lacks x path)
    (h : (ofFile (Index.ofFiles files) wellKnown file).result = .ok m) :
    ∀ t ∈ m.texts, Lacks x t := by
  have hix := Index.namesLack_ofFiles hx hfiles
  obtain ⟨hname, hpackage, hdependencies, -, henums, hextensions⟩ :=
    File.forall_mem_schemaNames.mp hfile
  obtain ⟨classes, constants, hclasses, hconstants, rfl⟩ := ofFile_eq_ok.mp h
  have hconstants := (Traced.result_mapM_eq_ok.mp hconstants).flip
  simp only [texts, List.forall_mem_cons, List.forall_mem_append, List.forall_mem_map,
    List.forall_mem_flatMap]
  refine ⟨hpackage, hname, ⟨⟨?_, ?_⟩, ?_⟩, ?_⟩
  · exact fun d hd => Import.lacks_ofDependency hx hwell (hdependencies d hd)
  · intro e he
    rw [Enum.texts_declare]
    exact henums e he
  · exact Message.lacks_declareAll hx hix file.messages classes (File.lacks_of_emits hfile) hclasses
  · intro constant hconstant
    obtain ⟨f, hf, hconstant⟩ := exists_of_forall₂ hconstants hconstant
    exact Field.lacks_constant hx hix (hextensions f hf) hconstant

end Declarations

end RpcStubs
