/-
# References that can be told apart

A reference is a text, and two things are lost on the way to it: the package of
the definition, which is cut off, and part of the path of its file, which only
survives as a token.  This module says when a reference still names one
definition alone.

The texts are of two kinds, and dots tell them apart.  A token has none, so that
a reference into another file splits at its first dot into the token and the
names behind it.  A reference into the same file splits there too, into the name
of a message at the top of the file and the rest.  So a file in which no type at
the top is named like the token of another file cannot mix the two up.

Within each kind, different files have different tokens, one file has one
package, and in one package the names behind it decide (`eq_of_text_eq`).
-/
import RpcStubs.Proofs.Declarations
import RpcStubs.Proofs.ServiceImports

namespace RpcStubs

open Text (IsIdentifier isNameChar_of_mem)
open SchemaPath (token dot_notMem_token)

variable {files : List File} {file file' : File} {place place' : Place} {chain chain' : List String}
  {d d' : Declared} {full full' here : String}

/-! ## Definitions -/

namespace Declared

/-- The name that is declared. -/
def name : Declared → String
  | .message m => m.name
  | .enum x => x.name

/-- Whether a map entry is declared. -/
def isMapEntry : Declared → Bool
  | .message m => m.isMapEntry
  | .enum _ => false

/-- How a type refers to a declaration by its full name. -/
def typeRef (full : String) : Declared → TypeRef
  | .message _ => ⟨.message, full⟩
  | .enum _ => ⟨.enum, full⟩

end Declared

/-- A schema set in which everything has its name: what is declared has an identifier for a name,
the files have names and different tokens, and no full name is given to two declarations. -/
structure NamedApart (files : List File) : Prop where
  identifiers : ∀ file place chain d, DeclaredIn files file place chain d → IsIdentifier d.name
  named : ∀ file ∈ files, file.name ≠ ""
  tokens : (files.map fun file => token file.name).Nodup
  fullNames : ∀ full file place chain d file' place' chain' d',
    NamedIn files full file place chain d → NamedIn files full file' place' chain' d' →
      place = place'

/-- What is declared at the top of a file. -/
def File.top (file : File) : List Declared :=
  file.messages.map Declared.message ++ file.enums.map Declared.enum

/-- A place to refer from: outside every file, or in a file in which nothing at the top is named
like the token of another file. -/
def SeesApart (files : List File) (here : String) : Prop :=
  here = "" ∨ ∃ file ∈ files, file.name = here ∧
    ∀ other ∈ files, other.name ≠ here → ∀ t ∈ file.top, t.name ≠ token other.name

instance (files : List File) (here : String) : Decidable (SeesApart files here) :=
  inferInstanceAs (Decidable (_ ∨ _))

/-! ## What is found -/

theorem DeclaredIn.unique (h : DeclaredIn files file place chain d)
    (h' : DeclaredIn files file' place chain' d') : file = file' ∧ chain = chain' ∧ d = d' := by
  have hplaces : ((placedIn files).map fun a => a.2.place).Nodup := by
    refine List.pairwise_map.mpr ((pairwise_placedIn files).imp fun {a b} hbefore hsame => ?_)
    rw [hsame] at hbefore
    exact Place.not_before_self _ hbefore
  have hmem := (@mem_placedIn files file ⟨place, chain, d⟩).mpr h
  have hmem' := (@mem_placedIn files file' ⟨place, chain', d'⟩).mpr h'
  have hsame := List.inj_on_of_nodup_map hplaces hmem hmem' rfl
  cases hsame
  exact ⟨rfl, rfl, rfl⟩

/-- Under a full name that is given once, the index has what is declared there. -/
theorem NamedApart.find?_rows (hfiles : NamedApart files) {κ ε : Type} {read : Declared → Option κ}
    {record : File → κ → ε} {kind : κ → Declared} (hkind : ∀ d a, read d = some a ↔ d = kind a)
    {a : κ} (h : NamedIn files full file place chain (kind a)) :
    (Table.ofList ((rows read record files).map (·.2))).find? full = some (record file a) := by
  have hrow : (place, full, record file a) ∈ rows read record files :=
    (mem_rows hkind).mpr ⟨file, chain, a, h, rfl⟩
  obtain ⟨e, he⟩ := Table.mem_keys_iff_find?.mp (Table.mem_keys_ofList_rows.mpr ⟨_, hrow, rfl⟩)
  obtain ⟨file', place', chain', a', h', -, rfl⟩ := last_of_find?_rows hkind he
  obtain rfl := hfiles.fullNames _ _ _ _ _ _ _ _ _ h h'
  obtain ⟨rfl, -, hsame⟩ := h.1.unique h'.1
  have hread : read (kind a) = read (kind a') := congrArg read hsame
  rw [(hkind _ a).mpr rfl, (hkind _ a').mpr rfl] at hread
  cases hread
  exact he

theorem NamedApart.valueType_eq (hfiles : NamedApart files)
    (h : NamedIn files full file place chain d) (hentry : d.isMapEntry = false) (here : String) :
    ((Index.ofFiles files).valueType here (d.typeRef full)).result
      = .ok (Index.reference here file.name file.package full) := by
  have hnames : ∀ file place chain m,
      DeclaredIn files file place chain (.message m) → m.name ≠ "" :=
    fun file place chain m hm => (hfiles.identifiers file place chain _ hm).1
  cases d with
  | message m =>
      have he : (Index.ofFiles files).messages.find? full = some (m.entry file) := by
        rw [Index.messages_ofFiles hnames]
        exact hfiles.find?_rows Declared.message?_eq_some h
      exact Index.elementType_eq_of_message rfl he hentry
  | enum x =>
      have he : (Index.ofFiles files).enums.find? full = some ⟨file.package, file.name⟩ := by
        rw [Index.enums_ofFiles hnames]
        exact hfiles.find?_rows Declared.enum?_eq_some h
      exact Index.elementType_eq_of_enum he

/-! ## Texts -/

theorem NamedIn.text_reference (h : NamedIn files full file place chain d) (here : String) :
    (Index.reference here file.name file.package full).text
      = if file.name = here then dotted chain else token file.name ++ "." ++ dotted chain := by
  unfold Index.reference
  rw [h.within_package]
  split <;> rfl

theorem append_dot_inj {a b r s : String} (ha : '.' ∉ a.toList) (hb : '.' ∉ b.toList)
    (h : a ++ "." ++ r = b ++ "." ++ s) : a = b ∧ r = s := by
  have hchars : a.toList ++ '.' :: r.toList = b.toList ++ '.' :: s.toList := by
    simpa using congrArg String.toList h
  have hsame := congrArg (List.takeWhile (· ≠ '.')) hchars
  rw [takeWhile_append_dot ha, takeWhile_append_dot hb] at hsame
  rw [hsame] at hchars
  have hrest := List.append_cancel_left hchars
  exact ⟨String.toList_inj.mp hsame, String.toList_inj.mp (List.cons.inj hrest).2⟩

theorem dot_notMem_of_isIdentifier {name : String} (h : IsIdentifier name) : '.' ∉ name.toList := by
  intro hdot
  cases isNameChar_of_mem h '.' hdot

/-! ## The two kinds of references -/

theorem DeclaredIn.mem (h : DeclaredIn files file place chain d) : file ∈ files := by
  cases place with
  | nil => exact h.elim
  | cons i place => exact List.mem_of_getElem? h.1

/-- A chain starts at the top of its file, with a declaration of its own. -/
theorem DeclaredIn.exists_top (h : DeclaredIn files file place chain d) :
    ∃ t ∈ file.top, ∃ rest, chain = t.name :: rest ∧ ∃ p, DeclaredIn files file p [t.name] t := by
  cases place with
  | nil => exact h.elim
  | cons i place =>
      obtain ⟨hi, h⟩ := h
      have hmessage : ∀ {j m}, file.messages[j]? = some m → Declared.message m ∈ file.top :=
        fun hm => List.mem_append_left _ (List.mem_map_of_mem (List.mem_of_getElem? hm))
      have henum : ∀ {j x}, file.enums[j]? = some x → Declared.enum x ∈ file.top :=
        fun hx => List.mem_append_right _ (List.mem_map_of_mem (List.mem_of_getElem? hx))
      cases h with
      | message hm => exact ⟨_, hmessage hm, [], rfl, [i, _], hi, .message hm⟩
      | enum hx => exact ⟨_, henum hx, [], rfl, [i, _], hi, .enum hx⟩
      | inside hm _ => exact ⟨_, hmessage hm, _, rfl, [i, _], hi, .message hm⟩

theorem NamedIn.chain_ne_nil (h : NamedIn files full file place chain d) : chain ≠ [] := by
  obtain ⟨t, -, rest, rfl, -⟩ := h.1.exists_top
  exact List.cons_ne_nil _ _

/-- In one file, the names behind the package decide. -/
theorem NamedIn.full_eq_of_dotted_eq (h : NamedIn files full file place chain d)
    (h' : NamedIn files full' file place' chain' d') (heq : dotted chain = dotted chain') :
    full = full' := by
  rw [← h.2, ← h'.2, fullName_eq_qualify _ h.chain_ne_nil,
    fullName_eq_qualify _ h'.chain_ne_nil, heq]

theorem NamedApart.file_eq_of_token_eq (hfiles : NamedApart files) (h : file ∈ files)
    (h' : file' ∈ files) (heq : token file.name = token file'.name) : file = file' :=
  List.inj_on_of_nodup_map hfiles.tokens h h' heq

/-- A reference into another file is none into the file it stands in. -/
theorem NamedApart.dotted_ne (hfiles : NamedApart files) (hhere : SeesApart files here)
    (h : NamedIn files full file place chain d) (hname : file.name = here) (h' : file' ∈ files)
    (hname' : file'.name ≠ here) (rest : String) :
    dotted chain ≠ token file'.name ++ "." ++ rest := by
  intro heq
  obtain ⟨t, ht, names, rfl, p, hp⟩ := h.1.exists_top
  have hdot := dot_notMem_of_isIdentifier (hfiles.identifiers file p _ t hp)
  cases names with
  | nil =>
      -- a single name holds no dot
      rw [dotted_singleton] at heq
      rw [heq] at hdot
      exact hdot (by simp)
  | cons next names =>
      rw [dotted_cons _ (List.cons_ne_nil next names)] at heq
      have htop : t.name = token file'.name := (append_dot_inj hdot (dot_notMem_token _) heq).1
      rcases hhere with rfl | ⟨file₀, hfile₀, hname₀, hother⟩
      · exact hfiles.named file h.1.mem hname
      · obtain rfl := hfiles.file_eq_of_token_eq h.1.mem hfile₀ (by rw [hname, hname₀])
        exact hother file' h' hname' t ht htop

theorem NamedApart.eq_of_text_eq (hfiles : NamedApart files) (hhere : SeesApart files here)
    (h : NamedIn files full file place chain d) (h' : NamedIn files full' file' place' chain' d')
    (heq : (Index.reference here file.name file.package full).text
      = (Index.reference here file'.name file'.package full').text) : place = place' := by
  rw [h.text_reference, h'.text_reference] at heq
  have hplaces : file = file' → dotted chain = dotted chain' → place = place' := by
    rintro rfl hchains
    obtain rfl := h.full_eq_of_dotted_eq h' hchains
    exact hfiles.fullNames _ _ _ _ _ _ _ _ _ h h'
  by_cases hname : file.name = here <;> by_cases hname' : file'.name = here
  · rw [if_pos hname, if_pos hname'] at heq
    exact hplaces (hfiles.file_eq_of_token_eq h.1.mem h'.1.mem (by rw [hname, hname'])) heq
  · rw [if_pos hname, if_neg hname'] at heq
    exact absurd heq (hfiles.dotted_ne hhere h hname h'.1.mem hname' _)
  · rw [if_neg hname, if_pos hname'] at heq
    exact absurd heq.symm (hfiles.dotted_ne hhere h' hname' h.1.mem hname _)
  · rw [if_neg hname, if_neg hname'] at heq
    obtain ⟨htokens, hchains⟩ := append_dot_inj (dot_notMem_token _) (dot_notMem_token _) heq
    exact hplaces (hfiles.file_eq_of_token_eq h.1.mem h'.1.mem htokens) hchains

/-! ## Deciding -/

theorem namedApart_iff : NamedApart files ↔
    (∀ a ∈ placedIn files, IsIdentifier a.2.what.name) ∧ (∀ file ∈ files, file.name ≠ "") ∧
    (files.map fun file => token file.name).Nodup ∧
    ((placedIn files).map fun a => fullName a.1.package a.2.chain).Nodup := by
  constructor
  · intro h
    refine ⟨fun a ha => ?_, h.named, h.tokens, ?_⟩
    · exact h.identifiers a.1 _ _ _ (mem_placedIn.mp ha)
    · refine List.pairwise_map.mpr ((pairwise_placedIn files).imp_of_mem ?_)
      intro a b ha hb hbefore hfull
      have hplace :=
        h.fullNames _ _ _ _ _ _ _ _ _ ⟨mem_placedIn.mp ha, hfull⟩ ⟨mem_placedIn.mp hb, rfl⟩
      rw [hplace] at hbefore
      exact Place.not_before_self _ hbefore
  · rintro ⟨hidentifiers, hnamed, htokens, hfull⟩
    refine ⟨fun file place chain d hd => ?_, hnamed, htokens, ?_⟩
    · exact hidentifiers (file, ⟨place, chain, d⟩) (mem_placedIn.mpr hd)
    · intro full file place chain d file' place' chain' d' h h'
      have hmem := (@mem_placedIn files file ⟨place, chain, d⟩).mpr h.1
      have hmem' := (@mem_placedIn files file' ⟨place', chain', d'⟩).mpr h'.1
      have hsame := List.inj_on_of_nodup_map hfull hmem hmem' (h.2.trans h'.2.symm)
      cases hsame
      rfl

instance (files : List File) : Decidable (NamedApart files) := decidable_of_iff' _ namedApart_iff

/-! ## The theorem -/

/-- In a schema set in which everything has its name, any two definitions are resolved to references
with different texts, from everywhere that is not misled by a name at its top. -/
theorem Index.references_unambiguous {files : List File} (hfiles : NamedApart files) {here : String}
    (hhere : SeesApart files here) {full₁ full₂ : String} {file₁ file₂ : File}
    {place₁ place₂ : Place}
    {chain₁ chain₂ : List String} {d₁ d₂ : Declared}
    (h₁ : NamedIn files full₁ file₁ place₁ chain₁ d₁)
    (h₂ : NamedIn files full₂ file₂ place₂ chain₂ d₂)
    (hentry₁ : d₁.isMapEntry = false) (hentry₂ : d₂.isMapEntry = false) (hne : place₁ ≠ place₂) :
    ∃ t₁ t₂, ((Index.ofFiles files).valueType here (d₁.typeRef full₁)).result = .ok t₁ ∧
      ((Index.ofFiles files).valueType here (d₂.typeRef full₂)).result = .ok t₂ ∧
      t₁.text ≠ t₂.text := by
  refine ⟨_, _, hfiles.valueType_eq h₁ hentry₁ here, hfiles.valueType_eq h₂ hentry₂ here, ?_⟩
  intro heq
  exact hne (hfiles.eq_of_text_eq hhere h₁ h₂ heq)

/-! An instance: an enum is declared under the same names in two packages, seen from the file of one
of them and from outside; a third file has a message named like the token of the second. -/

namespace Depot

def state : Enum where
  name := "State"

def slot : Message where
  name := "Slot"
  enums := [state]

def shelf : Message where
  name := "Shelf"
  nested := [slot]

def north : File where
  name := "depot/north.proto"
  package := "depot.north"
  messages := [shelf]

def south : File where
  name := "depot/south.proto"
  package := "depot.south"
  messages := [{ name := "Ramp" }, shelf]

def loose : File where
  name := "loose.proto"
  messages := [{ name := "depot_south_pb", nested := [shelf] }]

def schemaSet : List File := [north, south, loose]

theorem declares_state : Declares shelf.nested shelf.enums [0, 0] ["Slot", "State"] (.enum state) :=
  .inside (m := slot) rfl (.enum (x := state) (j := 0) rfl)

theorem named_north : NamedIn schemaSet "depot.north.Shelf.Slot.State" north [0, 0, 0, 0]
    ["Shelf", "Slot", "State"] (.enum state) :=
  ⟨⟨rfl, .inside (m := shelf) rfl declares_state⟩, by decide⟩

theorem named_south : NamedIn schemaSet "depot.south.Shelf.Slot.State" south [1, 1, 0, 0]
    ["Shelf", "Slot", "State"] (.enum state) :=
  ⟨⟨rfl, .inside (m := shelf) rfl declares_state⟩, by decide⟩

end Depot

theorem Index.references_unambiguous_depot :
    NamedApart Depot.schemaSet ∧ ¬ SeesApart Depot.schemaSet "loose.proto" ∧
    ∀ here ∈ ["depot/north.proto", ""], SeesApart Depot.schemaSet here ∧
      ∃ t₁ t₂, ((Index.ofFiles Depot.schemaSet).valueType here
          ⟨.enum, "depot.north.Shelf.Slot.State"⟩).result = .ok t₁ ∧
        ((Index.ofFiles Depot.schemaSet).valueType here
          ⟨.enum, "depot.south.Shelf.Slot.State"⟩).result = .ok t₂ ∧ t₁.text ≠ t₂.text := by
  have hfiles : NamedApart Depot.schemaSet := by decide
  have hsees : ∀ here ∈ ["depot/north.proto", ""], SeesApart Depot.schemaSet here := by decide
  refine ⟨hfiles, by decide, fun here hhere => ⟨hsees here hhere, ?_⟩⟩
  exact references_unambiguous hfiles (hsees here hhere) Depot.named_north Depot.named_south rfl rfl
    (by decide)

end RpcStubs
