/-
# Generation does not depend on the schema set around a file

A schema set is a list of files, but their order does not matter, nor do files
that nothing in a request refers to: what is generated from a schema set is
generated from every larger one, and is the same.  That holds as long as the
larger set defines no name twice.

The index of the larger set finds all that the index of the smaller one finds
(`Index.Extends`).  Resolution that has a value with the one therefore has it
with the other, step by step: it enters the same map entries, in the same
order, with the same entries open.  Everything else follows from the types
(`RpcStubs.Proofs.Pipeline`).

A failure is not carried over, and cannot be: what is missing in the smaller set
may be there in the larger one.
-/
import RpcStubs.Proofs.Cycles
import RpcStubs.Proofs.Pipeline
import RpcStubs.Proofs.References

namespace RpcStubs

/-! ## Larger indexes -/

namespace Index

/-- The second index finds what the first finds. -/
structure Extends (ix ix' : Index) : Prop where
  messages : ∀ name e, ix.messages.find? name = some e → ix'.messages.find? name = some e
  enums : ∀ name e, ix.enums.find? name = some e → ix'.enums.find? name = some e

namespace Extends

variable {ix ix' : Index} (h : ix.Extends ix')

include h

theorem check_message (name : String) :
    (Comparison.sameUnless fun _ => True).Rel (Traced.check (ix.message name))
      (Traced.check (ix'.message name)) := by
  intro hfound
  obtain ⟨e, he⟩ := Traced.avoids_true.mp hfound
  have he := Traced.result_check_eq_ok.mp he
  rw [he, message_eq_ok.mpr (h.messages name e (message_eq_ok.mp he))]

theorem check_enum (name : String) :
    (Comparison.sameUnless fun _ => True).Rel (Traced.check (ix.enum name))
      (Traced.check (ix'.enum name)) := by
  intro hfound
  obtain ⟨e, he⟩ := Traced.avoids_true.mp hfound
  have he := Traced.result_check_eq_ok.mp he
  rw [he, enum_eq_ok.mpr (h.enums name e (enum_eq_ok.mp he))]

/-- A map entry that is resolved with the first index is resolved in the same way with the second.
The induction is on the number of entries of the first that are not open. -/
theorem mapTypeWithin (here : String) (n : Nat) :
    ∀ (opened : List String) (name : String), ix.closedCount opened = n → ix.IsMapEntry name →
      (Comparison.sameUnless fun _ => True).Rel (ix.mapTypeWithin here opened name)
        (ix'.mapTypeWithin here opened name) := by
  induction n using Nat.strongRecOn with
  | ind n ih =>
      rintro opened name rfl ⟨e, he, -⟩
      by_cases hopen : name ∈ opened
      · intro _
        rw [Index.mapTypeWithin, Index.mapTypeWithin, dif_pos hopen, dif_pos hopen]
      · rw [mapTypeWithin_eq hopen he, mapTypeWithin_eq hopen (h.messages name e he)]
        refine Comparison.entryType _ h.check_message h.check_enum ?_ name e
        exact fun next hnext => ih _ (closedCount_lt he hopen) (name :: opened) next rfl hnext

theorem compares : Compares (Comparison.sameUnless fun _ => True) ix ix' := by
  intro here type
  refine Comparison.elementType _ h.check_message h.check_enum ?_ type.kind type.name
  exact fun name hname => h.mapTypeWithin here _ [] name rfl hname

end Extends

/-- The index of more files finds more, if no name is defined twice. -/
theorem extends_ofFiles {files files' : List File} (hsub : ∀ f ∈ files, f ∈ files')
    (hmessages : (files'.flatMap fun g => g.messageEntries.map (·.1)).Nodup)
    (henums : (files'.flatMap File.enumNames).Nodup) :
    (ofFiles files).Extends (ofFiles files') := by
  refine ⟨?_, ?_⟩
  · intro name e he
    obtain ⟨f, hf, he⟩ := List.mem_flatMap.mp (Table.mem_of_find?_ofList he)
    refine Table.find?_ofList_of_mem ?_ (List.mem_flatMap.mpr ⟨f, hsub f hf, he⟩)
    rwa [List.map_flatMap]
  · intro name e he
    obtain ⟨f, hf, he⟩ := List.mem_flatMap.mp (Table.mem_of_find?_ofList he)
    refine Table.find?_ofList_of_mem ?_ (List.mem_flatMap.mpr ⟨f, hsub f hf, he⟩)
    rw [List.map_flatMap]
    simpa only [File.enumEntries, List.map_map, Function.comp_def, List.map_id'] using henums

end Index

/-! ## Larger schema sets -/

namespace Generation

variable {names : List String} {files files' : List File} {settings : Settings}

theorem filesInForce_of_nodup (h : (files.map (·.name)).Nodup) : filesInForce files = files := by
  have hentries : (filesByName files).entries = files.map fun f => (f.name, f) :=
    Table.entries_ofList (by rwa [List.map_map])
  rw [← values_filesByName, Table.values, hentries, List.map_map]
  exact List.map_id files

theorem fileInForce?_of_mem (h : (files.map (·.name)).Nodup) {f : File} (hf : f ∈ files) :
    fileInForce? files f.name = some f := by
  rw [← find?_filesByName]
  exact Table.find?_ofList_of_mem (by rwa [List.map_map]) (List.mem_map.mpr ⟨f, hf, rfl⟩)

theorem mem_of_fileInForce? {f : File} {name : String} (h : fileInForce? files name = some f) :
    f ∈ files ∧ f.name = name :=
  ⟨List.mem_reverse.mp (List.mem_of_find?_eq_some h), by simpa using List.find?_some h⟩

theorem filesInForce_subset (files : List File) : filesInForce files ⊆ files := by
  intro f hf
  obtain ⟨name, -, hname⟩ := List.mem_filterMap.mp hf
  exact (mem_of_fileInForce? hname).1

theorem generate_eq_ok {generated : List GeneratedFile} :
    (generate names files settings).result = .ok generated ↔
      ∃ modules, List.Forall₂ (fun name ms =>
          (requested (filesByName files) (.ofFiles (filesInForce files)) settings name).result
            = .ok ms)
        names modules ∧ generated = modules.flatten := by
  simp only [← Traced.result_mapM_eq_ok]
  rw [← values_filesByName]
  constructor
  · intro h
    obtain ⟨-, -, h⟩ := Traced.result_bind_eq_ok.mp h
    obtain ⟨modules, hmodules, h⟩ := Traced.result_bind_eq_ok.mp h
    cases h
    exact ⟨modules, hmodules, rfl⟩
  · rintro ⟨modules, hmodules, rfl⟩
    refine Traced.result_bind_eq_ok.mpr ⟨(), rfl, ?_⟩
    exact Traced.result_bind_eq_ok.mpr ⟨modules, hmodules, rfl⟩

theorem requested_of_extends {ix ix' : Index} (hsub : ∀ f ∈ files, f ∈ files')
    (hnames : (files'.map (·.name)).Nodup) (hindex : ix.Extends ix') {name : String}
    {modules : List GeneratedFile}
    (h : (requested (filesByName files) ix settings name).result = .ok modules) :
    (requested (filesByName files') ix' settings name).result = .ok modules := by
  unfold requested at h ⊢
  rw [find?_filesByName] at h ⊢
  cases hf : fileInForce? files name with
  | none =>
      rw [hf] at h
      cases h
  | some f =>
      rw [hf] at h
      obtain ⟨hmem, rfl⟩ := mem_of_fileInForce? hf
      rw [fileInForce?_of_mem hnames (hsub f hmem)]
      have hsame := @Index.Compares.modules _ _ .sameOnSuccess hindex.compares settings f
      show (Generation.modules ix' settings f).result = .ok modules
      rw [hsame (Traced.avoids_of_ok h)]
      exact h

/-- What is generated from a schema set is generated from every larger one, whatever the order of
its files, as long as its files have different names and it defines no message and no enum
twice. -/
theorem generate_of_larger_schema_set (names : List String) (files files' : List File)
    (settings : Settings) (hsub : ∀ f ∈ files, f ∈ files')
    (hnames : (files'.map (·.name)).Nodup)
    (hmessages : (files'.flatMap fun g => g.messageEntries.map (·.1)).Nodup)
    (henums : (files'.flatMap File.enumNames).Nodup) (generated : List GeneratedFile)
    (h : (generate names files settings).result = .ok generated) :
    (generate names files' settings).result = .ok generated := by
  obtain ⟨modules, hmodules, rfl⟩ := generate_eq_ok.mp h
  refine generate_eq_ok.mpr ⟨modules, hmodules.imp fun name ms hms => ?_, rfl⟩
  refine requested_of_extends hsub hnames ?_ hms
  rw [filesInForce_of_nodup hnames]
  refine Index.extends_ofFiles ?_ hmessages henums
  intro f hf
  obtain ⟨name, -, hf⟩ := List.mem_filterMap.mp hf
  exact hsub f (mem_of_fileInForce? hf).1

/-! ## An instance

The same two files in another order, with a third before them.  The third has a message of the
same name in another package, and could not be generated itself. -/

def oldBasket : File where
  name := "old/basket.proto"
  package := "old"
  messages := [{
    name := "Basket"
    fields := [{ name := "owner", number := 1, kind := .message, typeName := ".old.Owner" }] }]

def largerBasketSet : List File :=
  [oldBasket, Basket.schema,
    { name := "common/money.proto", package := "common", messages := [{ name := "Money" }] }]

theorem succeeds_generate_basket : (generate ["shop/basket.proto"] Basket.files {}).Succeeds := by
  have hmethods : Basket.schema.MethodsSound (Index.ofFiles Basket.files) := by
    refine File.methodsSound_of_callsMessages ?_
    unfold File.CallsMessages
    decide
  have hforce : fileInForce? Basket.files "shop/basket.proto" = some Basket.schema :=
    fileInForce?_of_mem (by decide) (List.mem_cons_of_mem _ (List.mem_singleton.mpr rfl))
  obtain ⟨modules, hmodules⟩ :=
    (@succeeds_requested (Index.ofFiles Basket.files) Basket.files {} _).mpr
    ⟨_, hforce, fun _ => Basket.messagesSound, hmethods⟩
  refine ⟨_, generate_eq_ok.mpr ⟨[modules], .cons ?_ .nil, rfl⟩⟩
  rw [filesInForce_of_nodup (by decide)]
  exact hmodules

theorem generate_of_larger_schema_set_basket :
    (∀ f ∈ Basket.files, f ∈ largerBasketSet) ∧
    ∃ generated, (generate ["shop/basket.proto"] Basket.files {}).result = .ok generated ∧
      (generate ["shop/basket.proto"] largerBasketSet {}).result = .ok generated := by
  have hsub : ∀ f ∈ Basket.files, f ∈ largerBasketSet := by
    intro f hf
    rcases List.mem_pair.mp hf with rfl | rfl
    · exact .tail _ (.tail _ (.head _))
    · exact .tail _ (.head _)
  obtain ⟨generated, hgenerated⟩ := succeeds_generate_basket
  refine ⟨hsub, generated, hgenerated, ?_⟩
  exact generate_of_larger_schema_set _ Basket.files largerBasketSet {} hsub (by decide) (by decide)
    (by decide) generated hgenerated

end Generation

end RpcStubs
