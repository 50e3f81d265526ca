/-
# What is imported is generated

If the files that are asked for include their dependencies, the generated
modules link up: whatever a module imports, from another schema file or from the
messages of its own, is the message module of that file, and it is among what
was generated.  The well-known files are the exception, as they come from a
package.

Imports are written in three places: those of a message module, the messages of
its own file in a service module, and what its methods need of other files.  All
three go by the same path, so that one fact about paths serves them
(`SchemaPath.resolve_toRoot`).  What a module imports is read off its text.
-/
import RpcStubs.Proofs.ImportLines
import RpcStubs.Proofs.ImportPaths
import RpcStubs.Proofs.Records

namespace RpcStubs

open Text (OneLine)

/-! ## Closed generation -/

namespace Generation

variable {names : List String} {files : List File} {settings : Settings}

/-- The two modules of a file that is asked for by name. -/
structure Pair (files : List File) (settings : Settings) (name : String) (file : File)
    (messages services : GeneratedFile) : Prop where
  inForce : fileInForce? files name = some file
  messages : (messageFile (Index.ofFiles (filesInForce files)) settings.wellKnown
    (SchemaPath.moduleStem name) file).result = .ok messages
  services : (serviceFile (Index.ofFiles (filesInForce files)) settings.wellKnown
    (SchemaPath.moduleStem name) file).result = .ok services

theorem pairs_of_generate {generated : List GeneratedFile}
    (hmessages : settings.emitMessages = true)
    (h : (generate names files settings).result = .ok generated) :
    (∀ name ∈ names, ∃ f m s, Pair files settings name f m s ∧ m ∈ generated ∧ s ∈ generated) ∧
    ∀ g ∈ generated, ∃ name ∈ names, ∃ f m s, Pair files settings name f m s ∧ (g = m ∨ g = s) := by
  have hrecords := records_of_generate h
  have hkinds : ∀ kind : ModuleKind, kind ∈ settings.kinds := by
    unfold Settings.kinds
    rw [if_pos hmessages]
    intro kind
    cases kind <;> decide
  have hpairs : ∀ name ∈ names,
      ∃ f m s, Pair files settings name f m s ∧ m ∈ generated ∧ s ∈ generated := by
    intro name hname
    have hmem : ∀ kind, (name, kind) ∈ names ×ˢ settings.kinds := fun kind =>
      List.mem_product.mpr ⟨hname, hkinds kind⟩
    obtain ⟨m, hm, f, hf, hmessages⟩ := exists_of_forall₂ hrecords (hmem .messages)
    obtain ⟨s, hs, f', hf', hservices⟩ := exists_of_forall₂ hrecords (hmem .services)
    cases hf.symm.trans hf'
    obtain ⟨-, rfl⟩ := mem_of_fileInForce? hf
    exact ⟨f, m, s, ⟨hf, hmessages, hservices⟩, hm, hs⟩
  refine ⟨hpairs, ?_⟩
  intro g hg
  obtain ⟨⟨name, kind⟩, hp, f, hf, hrecord⟩ := exists_of_forall₂ hrecords.flip hg
  have hname := (List.mem_product.mp hp).1
  obtain ⟨f', m, s, hpair, -, -⟩ := hpairs name hname
  cases hf.symm.trans hpair.inForce
  obtain ⟨-, rfl⟩ := mem_of_fileInForce? hf
  refine ⟨f.name, hname, f, m, s, hpair, ?_⟩
  cases kind with
  | messages => exact .inl (Except.ok.inj (hrecord.symm.trans hpair.messages))
  | services => exact .inr (Except.ok.inj (hrecord.symm.trans hpair.services))

/-- A request for message modules and all that they depend on, the well-known files apart, out of
files whose names are relative paths in normal form. -/
structure Closed (names : List String) (files : List File) (settings : Settings) : Prop where
  normal : ∀ f ∈ files, DiskPath.IsNormal f.name
  messages : settings.emitMessages = true
  dependencies : ∀ name ∈ names, ∀ f, fileInForce? files name = some f →
    ∀ d ∈ f.dependencies, d ∉ settings.wellKnown.keys → d ∈ names

/-- An import stands for a schema file, and its path leads from the module that holds it to the
message module of that file, which is among what was generated. -/
structure Linked (files : List File) (settings : Settings) (generated : List GeneratedFile)
    (holder : GeneratedFile) (i : Import) (target : String) : Prop where
  token : i.token = SchemaPath.token target
  leads : ∃ t, fileInForce? files target = some t ∧ ∃ r ∈ generated,
    (messageFile (Index.ofFiles (filesInForce files)) settings.wellKnown
      (SchemaPath.moduleStem target) t).result = .ok r ∧
    DiskPath.resolve (DiskPath.directory holder.name) i.path ++ ".ts" = r.name

/-- Where an import in a module of a file leads: to the package of the well-known files, for a
dependency that is one of them, or to what was generated, for any other and for the file itself. -/
def Resolves (files : List File) (settings : Settings) (generated : List GeneratedFile) (f : File)
    (holder : GeneratedFile) (i : Import) : Prop :=
  (∃ d ∈ f.dependencies, ∃ path, settings.wellKnown.find? d = some path ∧
    i = ⟨SchemaPath.token d, path⟩) ∨
  ∃ target, (target = f.name ∨ target ∈ f.dependencies ∧ target ∉ settings.wellKnown.keys) ∧
    Linked files settings generated holder i target

section

variable {generated : List GeneratedFile} {f : File} {holder : GeneratedFile} {suffix : String}
  (hclosed : Closed names files settings)
  (h : (generate names files settings).result = .ok generated)
  (hf : fileInForce? files f.name = some f) (hname : f.name ∈ names)
  (hholder : holder.name = SchemaPath.moduleStem f.name ++ suffix) (hsuffix : '/' ∉ suffix.toList)

include hclosed h hf hholder hsuffix

/-- An import by way of the root is linked, if the file that it stands for is asked for. -/
theorem linked_of_path {target : String} (htarget : target ∈ names) {i : Import}
    (htoken : i.token = SchemaPath.token target)
    (hpath : i.path = SchemaPath.toRoot f.name ++ SchemaPath.moduleStem target) :
    Linked files settings generated holder i target := by
  obtain ⟨t, m, s, hpair, hm, -⟩ := (pairs_of_generate hclosed.messages h).1 target htarget
  obtain ⟨ht, rfl⟩ := mem_of_fileInForce? hpair.inForce
  have hhost := hclosed.normal f (mem_of_fileInForce? hf).1
  refine ⟨htoken, t, hpair.inForce, m, hm, hpair.messages, ?_⟩
  rw [hholder, hpath, SchemaPath.resolve_toRoot hhost (hclosed.normal t ht) hsuffix,
    name_messageFile hpair.messages]

include hname

theorem resolves_ofHost : Resolves files settings generated f holder (.ofHost f.name) :=
  .inr ⟨f.name, .inl rfl, linked_of_path hclosed h hf hholder hsuffix hname rfl rfl⟩

theorem resolves_ofDependency {d : String} (hd : d ∈ f.dependencies) :
    Resolves files settings generated f holder (.ofDependency f.name settings.wellKnown d) := by
  cases hfind : settings.wellKnown.find? d with
  | some path =>
      refine .inl ⟨d, hd, path, hfind, ?_⟩
      simp only [Import.ofDependency, SchemaPath.importPath, hfind]
  | none =>
      have hkey : d ∉ settings.wellKnown.keys := by
        rw [Table.mem_keys_iff_find?, hfind]
        nofun
      have htarget := hclosed.dependencies f.name hname f hf d hd hkey
      refine .inr ⟨d, .inr ⟨hd, hkey⟩, linked_of_path hclosed h hf hholder hsuffix htarget rfl ?_⟩
      simp only [Import.ofDependency, SchemaPath.importPath, hfind]

end

/-- If the files that are asked for include their dependencies, the well-known ones apart, the
imports of every module lead to where they should.  They stand at its head, and nowhere else if no
name holds a line break. -/
theorem imports_link_up (names : List String) (files : List File) (settings : Settings)
    (generated : List GeneratedFile) (hclosed : Closed names files settings)
    (h : (generate names files settings).result = .ok generated) :
    ∀ g ∈ generated, ∃ f ∈ files, f.name ∈ names ∧ ∃ imports, g.OpensWith f imports ∧
      (∀ i ∈ imports, Resolves files settings generated f g i) ∧
      ((∀ f ∈ files, ∀ name ∈ f.names, OneLine name) →
        (∀ path ∈ settings.wellKnown.values, OneLine path) →
        Text.importLines g.content = imports.map Import.line) := by
  intro g hg
  obtain ⟨name, hname, f, m, s, hpair, hg⟩ := (pairs_of_generate hclosed.messages h).2 g hg
  obtain ⟨hf, rfl⟩ := mem_of_fileInForce? hpair.inForce
  rcases hg with rfl | rfl
  · have hholder := name_messageFile hpair.messages
    obtain ⟨module, hmodule, hg⟩ := Traced.result_bind_eq_ok.mp hpair.messages
    cases hg
    refine ⟨f, hf, hname, f.dependencies.map (.ofDependency f.name settings.wellKnown),
      MessageModule.opensWith hmodule _, ?_, ?_⟩
    · intro i hi
      obtain ⟨d, hd, rfl⟩ := List.mem_map.mp hi
      exact resolves_ofDependency hclosed h hpair.inForce hname hholder (by decide) hd
    · intro hfiles hwell
      have hinForce := fun g hg => hfiles g (filesInForce_subset files hg)
      exact MessageModule.importLines_text hmodule hinForce (hfiles f hf) hwell
  · have hholder := name_serviceFile hpair.services
    obtain ⟨text, htext, hg⟩ := Traced.result_bind_eq_ok.mp hpair.services
    obtain ⟨imports, hopens, himports, hlines⟩ := ServiceModule.imports_text htext g.name
    cases hg
    refine ⟨f, hf, hname, imports, hopens, ?_, ?_⟩
    · intro i hi
      rcases himports i hi with rfl | ⟨d, hd, rfl⟩
      · exact resolves_ofHost hclosed h hpair.inForce hname hholder (by decide)
      · exact resolves_ofDependency hclosed h hpair.inForce hname hholder (by decide) hd
    · intro hfiles hwell
      exact hlines (fun g hg => hfiles g (filesInForce_subset files hg)) (hfiles f hf) hwell

/-! A service two directories deep, with a method that takes a message of another directory and
returns a well-known one. -/

namespace Till

def schema : File where
  name := "shop/v1/till.proto"
  package := "shop"
  dependencies := ["common/money.proto", "google/protobuf/empty.proto"]
  services := [{
    name := "Till"
    methods := [{
      name := "Pay", inputType := ".common.Money", outputType := ".google.protobuf.Empty" }] }]

def schemaSet : List File :=
  [{ name := "google/protobuf/empty.proto", package := "google.protobuf"
     messages := [{ name := "Empty" }] },
    { name := "common/money.proto", package := "common", messages := [{ name := "Money" }] },
    schema]

def asked : List String := ["shop/v1/till.proto", "common/money.proto"]

theorem closed : Closed asked schemaSet {} := by
  have hdependencies : ∀ f ∈ schemaSet, f.name ∈ asked →
      ∀ d ∈ f.dependencies, d ∉ WellKnown.default.keys → d ∈ asked := by decide
  refine ⟨by decide, rfl, ?_⟩
  intro name hname f hf
  obtain ⟨hmem, rfl⟩ := mem_of_fileInForce? hf
  exact hdependencies f hmem hname

theorem oneLine : ∀ f ∈ schemaSet, ∀ name ∈ f.names, OneLine name := by
  decide

end Till

theorem imports_link_up_till :
    Closed Till.asked Till.schemaSet {} ∧ ∃ generated,
      (generate Till.asked Till.schemaSet {}).result = .ok generated ∧
      generated.map (·.name) = ["shop/v1/till_pb.ts", "shop/v1/till_pb_service.ts",
        "common/money_pb.ts", "common/money_pb_service.ts"] ∧
      ∀ g ∈ generated, ∃ f ∈ Till.schemaSet, f.name ∈ Till.asked ∧ ∃ imports,
        g.OpensWith f imports ∧ (∀ i ∈ imports, Resolves Till.schemaSet {} generated f g i) ∧
        Text.importLines g.content = imports.map Import.line := by
  have hwell : ∀ path ∈ WellKnown.default.values, OneLine path :=
    Text.oneLine_wellKnown (by decide)
  refine ⟨Till.closed, _, rfl, rfl, ?_⟩
  intro g hg
  obtain ⟨f, hf, hname, imports, hopens, hresolves, hlines⟩ :=
    imports_link_up _ _ _ _ Till.closed rfl g hg
  exact ⟨f, hf, hname, imports, hopens, hresolves, hlines Till.oneLine hwell⟩

end Generation

end RpcStubs
