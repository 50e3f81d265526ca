/-
# Generation succeeds exactly on well-formed input

Failures come from many places: a name that is asked for and not there, a
representation that does not fit, a oneof group that is not declared, a type
that cannot be resolved in a field, in an extension or in a method.  This module
shows that together they decide one predicate, `Generation.WellFormed`, that
speaks of the schema set alone:

  * what is asked for is there;
  * if messages are emitted, those of each file that is asked for are sound
    (`File.MessagesSound`);
  * every method of such a file has types that can be resolved, whether it
    streams or not (`File.MethodsSound`).

Of several files with one name the last counts, and it counts at the place of
the first: `filesInForce` is the schema set that is left.  The index that types
are looked up in is that of the files in force.
-/
import RpcStubs.Generation
import RpcStubs.Proofs.Emitted
import RpcStubs.Proofs.Scripts
import RpcStubs.Proofs.Tables

namespace RpcStubs

variable {ix : Index} {file : File} {wellKnown : Table String}

/-! ## Methods -/

/-- The types of a method can be resolved. -/
structure Method.Sound (ix : Index) (m : Method) : Prop where
  input : ix.Resolvable ⟨.message, TypeName.bare m.inputType⟩
  output : ix.Resolvable ⟨.message, TypeName.bare m.outputType⟩

/-- The types of all methods of a file can be resolved. -/
def File.MethodsSound (ix : Index) (file : File) : Prop :=
  ∀ s ∈ file.services, ∀ m ∈ s.methods, m.Sound ix

theorem Method.succeeds_types {m : Method} : (m.types ix).Succeeds ↔ m.Sound ix := by
  unfold Method.types
  rw [Traced.succeeds_bind]
  constructor
  · rintro ⟨request, hreq, h⟩
    obtain ⟨response, hresp, -⟩ := Traced.succeeds_bind.mp h
    exact ⟨Index.succeeds_valueType.mp ⟨request, hreq⟩,
      Index.succeeds_valueType.mp ⟨response, hresp⟩⟩
  · rintro ⟨hin, hout⟩
    obtain ⟨request, hreq⟩ := (@Index.succeeds_valueType ix "" _).mpr hin
    have hout := (@Index.succeeds_valueType ix "" _).mpr hout
    exact ⟨request, hreq, (Traced.succeeds_bind_of_forall fun _ => Traced.succeeds_pure _).mpr hout⟩

theorem Service.succeeds_calls {s : Service} :
    (s.calls ix).Succeeds ↔ ∀ m ∈ s.methods, m.Sound ix := by
  unfold Service.calls
  rw [Traced.succeeds_mapM]
  refine forall₂_congr fun m _ => ?_
  rw [← Method.succeeds_types]
  exact Traced.succeeds_bind_of_forall fun _ => Traced.succeeds_pure _

namespace File

theorem succeeds_methodsUse {token : String} {ms : List Method} (h : ∀ m ∈ ms, m.Sound ix) :
    (methodsUse ix token ms).Succeeds := by
  induction ms with
  | nil => exact Traced.succeeds_pure _
  | cons m ms ih =>
      obtain ⟨types, ht⟩ := Method.succeeds_types.mpr (h m List.mem_cons_self)
      refine Traced.succeeds_bind.mpr ⟨types, ht, ?_⟩
      show (if _ then _ else _ : Traced Bool).Succeeds
      split
      · exact Traced.succeeds_pure _
      · exact ih fun m hm => h m (List.mem_cons_of_mem _ hm)

theorem sound_of_mem_methods (h : file.MethodsSound ix) : ∀ m ∈ file.methods, m.Sound ix := by
  intro m hm
  obtain ⟨s, hs, hm⟩ := List.mem_flatMap.mp hm
  exact h s hs m hm

theorem succeeds_serviceImports (h : file.MethodsSound ix) :
    (file.serviceImports ix wellKnown).Succeeds := by
  refine (Traced.succeeds_bind_of_forall fun _ => Traced.succeeds_pure _).mpr ?_
  refine Traced.succeeds_mapM.mpr fun dependency _ => ?_
  obtain ⟨used, hused⟩ := succeeds_methodsUse (sound_of_mem_methods h)
  refine Traced.succeeds_bind.mpr ⟨used, hused, ?_⟩
  cases used with
  | true => exact Traced.succeeds_pure _
  | false => exact Traced.succeeds_bind.mpr ⟨(), rfl, Traced.succeeds_pure _⟩

end File

namespace ServiceModule

open Script

theorem failure_aliasBlock (c : Call) : (aliasBlock c).failure = none := rfl

theorem failure_aliases (calls : List Call) : (join (calls.map aliasBlock)).failure = none := by
  rw [failure_join, List.findSome?_eq_none_iff]
  exact List.forall_mem_map.mpr fun c _ => failure_aliasBlock c

theorem failure_aliases_class (name : String) (calls : List Call) :
    (join (calls.map aliasBlock) ++ braced ("class " ++ name ++ " \x7b")
      (lines ("static readonly serviceName: string;" :: calls.map aliasLine))).failure = none := by
  rw [failure_append, failure_aliases, failure_braced, failure_lines]
  rfl

theorem failure_serviceTypes (name : String) (calls : List Call) :
    (serviceTypes name calls).failure = none := by
  unfold serviceTypes
  rw [failure_append, failure_aliases_class, failure_gap]
  rfl

theorem failure_stubs (service : String) (calls : List Call) :
    (join (calls.map (stubs service))).failure = none := by
  rw [failure_join, List.findSome?_eq_none_iff]
  refine List.forall_mem_map.mpr fun c _ => ?_
  unfold stubs
  split
  next => rfl
  next => rfl

theorem failure_client {s : Service} : (client ix s).failure = none ↔ (s.calls ix).Succeeds := by
  have hbase : clientBase.failure = none := rfl
  simp only [client, failure_append, failure_braced, failure_gap, hbase, Option.none_or,
    Option.or_none]
  rw [failure_given_eq_none]
  exact ⟨fun ⟨calls, h, _⟩ => ⟨calls, h⟩, fun ⟨calls, h⟩ => ⟨calls, h, failure_stubs _ _⟩⟩

/-- The namespace of a module is written exactly if the methods of every service can be
resolved. -/
theorem failure_body {first : Service} {services : List Service} :
    (body ix first services).failure = none ↔ ∀ s ∈ services, (s.calls ix).Succeeds := by
  have htypes : ∀ s : Service, (given (s.calls ix) (serviceTypes s.name)).failure = none
      ↔ (s.calls ix).Succeeds := by
    intro s
    rw [failure_given_eq_none]
    exact ⟨fun ⟨calls, h, _⟩ => ⟨calls, h⟩, fun ⟨calls, h⟩ => ⟨calls, h, failure_serviceTypes _ _⟩⟩
  have henvelopes : envelopes.failure = none := rfl
  simp only [body, failure_braced, failure_append, failure_join, henvelopes, Option.none_or,
    Option.or_eq_none_iff, List.findSome?_eq_none_iff, List.forall_mem_map, htypes, failure_client,
    and_self]

/-- The service module of a file exists exactly if the types of all its methods can be
resolved. -/
theorem succeeds_text : (text ix wellKnown file).Succeeds ↔ file.MethodsSound ix := by
  have hcalls : (∀ s ∈ file.services, (s.calls ix).Succeeds) ↔ file.MethodsSound ix :=
    forall₂_congr fun s _ => Service.succeeds_calls
  have hheader : (header file).failure = none := rfl
  unfold text run
  rw [succeeds_text_run, ← hcalls]
  unfold script
  split
  next hnone => simp [hheader, hnone]
  next first rest hsome =>
    simp only [failure_append, hheader, Option.none_or, failure_given_eq_none, failure_lines,
      failure_gap, failure_body]
    constructor
    · rintro ⟨imports, -, h⟩
      exact h
    · intro h
      obtain ⟨imports, himports⟩ := File.succeeds_serviceImports (hcalls.mp h)
      exact ⟨imports, himports, h⟩

end ServiceModule

/-! ## The schema set -/

namespace Generation

variable {names : List String} {files : List File} {settings : Settings}

/-- The file that a name stands for in a schema set: the last one of that name. -/
def fileInForce? (files : List File) (name : String) : Option File :=
  files.reverse.find? (·.name == name)

/-- The files that count, each at the place where its name comes first. -/
def filesInForce (files : List File) : List File :=
  (files.map (·.name)).eraseDups.filterMap (fileInForce? files)

theorem find?_filesByName (files : List File) (name : String) :
    (filesByName files).find? name = fileInForce? files name := by
  unfold filesByName fileInForce?
  rw [Table.find?_ofList, ← List.map_reverse, List.find?_map, Option.map_map]
  simp [Function.comp_def]

theorem values_filesByName (files : List File) :
    (filesByName files).values = filesInForce files := by
  have hnodup : (filesByName files).keys.Nodup := Table.nodup_keys_ofList _
  have hkeys : (filesByName files).keys = (files.map (·.name)).eraseDups := by
    unfold filesByName
    rw [Table.keys_ofList, List.map_map]
    rfl
  rw [Table.values_eq_filterMap hnodup, hkeys]
  exact List.filterMap_congr fun name _ => find?_filesByName files name

theorem fileInForce?_isSome {name : String} :
    (∃ f, fileInForce? files name = some f) ↔ ∃ f ∈ files, f.name = name := by
  rw [← Option.isSome_iff_exists]
  simp [fileInForce?, List.find?_isSome]

/-- What can be generated: what is asked for is there, and what is generated of it is in order
under the index of the files in force. -/
structure WellFormed (names : List String) (files : List File) (settings : Settings) : Prop where
  present : ∀ name ∈ names, ∃ f ∈ files, f.name = name
  messages : settings.emitMessages = true → ∀ name ∈ names, ∀ f, fileInForce? files name = some f →
    f.MessagesSound (Index.ofFiles (filesInForce files))
  methods : ∀ name ∈ names, ∀ f, fileInForce? files name = some f →
    f.MethodsSound (Index.ofFiles (filesInForce files))

theorem succeeds_messageFile {stem : String} :
    (messageFile ix wellKnown stem file).Succeeds ↔ file.MessagesSound ix := by
  rw [← @MessageModule.succeeds_ofFile ix file wellKnown]
  exact Traced.succeeds_bind_of_forall fun _ => Traced.succeeds_pure _

theorem succeeds_serviceFile {stem : String} :
    (serviceFile ix wellKnown stem file).Succeeds ↔ file.MethodsSound ix := by
  rw [← @ServiceModule.succeeds_text ix file wellKnown]
  exact Traced.succeeds_bind_of_forall fun _ => Traced.succeeds_pure _

theorem succeeds_modules :
    (modules ix settings file).Succeeds ↔
      (settings.emitMessages = true → file.MessagesSound ix) ∧ file.MethodsSound ix := by
  unfold modules
  cases settings.emitMessages with
  | false =>
      refine (Traced.succeeds_bind_of_forall fun _ => Traced.succeeds_pure _).trans ?_
      simp [succeeds_serviceFile]
  | true =>
      refine Traced.succeeds_bind.trans ?_
      rw [← @succeeds_messageFile ix file settings.wellKnown (SchemaPath.moduleStem file.name),
        ← @succeeds_serviceFile ix file settings.wellKnown (SchemaPath.moduleStem file.name)]
      constructor
      · rintro ⟨m, hm, h⟩
        obtain ⟨s, hs, -⟩ := Traced.succeeds_bind.mp h
        exact ⟨fun _ => ⟨m, hm⟩, ⟨s, hs⟩⟩
      · rintro ⟨hm, ⟨s, hs⟩⟩
        obtain ⟨m, hm⟩ := hm rfl
        exact ⟨m, hm, Traced.succeeds_bind.mpr ⟨s, hs, Traced.succeeds_pure _⟩⟩

theorem succeeds_requested {name : String} :
    (requested (filesByName files) ix settings name).Succeeds ↔
      ∃ f, fileInForce? files name = some f ∧
        (settings.emitMessages = true → f.MessagesSound ix) ∧ f.MethodsSound ix := by
  unfold requested
  rw [find?_filesByName]
  cases fileInForce? files name with
  | none => simp
  | some f => simp [succeeds_modules]

/-- Generation succeeds exactly on well-formed input. -/
theorem generate_succeeds_iff_wellFormed (names : List String) (files : List File)
    (settings : Settings) :
    (∃ generated, (generate names files settings).result = .ok generated) ↔
      WellFormed names files settings := by
  have hgenerate : (generate names files settings).Succeeds ↔ ∀ name ∈ names,
      (requested (filesByName files) (Index.ofFiles (filesInForce files)) settings
        name).Succeeds := by
    rw [← Traced.succeeds_mapM, ← values_filesByName]
    refine Traced.succeeds_bind_const.trans ?_
    rw [Traced.succeeds_bind_of_forall fun _ => Traced.succeeds_pure _]
    exact and_iff_right ⟨(), rfl⟩
  refine hgenerate.trans ?_
  simp only [succeeds_requested]
  constructor
  · intro h
    refine ⟨?_, ?_, ?_⟩
    · intro name hname
      obtain ⟨f, hf, -⟩ := h name hname
      exact fileInForce?_isSome.mp ⟨f, hf⟩
    · intro hemit name hname f hf
      obtain ⟨f', hf', hm, -⟩ := h name hname
      rw [hf] at hf'
      cases hf'
      exact hm hemit
    · intro name hname f hf
      obtain ⟨f', hf', -, hs⟩ := h name hname
      rw [hf] at hf'
      cases hf'
      exact hs
  · intro h name hname
    obtain ⟨f, hf⟩ := fileInForce?_isSome.mpr (h.present name hname)
    exact ⟨f, hf, fun hemit => h.messages hemit name hname f hf, h.methods name hname f hf⟩

end Generation

end RpcStubs
