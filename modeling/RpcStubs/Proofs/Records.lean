/-
# One record for each module

Every file that is asked for gives a message module, unless messages are switched
off, and a service module.  `records_of_generate` says that this is all that is
generated, and in which order: a record for each pair of a file and a kind.

The name of a record is made from the name of its file.  The ending `.proto` gives
way to `_pb.ts` or `_pb_service.ts`, and neither of the two is the end of the
other.  So the name of a record tells its file and its kind (`origin?`), whatever
stands before the ending, and no record takes the place of another.

Without the ending nothing is replaced: a file called `a_pb` and one called
`a.proto` share the message module `a_pb.ts`.
-/
import Mathlib.Data.List.Nodup
import Mathlib.Data.List.ProdSigma
import RpcStubs.Proofs.Pieces
import RpcStubs.Proofs.SchemaSets

namespace RpcStubs

namespace Generation

variable {ix : Index} {wellKnown : Table String} {stem : String} {file : File} {g : GeneratedFile}

theorem name_messageFile (h : (messageFile ix wellKnown stem file).result = .ok g) :
    g.name = stem ++ ".ts" := by
  obtain ⟨m, -, h⟩ := Traced.result_bind_eq_ok.mp h
  cases h
  rfl

theorem name_serviceFile (h : (serviceFile ix wellKnown stem file).result = .ok g) :
    g.name = stem ++ "_service.ts" := by
  obtain ⟨t, -, h⟩ := Traced.result_bind_eq_ok.mp h
  cases h
  rfl

end Generation

/-- The kinds of generated modules. -/
inductive ModuleKind where
  | messages
  | services
deriving DecidableEq, Repr

namespace ModuleKind

/-- The ending of a module's name, behind the stem. -/
def ending : ModuleKind → String
  | .messages => ".ts"
  | .services => "_service.ts"

/-- The name of the module of a schema file. -/
def recordName (kind : ModuleKind) (file : String) : String :=
  SchemaPath.moduleStem file ++ kind.ending

/-- The module of a schema file, as a record. -/
def record (kind : ModuleKind) (ix : Index) (wellKnown : Table String) (file : File) :
    Traced GeneratedFile :=
  match kind with
  | .messages => Generation.messageFile ix wellKnown (SchemaPath.moduleStem file.name) file
  | .services => Generation.serviceFile ix wellKnown (SchemaPath.moduleStem file.name) file

theorem name_record {kind : ModuleKind} {ix : Index} {wellKnown : Table String} {file : File}
    {g : GeneratedFile} (h : (kind.record ix wellKnown file).result = .ok g) :
    g.name = kind.recordName file.name := by
  cases kind with
  | messages => exact Generation.name_messageFile h
  | services => exact Generation.name_serviceFile h

end ModuleKind

/-- The kinds of modules that are generated. -/
def Settings.kinds (s : Settings) : List ModuleKind :=
  if s.emitMessages then [.messages, .services] else [.services]

theorem Settings.nodup_kinds (s : Settings) : s.kinds.Nodup := by
  unfold kinds
  split <;> decide

theorem Settings.services_mem_kinds (s : Settings) : .services ∈ s.kinds := by
  unfold kinds
  split <;> decide

/-! ## What is generated -/

namespace Generation

variable {names : List String} {files : List File} {settings : Settings}
  {generated : List GeneratedFile}

/-- A record is the module of a kind of the file that a name stands for. -/
def IsRecord (files : List File) (settings : Settings) (p : String × ModuleKind)
    (g : GeneratedFile) : Prop :=
  ∃ f, fileInForce? files p.1 = some f ∧
    (p.2.record (Index.ofFiles (filesInForce files)) settings.wellKnown f).result = .ok g

theorem IsRecord.name_eq {p : String × ModuleKind} {g : GeneratedFile}
    (h : IsRecord files settings p g) : g.name = p.2.recordName p.1 := by
  obtain ⟨f, hf, hg⟩ := h
  rw [← (mem_of_fileInForce? hf).2]
  exact ModuleKind.name_record hg

theorem modules_eq_mapM (ix : Index) (settings : Settings) (file : File) :
    modules ix settings file
      = settings.kinds.mapM fun kind => kind.record ix settings.wellKnown file := by
  unfold modules Settings.kinds
  cases settings.emitMessages with
  | true => simp [ModuleKind.record]
  | false => simp [ModuleKind.record]

theorem requested_eq_ok {name : String} {records : List GeneratedFile} :
    (requested (filesByName files) (.ofFiles (filesInForce files)) settings name).result
      = .ok records ↔
      ∃ f, fileInForce? files name = some f ∧ List.Forall₂ (fun kind g =>
        (kind.record (Index.ofFiles (filesInForce files)) settings.wellKnown f).result = .ok g)
        settings.kinds records := by
  unfold requested
  rw [find?_filesByName]
  cases fileInForce? files name with
  | none => simp
  | some f =>
      show (modules _ settings f).result = _ ↔ _
      rw [modules_eq_mapM, Traced.result_mapM_eq_ok]
      simp

/-- What is generated is a record for each file that is asked for and each kind, in this order. -/
theorem records_of_generate (h : (generate names files settings).result = .ok generated) :
    List.Forall₂ (IsRecord files settings) (names ×ˢ settings.kinds) generated := by
  obtain ⟨modules, hmodules, rfl⟩ := generate_eq_ok.mp h
  clear h
  induction hmodules with
  | nil => exact .nil
  | @cons name records names modules hrecords _ ih =>
      obtain ⟨f, hf, hrecords⟩ := requested_eq_ok.mp hrecords
      rw [List.product_cons, List.flatten_cons]
      refine List.rel_append ?_ ih
      rw [List.forall₂_map_left_iff]
      exact hrecords.imp fun kind g hg => ⟨f, hf, hg⟩

theorem names_of_generate (h : (generate names files settings).result = .ok generated) :
    generated.map (·.name) = (names ×ˢ settings.kinds).map fun p => p.2.recordName p.1 :=
  (map_eq_of_forall₂ (records_of_generate h) fun _ _ hg => hg.name_eq.symm).symm

/-! ## What the name of a record tells -/

/-- The schema file that a record comes from and the kind of its module, told from its name. -/
def origin? (record : String) : Option (String × ModuleKind) :=
  match Text.beforeSuffix? "_pb.ts".toList record.toList with
  | some stem => some (String.ofList stem ++ ".proto", .messages)
  | none =>
    match Text.beforeSuffix? "_pb_service.ts".toList record.toList with
    | some stem => some (String.ofList stem ++ ".proto", .services)
    | none => none

section

variable {record : String} {stem : List Char}

theorem origin?_of_messages (h : record.toList = stem ++ "_pb.ts".toList) :
    origin? record = some (String.ofList stem ++ ".proto", .messages) := by
  unfold origin?
  rw [Text.beforeSuffix?_eq_some.mpr h]

theorem origin?_of_services (h : record.toList = stem ++ "_pb_service.ts".toList) :
    origin? record = some (String.ofList stem ++ ".proto", .services) := by
  have hmessages : Text.beforeSuffix? "_pb.ts".toList record.toList = none := by
    rw [Option.eq_none_iff_forall_ne_some]
    intro stem' hstem'
    -- the last six characters would have to be those of either ending
    have hboth : stem' ++ "_pb.ts".toList = (stem ++ "_pb_serv".toList) ++ "ice.ts".toList := by
      rw [← Text.beforeSuffix?_eq_some.mp hstem', h, List.append_assoc]
      rfl
    exact absurd (List.append_inj' hboth (by decide)).2 (by decide)
  unfold origin?
  rw [hmessages, Text.beforeSuffix?_eq_some.mpr h]

end

theorem origin?_recordName {name : String} (h : ".proto".toList <:+ name.toList)
    (kind : ModuleKind) :
    origin? (kind.recordName name) = some (name, kind) := by
  obtain ⟨stem, hname⟩ := h
  have hfile : String.ofList stem ++ ".proto" = name := by
    apply String.toList_inj.mp
    rw [String.toList_append, String.toList_ofList, hname]
  have hstem : SchemaPath.moduleStem name = String.ofList stem ++ "_pb" := by
    have hbefore : Text.beforeSuffix? SchemaPath.ending name.toList = some stem :=
      Text.beforeSuffix?_eq_some.mpr hname.symm
    unfold SchemaPath.moduleStem
    rw [hbefore]
    rfl
  cases kind with
  | messages =>
      rw [← hfile]
      refine origin?_of_messages ?_
      rw [hfile, ModuleKind.recordName, hstem]
      simp [ModuleKind.ending]
  | services =>
      rw [← hfile]
      refine origin?_of_services ?_
      rw [hfile, ModuleKind.recordName, hstem]
      simp [ModuleKind.ending]

/-- If the files that are asked for are different and all end in `.proto`, what is generated has
different names, and each name tells the file and the kind of the module that stands under it. -/
theorem record_names_tell_origin (names : List String) (files : List File) (settings : Settings)
    (generated : List GeneratedFile) (hnodup : names.Nodup)
    (hending : ∀ name ∈ names, ".proto".toList <:+ name.toList)
    (h : (generate names files settings).result = .ok generated) :
    (generated.map (·.name)).Nodup ∧
    generated.map (fun g => origin? g.name) = (names ×ˢ settings.kinds).map some ∧
    ∀ g ∈ generated, ∃ p ∈ names ×ˢ settings.kinds, origin? g.name = some p ∧
      IsRecord files settings p g := by
  have horigin : ∀ p ∈ names ×ˢ settings.kinds, origin? (p.2.recordName p.1) = some p := by
    intro p hp
    exact origin?_recordName (hending p.1 (List.mem_product.mp hp).1) p.2
  refine ⟨?_, ?_, ?_⟩
  · rw [names_of_generate h]
    refine (hnodup.product settings.nodup_kinds).map_on ?_
    intro p hp q hq heq
    have hboth : some p = some q := by rw [← horigin p hp, heq, horigin q hq]
    exact Option.some.inj hboth
  · have hnames : generated.map (fun g => origin? g.name)
        = (generated.map (·.name)).map origin? := by
      rw [List.map_map]
      rfl
    rw [hnames, names_of_generate h, List.map_map]
    refine List.map_congr_left fun p hp => ?_
    rw [Function.comp_apply]
    exact horigin p hp
  · intro g hg
    obtain ⟨p, hp, hrecord⟩ := exists_of_forall₂ (records_of_generate h).flip hg
    refine ⟨p, hp, ?_, hrecord⟩
    rw [IsRecord.name_eq hrecord]
    exact horigin p hp

/-! Files whose names lie close to each other's records. -/

namespace Journal

def schemaSet : List File :=
  [{ name := "journal.proto", messages := [{ name := "Entry" }] },
   { name := "journal_pb_service.proto" },
   { name := "journal_pb.ts.proto" }]

def asked : List String := ["journal_pb_service.proto", "journal.proto", "journal_pb.ts.proto"]

theorem succeeds_generate : (generate asked schemaSet {}).Succeeds := ⟨_, rfl⟩

end Journal

theorem record_names_tell_origin_journal :
    Journal.asked.Nodup ∧ (∀ name ∈ Journal.asked, ".proto".toList <:+ name.toList) ∧
    ∃ generated, (generate Journal.asked Journal.schemaSet {}).result = .ok generated ∧
      generated.map (·.name) = ["journal_pb_service_pb.ts", "journal_pb_service_pb_service.ts",
        "journal_pb.ts", "journal_pb_service.ts", "journal_pb.ts_pb.ts",
        "journal_pb.ts_pb_service.ts"] ∧
      (generated.map (·.name)).Nodup ∧
      generated.map (fun g => origin? g.name) = [some ("journal_pb_service.proto", .messages),
        some ("journal_pb_service.proto", .services), some ("journal.proto", .messages),
        some ("journal.proto", .services), some ("journal_pb.ts.proto", .messages),
        some ("journal_pb.ts.proto", .services)] := by
  have hnodup : Journal.asked.Nodup := by decide
  have hending : ∀ name ∈ Journal.asked, ".proto".toList <:+ name.toList := by decide
  obtain ⟨generated, h⟩ := Journal.succeeds_generate
  obtain ⟨hdistinct, horigins, -⟩ := record_names_tell_origin _ _ _ _ hnodup hending h
  exact ⟨hnodup, hending, generated, h, names_of_generate h, hdistinct, horigins⟩

end Generation

end RpcStubs
