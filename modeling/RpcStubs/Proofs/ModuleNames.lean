/-
# When the names inside of a service module are different

All services of a file share one namespace.  It declares the two envelopes; for
each service an alias per method, named by the service's name and the method's
one after the other, and a class; and for each service a client, which is always
called `Client`.

Services may have different names, and methods of one service too, and still two
declarations can meet.  The clients of two services always do.  Aliases meet
where names are cut in different places (`Order` with `ItemGet`, `OrderItem` with
`Get`), and an alias or a class may have the name of a class, of an envelope or
of the client.  These are all the ways (`declared_names_distinct_iff`).

What is declared is read off the lines: two columns in are those directly inside
of the namespace, and of these the ones that open a class or a type
(`Line.declared?`).
-/
import Mathlib.Data.List.Nodup
import Mathlib.Data.List.Perm.Basic
import RpcStubs.Proofs.ModuleLayout
import RpcStubs.Proofs.Outline

namespace RpcStubs

variable {ix : Index} {file : File}

/-! ## Reading names off lines -/

/-- What a text declares, if it opens a class or a type. -/
def Text.declared? (text : String) : Option String :=
  let name? (opening closing : String) := between? opening.toList closing.toList text.toList
  ((name? "class " " \x7b").or ((name? "type " " = \x7b").or (name? "export class " " \x7b"))).map
    String.ofList

/-- What a line declares directly inside of the namespace. -/
def Line.declared? : Line → Option String
  | .blank => none
  | .code column text => if column = 2 then Text.declared? text else none

namespace Text

theorem declared?_class (name : String) : declared? ("class " ++ name ++ " \x7b") = some name := by
  have hname : between? "class ".toList " \x7b".toList ("class " ++ name ++ " \x7b").toList
      = some name.toList := by
    rw [between?_eq_some, String.toList_append, String.toList_append]
  unfold declared?
  simp only [hname, Option.some_or, Option.map_some, String.ofList_toList]

theorem declared?_type (name : String) : declared? ("type " ++ name ++ " = \x7b") = some name := by
  have hname : between? "type ".toList " = \x7b".toList ("type " ++ name ++ " = \x7b").toList
      = some name.toList := by
    rw [between?_eq_some, String.toList_append, String.toList_append]
  have hclass : between? "class ".toList " \x7b".toList ("type " ++ name ++ " = \x7b").toList
      = none := by
    rw [String.toList_append, String.toList_append]
    rfl
  unfold declared?
  simp only [hname, hclass, Option.none_or, Option.some_or, Option.map_some, String.ofList_toList]

end Text

/-! ## What a module declares -/

/-- The names of the aliases of a service. -/
def Service.aliasNames (s : Service) : List String := s.methods.map fun m => s.name ++ m.name

/-- The names of the envelopes. -/
def envelopeNames : List String := ["JsonRPCRequest", "JsonRPCResponse"]

/-- The names of the envelopes, and of the aliases and the class of each service. -/
def File.typeNames (file : File) : List String :=
  if file.services.isEmpty then []
  else envelopeNames ++ file.services.flatMap fun s => s.aliasNames ++ [s.name]

/-- What the service module of a file declares: these names, and a client for each service. -/
def File.declaredNames (file : File) : List String :=
  file.typeNames ++ file.services.map fun _ => "Client"

namespace ServiceCalls

variable {s : Service} {v : ServiceCalls}

theorem declared_aliases (h : s.ResolvesTo ix v) :
    v.aliases.flatten.filterMap Line.declared? = s.aliasNames := by
  have hone : ∀ c : Call, c.aliasLines.filterMap Line.declared? = [c.service ++ c.name] := by
    intro c
    exact List.filterMap_cons_some (Text.declared?_type (c.service ++ c.name))
  have hall : v.aliases.flatten.filterMap Line.declared?
      = v.calls.map fun c => c.service ++ c.name := by
    rw [aliases, ← List.flatMap_def, List.filterMap_flatMap, List.map_eq_flatMap]
    simp only [hone]
  rw [hall]
  refine (map_eq_of_forall₂ h.calls fun m c hm => ?_).symm
  rw [hm.name, hm.service]

theorem declared_classLines (v : ServiceCalls) :
    v.classLines.filterMap Line.declared? = [v.name] := by
  have hstatics : v.statics.filterMap Line.declared? = [] := by
    rw [statics, List.filterMap_map, List.filterMap_eq_nil_iff]
    intro c _
    rfl
  have hopen : [Line.code 2 ("class " ++ v.name ++ " \x7b"),
      .code 4 "static readonly serviceName: string;"].filterMap Line.declared? = [v.name] :=
    List.filterMap_cons_some (Text.declared?_class v.name)
  have hclose : [Line.code 2 "\x7d", .blank].filterMap Line.declared? = [] := rfl
  rw [classLines, List.filterMap_append, List.filterMap_append, hopen, hstatics, hclose]
  rfl

theorem declared_clientLines (v : ServiceCalls) :
    v.clientLines.filterMap Line.declared? = ["Client"] := by
  have hopen : (Line.code 2 "export class Client \x7b" :: clientBaseLines).filterMap Line.declared?
      = ["Client"] := by
    decide
  have hstubs : ((v.calls.filter (·.isUnary)).flatMap fun c =>
      c.unaryLines ++ c.batchLines).filterMap Line.declared? = [] := by
    rw [List.filterMap_flatMap, List.flatMap_eq_nil_iff]
    intro c _
    rfl
  have hclose : [Line.code 2 "\x7d", .blank].filterMap Line.declared? = [] := rfl
  rw [clientLines, List.filterMap_append, List.filterMap_append, hopen, hstubs, hclose]
  rfl

end ServiceCalls

namespace File

/-- The lines of a module declare these names, in order. -/
theorem declared_moduleLines {views : List ServiceCalls} (h : file.ResolvesTo ix views)
    (imports : List Import) :
    (file.moduleLines imports views).filterMap Line.declared? = file.declaredNames := by
  have hhead : file.headLines.filterMap Line.declared? = [] := rfl
  have himports : (imports.map fun i => Line.code 0 i.line).filterMap Line.declared? = [] := by
    rw [List.filterMap_map, List.filterMap_eq_nil_iff]
    intro i _
    rfl
  have htransport : (ServiceModule.transportImports.map (Line.code 0 ·)).filterMap Line.declared?
      = [] := rfl
  have henvelopes : envelopeLines.filterMap Line.declared? = envelopeNames := by decide
  have htypes : (views.flatMap fun v => v.aliases.flatten ++ v.classLines).filterMap Line.declared?
      = file.services.flatMap fun s => s.aliasNames ++ [s.name] := by
    rw [List.filterMap_flatMap, List.flatMap_def, List.flatMap_def]
    refine congrArg List.flatten (map_eq_of_forall₂ h fun s v hs => ?_).symm
    rw [List.filterMap_append, ServiceCalls.declared_aliases hs, v.declared_classLines, hs.name]
  have hclients : (views.flatMap ServiceCalls.clientLines).filterMap Line.declared?
      = file.services.map fun _ => "Client" := by
    rw [List.filterMap_flatMap]
    simp only [ServiceCalls.declared_clientLines]
    rw [← List.map_eq_flatMap]
    exact (map_eq_of_forall₂ h fun _ _ _ => rfl).symm
  have hclose : [Line.code 0 "\x7d"].filterMap Line.declared? = [] := rfl
  unfold moduleLines declaredNames typeNames
  rw [List.filterMap_append, hhead, List.nil_append]
  cases views with
  | nil =>
      have hnone : file.services = [] := List.forall₂_nil_right_iff.mp h
      rw [hnone]
      rfl
  | cons first rest =>
      have hopen : [Line.blank, .code 0 ("export namespace " ++ first.name ++ " \x7b")].filterMap
          Line.declared? = [] := rfl
      have hsome : ¬ file.services.isEmpty = true := by
        intro hempty
        unfold ResolvesTo at h
        rw [List.isEmpty_iff.mp hempty] at h
        cases h
      simp only [if_neg hsome, List.filterMap_append, himports, htransport, hopen, henvelopes,
        htypes, hclients, hclose, List.nil_append, List.append_nil]

end File

/-! ## Clashes -/

theorem Service.nodup_aliasNames {s : Service} (h : (s.methods.map (·.name)).Nodup) :
    s.aliasNames.Nodup := by
  have hnames : s.aliasNames = (s.methods.map (·.name)).map (s.name ++ ·) := List.map_map.symm
  rw [hnames]
  exact h.map fun a b hab => (String.append_right_inj _).mp hab

namespace File

/-- No alias or class of a file has the name of an envelope, no alias that of a class, and no alias
that of an alias of another service. -/
structure NamesApart (file : File) : Prop where
  envelopes : ∀ s ∈ file.services, ∀ name ∈ s.aliasNames ++ [s.name], name ∉ envelopeNames
  classes : ∀ s ∈ file.services, ∀ name ∈ s.aliasNames, ∀ t ∈ file.services, name ≠ t.name
  aliases : file.services.Pairwise fun s t => s.aliasNames.Disjoint t.aliasNames

/-- The aliases and classes of a file are different exactly if no alias has the name of a class or
of an alias of another service. -/
theorem nodup_aliases_classes_iff (hservices : (file.services.map (·.name)).Nodup)
    (hmethods : ∀ s ∈ file.services, (s.methods.map (·.name)).Nodup) :
    (file.services.flatMap fun s => s.aliasNames ++ [s.name]).Nodup ↔
      (∀ s ∈ file.services, ∀ name ∈ s.aliasNames, ∀ t ∈ file.services, name ≠ t.name) ∧
      file.services.Pairwise fun s t => s.aliasNames.Disjoint t.aliasNames := by
  -- All aliases first, then all classes.
  have hperm := List.flatMap_append_perm file.services Service.aliasNames fun s => [s.name]
  rw [← hperm.nodup_iff, ← List.map_eq_flatMap, List.nodup_append, List.nodup_flatMap]
  constructor
  · rintro ⟨⟨-, haliases⟩, -, hclasses⟩
    refine ⟨?_, haliases⟩
    intro s hs name hname t ht
    exact hclasses name (List.mem_flatMap.mpr ⟨s, hs, hname⟩) t.name (List.mem_map.mpr ⟨t, ht, rfl⟩)
  · rintro ⟨hclasses, haliases⟩
    refine ⟨⟨fun s hs => Service.nodup_aliasNames (hmethods s hs), haliases⟩, hservices, ?_⟩
    intro name hname other hother
    obtain ⟨s, hs, hname⟩ := List.mem_flatMap.mp hname
    obtain ⟨t, ht, rfl⟩ := List.mem_map.mp hother
    exact hclasses s hs name hname t ht

theorem nodup_typeNames_iff (hservices : (file.services.map (·.name)).Nodup)
    (hmethods : ∀ s ∈ file.services, (s.methods.map (·.name)).Nodup) :
    file.typeNames.Nodup ↔ file.NamesApart := by
  have hall : (envelopeNames ++ file.services.flatMap fun s => s.aliasNames ++ [s.name]).Nodup ↔
      file.NamesApart := by
    rw [List.nodup_append, nodup_aliases_classes_iff hservices hmethods]
    constructor
    · rintro ⟨-, ⟨hclasses, haliases⟩, henvelopes⟩
      refine ⟨?_, hclasses, haliases⟩
      intro s hs name hname hmem
      exact henvelopes name hmem name (List.mem_flatMap.mpr ⟨s, hs, hname⟩) rfl
    · rintro ⟨henvelopes, hclasses, haliases⟩
      refine ⟨by decide, ⟨hclasses, haliases⟩, ?_⟩
      rintro name hmem other hother rfl
      obtain ⟨s, hs, hname⟩ := List.mem_flatMap.mp hother
      exact henvelopes s hs name hname hmem
  unfold typeNames
  split
  next hempty =>
      have hnone := List.isEmpty_iff.mp hempty
      rw [hnone, List.flatMap_nil, List.append_nil] at hall
      exact ⟨fun _ => hall.mp (by decide), fun _ => List.nodup_nil⟩
  next => exact hall

/-- All clients have one name. -/
theorem nodup_declaredNames_iff :
    file.declaredNames.Nodup ↔
      file.services.length ≤ 1 ∧ "Client" ∉ file.typeNames ∧ file.typeNames.Nodup := by
  unfold declaredNames
  rw [List.map_const', List.nodup_append, List.nodup_replicate]
  constructor
  · rintro ⟨htypes, hlength, hclient⟩
    refine ⟨hlength, ?_, htypes⟩
    intro hmem
    have hsome : file.services.length ≠ 0 := by
      intro hnone
      unfold typeNames at hmem
      rw [List.length_eq_zero_iff.mp hnone] at hmem
      cases hmem
    exact hclient _ hmem _ (List.mem_replicate.mpr ⟨hsome, rfl⟩) rfl
  · rintro ⟨hlength, hclient, htypes⟩
    refine ⟨htypes, hlength, ?_⟩
    rintro name hname other hother rfl
    rw [(List.mem_replicate.mp hother).2] at hname
    exact hclient hname

end File

theorem ServiceModule.declared_lines (wellKnown : Table String) (hsound : file.MethodsSound ix) :
    (run ix wellKnown file).lines.filterMap Line.declared? = file.declaredNames := by
  obtain ⟨views, hviews⟩ := File.exists_resolvesTo hsound
  rw [run, (writes_script hviews).lines]
  exact File.declared_moduleLines hviews _

/-- If the services of a file have different names, and so have the methods of each, and all methods
can be resolved, then the service module declares the envelopes, the aliases and the class of each
service, and a client for each.  Without the clients, these names are different exactly if they are
apart; and all of them, if there is one service at most, and nothing else is called `Client`. -/
theorem ServiceModule.declared_names_distinct_iff (wellKnown : Table String)
    (hsound : file.MethodsSound ix) (hservices : (file.services.map (·.name)).Nodup)
    (hmethods : ∀ s ∈ file.services, (s.methods.map (·.name)).Nodup) :
    (text ix wellKnown file).result = .ok (Line.render (run ix wellKnown file).lines) ∧
    (run ix wellKnown file).lines.filterMap Line.declared? = file.declaredNames ∧
    (file.typeNames.Nodup ↔ file.NamesApart) ∧
    (file.declaredNames.Nodup ↔
      file.services.length ≤ 1 ∧ "Client" ∉ file.typeNames ∧ file.NamesApart) := by
  obtain ⟨views, hviews⟩ := File.exists_resolvesTo hsound
  have hfailure : (script ix wellKnown file).failure = none := (writes_script hviews).failure
  have htypes := File.nodup_typeNames_iff hservices hmethods
  refine ⟨Script.text_run_eq_ok.mpr ⟨hfailure, rfl⟩, declared_lines wellKnown hsound, htypes, ?_⟩
  rw [← htypes]
  exact File.nodup_declaredNames_iff

/-! A file with one service, and one with two whose names are cut in different places. -/

namespace Warehouse

def index : Index := .ofFiles [{ name := "stock.proto", messages := [{ name := "Item" }] }]

def method (name : String) : Method where
  name
  inputType := ".Item"
  outputType := ".Item"

theorem sound (name : String) : (method name).Sound index := by
  have hitem : index.Resolvable ⟨.message, TypeName.bare ".Item"⟩ :=
    .message rfl (show index.messages.find? (TypeName.bare ".Item")
      = some ⟨"", "stock.proto", false, none⟩ from rfl) rfl
  exact ⟨hitem, hitem⟩

def single : File where
  name := "stock.proto"
  messages := [{ name := "Item" }]
  services := [{ name := "Stock", methods := [method "Get", method "Put"] }]

theorem sound_single : single.MethodsSound index :=
  List.forall_mem_singleton.mpr
    (List.forall_mem_cons.mpr ⟨sound "Get", List.forall_mem_singleton.mpr (sound "Put")⟩)

def double : File where
  name := "stock.proto"
  messages := [{ name := "Item" }]
  services := [{ name := "Order", methods := [method "ItemGet"] },
    { name := "OrderItem", methods := [method "Get"] }]

theorem sound_double : double.MethodsSound index :=
  List.forall_mem_cons.mpr ⟨List.forall_mem_singleton.mpr (sound "ItemGet"),
    List.forall_mem_singleton.mpr (List.forall_mem_singleton.mpr (sound "Get"))⟩

end Warehouse

theorem ServiceModule.declared_names_distinct_iff_warehouse :
    Warehouse.single.MethodsSound Warehouse.index ∧
    (run Warehouse.index {} Warehouse.single).lines.filterMap Line.declared?
      = ["JsonRPCRequest", "JsonRPCResponse", "StockGet", "StockPut", "Stock", "Client"] ∧
    Warehouse.single.NamesApart := by
  obtain ⟨-, hnames, -, hdistinct⟩ := declared_names_distinct_iff {} Warehouse.sound_single
    (by decide) (by decide)
  refine ⟨Warehouse.sound_single, hnames.trans (by decide), ?_⟩
  exact (hdistinct.mp (by decide)).2.2

/-- Two services are enough: their module declares `Client` twice, and one alias too. -/
theorem ServiceModule.declared_names_clash :
    Warehouse.double.MethodsSound Warehouse.index ∧
    (Warehouse.double.services.map (·.name)).Nodup ∧
    (∀ s ∈ Warehouse.double.services, (s.methods.map (·.name)).Nodup) ∧
    (run Warehouse.index {} Warehouse.double).lines.filterMap Line.declared?
      = ["JsonRPCRequest", "JsonRPCResponse", "OrderItemGet", "Order", "OrderItemGet", "OrderItem",
         "Client", "Client"] ∧
    ¬ ((run Warehouse.index {} Warehouse.double).lines.filterMap Line.declared?).Nodup := by
  have hnames := declared_lines {} Warehouse.sound_double
  refine ⟨Warehouse.sound_double, by decide, by decide, hnames.trans (by decide), ?_⟩
  rw [hnames]
  decide

end RpcStubs
