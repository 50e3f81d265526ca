/-
# The lines of a service module

A service module is laid out by a script, with a pen that moves in and out of
scopes, and from types that are resolved on the way.  Here is what comes of it,
line by line and column by column, once all types are known: `File.moduleLines`.

Each part of a module is made of the methods of one service, taken in order:
a block per method for the aliases, a line per method in the class that names
them, and two stubs per method that does not stream in the client.  What is
said later about the parts of a module is said about these lists.
-/
import RpcStubs.Proofs.Marks
import RpcStubs.Proofs.ServiceImports
import RpcStubs.Proofs.WellFormed

namespace RpcStubs

variable {ix : Index} {file : File} {wellKnown : Table String}

/-! ## Methods with their types -/

/-- A method resolved: it keeps its name and what it streams, and its types are those of its request
and its response. -/
structure Method.ResolvesTo (ix : Index) (service : String) (m : Method) (c : Call) : Prop where
  name : c.name = m.name
  service : c.service = service
  clientStreaming : c.clientStreaming = m.clientStreaming
  serverStreaming : c.serverStreaming = m.serverStreaming
  request : (ix.valueType "" ⟨.message, TypeName.bare m.inputType⟩).result = .ok c.request
  response : (ix.valueType "" ⟨.message, TypeName.bare m.outputType⟩).result = .ok c.response

theorem Method.ResolvesTo.types_eq_ok {service : String} {m : Method} {c : Call}
    (h : m.ResolvesTo ix service c) : (m.types ix).result = .ok (c.request, c.response) :=
  Traced.result_bind_eq_ok.mpr ⟨c.request, h.request,
    Traced.result_bind_eq_ok.mpr ⟨c.response, h.response, rfl⟩⟩

theorem Method.call_eq_ok {service : String} {m : Method} {c : Call} :
    (m.call ix service).result = .ok c ↔ m.ResolvesTo ix service c := by
  constructor
  · intro h
    obtain ⟨types, htypes, h⟩ := Traced.result_bind_eq_ok.mp h
    obtain ⟨request, hrequest, htypes⟩ := Traced.result_bind_eq_ok.mp htypes
    obtain ⟨response, hresponse, htypes⟩ := Traced.result_bind_eq_ok.mp htypes
    cases htypes
    cases h
    exact ⟨rfl, rfl, rfl, rfl, hrequest, hresponse⟩
  · intro h
    refine Traced.result_bind_eq_ok.mpr ⟨(c.request, c.response), h.types_eq_ok, ?_⟩
    rw [← h.name, ← h.service, ← h.clientStreaming, ← h.serverStreaming]
    rfl

/-- A service with its methods resolved. -/
structure ServiceCalls where
  name : String
  calls : List Call

/-- The methods of a service, resolved one by one. -/
structure Service.ResolvesTo (ix : Index) (s : Service) (v : ServiceCalls) : Prop where
  name : v.name = s.name
  calls : List.Forall₂ (Method.ResolvesTo ix s.name) s.methods v.calls

/-- The services of a file, resolved one by one. -/
def File.ResolvesTo (ix : Index) (file : File) (views : List ServiceCalls) : Prop :=
  List.Forall₂ (Service.ResolvesTo ix) file.services views

theorem Service.ResolvesTo.calls_eq_ok {s : Service} {v : ServiceCalls} (h : s.ResolvesTo ix v) :
    (s.calls ix).result = .ok v.calls :=
  Traced.result_mapM_eq_ok.mpr (h.calls.imp fun _ _ hm => Method.call_eq_ok.mpr hm)

theorem Service.ResolvesTo.unary {s : Service} {v : ServiceCalls} (h : s.ResolvesTo ix v) :
    List.Forall₂ (Method.ResolvesTo ix s.name)
      (s.methods.filter fun m => !m.clientStreaming && !m.serverStreaming)
      (v.calls.filter (·.isUnary)) := by
  refine List.rel_filter (fun m c hm => ?_) h.calls
  show (!m.clientStreaming && !m.serverStreaming) = true ↔ c.isUnary = true
  rw [← hm.clientStreaming, ← hm.serverStreaming]
  rfl

theorem Service.exists_resolvesTo {s : Service} (h : ∀ m ∈ s.methods, m.Sound ix) :
    ∃ v, s.ResolvesTo ix v := by
  obtain ⟨calls, hcalls⟩ := Service.succeeds_calls.mpr h
  have hmethods := (Traced.result_mapM_eq_ok.mp hcalls).imp fun _ _ hm => Method.call_eq_ok.mp hm
  exact ⟨⟨s.name, calls⟩, rfl, hmethods⟩

theorem File.exists_resolvesTo (h : file.MethodsSound ix) : ∃ views, file.ResolvesTo ix views := by
  have hall : ∀ services : List Service, (∀ s ∈ services, ∀ m ∈ s.methods, m.Sound ix) →
      ∃ views, List.Forall₂ (Service.ResolvesTo ix) services views := by
    intro services
    induction services with
    | nil => exact fun _ => ⟨[], .nil⟩
    | cons s services ih =>
        intro hsound
        rw [List.forall_mem_cons] at hsound
        obtain ⟨v, hv⟩ := Service.exists_resolvesTo hsound.1
        obtain ⟨views, hviews⟩ := ih hsound.2
        exact ⟨v :: views, .cons hv hviews⟩
  exact hall file.services h

theorem File.ResolvesTo.unique {views views' : List ServiceCalls} (h : file.ResolvesTo ix views)
    (h' : file.ResolvesTo ix views') : views = views' := by
  have hmethods : ∀ service, Relator.RightUnique (Method.ResolvesTo ix service) := by
    intro service m c c' hc hc'
    exact Except.ok.inj ((Method.call_eq_ok.mpr hc).symm.trans (Method.call_eq_ok.mpr hc'))
  have hservices : Relator.RightUnique (Service.ResolvesTo ix) := by
    rintro s ⟨name, calls⟩ ⟨name', calls'⟩ ⟨hname, hcalls⟩ ⟨hname', hcalls'⟩
    cases hname.trans hname'.symm
    cases (hmethods s.name).forall₂ hcalls hcalls'
    rfl
  exact hservices.forall₂ h h'

/-! ## Imports -/

/-- Whether a method takes or returns a type of a namespace. -/
def Call.uses (c : Call) (token : String) : Bool :=
  c.request.startsIn token || c.response.startsIn token

/-- Whether some method of a service does. -/
def ServiceCalls.uses (v : ServiceCalls) (token : String) : Bool :=
  v.calls.any (·.uses token)

namespace File

variable {views : List ServiceCalls}

/-- The dependencies of a file that its methods need. -/
def needed (file : File) (views : List ServiceCalls) : List String :=
  file.dependencies.filter fun d => views.any (·.uses (SchemaPath.token d))

/-- The imports of a file's own messages and of some dependencies. -/
def importsOf (file : File) (wellKnown : Table String) (dependencies : List String) : List Import :=
  .ofHost file.name :: dependencies.map (.ofDependency file.name wellKnown)

theorem methodsUse_eq_ok {token : String} {ms : List Method} {calls : List Call}
    (h : List.Forall₂ (fun m c => ∃ service, m.ResolvesTo ix service c) ms calls) :
    (methodsUse ix token ms).result = .ok (calls.any (·.uses token)) := by
  induction h with
  | nil => rfl
  | @cons m c ms calls hm _ ih =>
      obtain ⟨service, hm⟩ := hm
      rw [methodsUse_cons, List.any_cons]
      refine Traced.result_bind_eq_ok.mpr ⟨(c.request, c.response), hm.types_eq_ok, ?_⟩
      show (if c.uses token then _ else _ : Traced Bool).result = _
      cases c.uses token with
      | true => rfl
      | false => exact ih

theorem serviceImports_eq_ok (h : file.ResolvesTo ix views) (wellKnown : Table String) :
    (file.serviceImports ix wellKnown).result
      = .ok (file.importsOf wellKnown (file.needed views)) := by
  have hcalls : List.Forall₂ (fun m c => ∃ service, m.ResolvesTo ix service c) file.methods
      (views.flatMap (·.calls)) :=
    List.rel_flatMap h fun s v hs => hs.calls.imp fun _ _ hm => ⟨s.name, hm⟩
  refine serviceImports_of_uses (fun d => ?_) wellKnown
  rw [uses, methodsUse_eq_ok hcalls, List.any_flatMap]
  rfl

end File

/-! ## The parts of a module -/

namespace Call

/-- The alias of a method. -/
def aliasLines (c : Call) : List Line :=
  [.code 2 ("type " ++ (c.service ++ c.name) ++ " = \x7b"),
   .code 4 "readonly methodName: string;",
   .code 4 ("readonly service: typeof " ++ c.service ++ ";"),
   .code 4 ("readonly requestType: typeof " ++ c.request.text ++ ";"),
   .code 4 ("readonly responseType: typeof " ++ c.response.text ++ ";"),
   .code 2 "\x7d;",
   .blank]

/-- The line of a method in the class of its service. -/
def staticLine (c : Call) : Line :=
  .code 4 ("static readonly " ++ c.name ++ ": " ++ (c.service ++ c.name) ++ ";")

/-- The stub of a method for one request. -/
def unaryLines (c : Call) : List Line :=
  [.code 4 (c.stub ++ "("),
   .code 6 ("requestMessage: " ++ c.request.text ++ ","),
   .code 6 ("options?: \x7b[key: string]: string\x7d): Observable<" ++ c.response.text ++ "> \x7b"),
   .code 6 ("let rpcRequest = <JsonRPCRequest>\x7b\"id\": \"1\", \"method\": \""
     ++ c.service ++ "." ++ c.name ++ "\", \"params\": requestMessage, \"jsonrpc\": \"2.0\"\x7d;"),
   .code 6 ("return this.call<" ++ c.response.text
     ++ ">(\x60$\x7bthis.serviceHost\x7d/rpc\x60, rpcRequest, options);"),
   .code 4 "\x7d",
   .blank]

/-- The stub of a method for many requests. -/
def batchLines (c : Call) : List Line :=
  [.code 4 (c.stub ++ "Batch("),
   .code 6 ("requestMessages: " ++ c.request.text ++ "[],"),
   .code 6 ("options?: \x7b[key: string]: string\x7d): Observable<" ++ c.response.text
     ++ "[]> \x7b"),
   .code 6 ("let rpcRequests = requestMessages.map((r) => \x7breturn "
     ++ "<JsonRPCRequest>\x7b\"id\": \"1\", \"method\": \""
     ++ c.service ++ "." ++ c.name ++ "\", \"params\": r, \"jsonrpc\": \"2.0\"\x7d;\x7d);"),
   .code 6 ("return this.callBatch<" ++ c.response.text
     ++ "[]>(\x60$\x7bthis.serviceHost\x7d/rpc\x60, rpcRequests, options);"),
   .code 4 "\x7d",
   .blank]

end Call

/-- What every client begins with. -/
def clientBaseLines : List Line :=
  [.code 4 "private serviceHost: string;",
   .blank,
   .code 4 "constructor(serviceHost: string, private http: HttpClient) \x7b",
   .code 6 "this.serviceHost = serviceHost;",
   .code 4 "\x7d",
   .blank,
   .code 4 ("call<T>(url: string, request: any, "
     ++ "options?: \x7b[key: string]: string\x7d): Observable<T> \x7b"),
   .code 6 ("return this.http.post<JsonRPCResponse>(url, request, options)"
     ++ ".pipe(map(response => \x7b return response.result; \x7d), "
     ++ "catchError(error => \x7b return throwError(error); \x7d));"),
   .code 4 "\x7d",
   .blank,
   .code 4 ("callBatch<T>(url: string, request: any, "
     ++ "options?: \x7b[key: string]: string\x7d): Observable<T> \x7b"),
   .code 6 "// @ts-ignore",
   .code 6 ("return this.http.post<JsonRPCResponse[]>(url, request, options)"
     ++ ".pipe(map(response => "
     ++ "\x7b return response.map((r) => \x7b return <T>r.result; \x7d) \x7d), "
     ++ "catchError(error => \x7b return throwError(error); \x7d));"),
   .code 4 "\x7d",
   .blank]

/-- The envelopes. -/
def envelopeLines : List Line :=
  [.code 2 "class JsonRPCRequest \x7b",
   .code 4 "public jsonrpc: string;",
   .code 4 "public id: string;",
   .code 4 "public method: string;",
   .code 4 "public params: any;",
   .code 2 "\x7d",
   .blank,
   .code 2 "type JsonRPCResponse = \x7b",
   .code 4 "readonly result: any;",
   .code 4 "readonly id: string;",
   .code 4 "readonly jsonrpc: string;",
   .code 2 "\x7d",
   .blank]

namespace ServiceCalls

/-- The blocks of the aliases of a service. -/
def aliases (v : ServiceCalls) : List (List Line) := v.calls.map Call.aliasLines

/-- The lines of the methods in the class of a service. -/
def statics (v : ServiceCalls) : List Line := v.calls.map Call.staticLine

/-- The class of a service. -/
def classLines (v : ServiceCalls) : List Line :=
  [Line.code 2 ("class " ++ v.name ++ " \x7b"), Line.code 4 "static readonly serviceName: string;"]
    ++ v.statics ++ [Line.code 2 "\x7d", Line.blank]

/-- The client of a service: what every client begins with, and the stubs of the methods that do
not stream. -/
def clientLines (v : ServiceCalls) : List Line :=
  Line.code 2 "export class Client \x7b" :: clientBaseLines
    ++ (v.calls.filter (·.isUnary)).flatMap (fun c => c.unaryLines ++ c.batchLines)
    ++ [Line.code 2 "\x7d", Line.blank]

end ServiceCalls

/-- The lines at the head of a module of a file. -/
def File.headLines (file : File) : List Line :=
  [.code 0 ("// package: " ++ file.package), .code 0 ("// file: " ++ file.name), .blank]

/-- The lines of a service module, given its imports and its resolved services. -/
def File.moduleLines (file : File) (imports : List Import) (views : List ServiceCalls) :
    List Line :=
  file.headLines ++
    match views with
    | [] => []
    | first :: _ =>
      (imports.map fun i => Line.code 0 i.line)
        ++ ServiceModule.transportImports.map (Line.code 0 ·)
        ++ [Line.blank, Line.code 0 ("export namespace " ++ first.name ++ " \x7b")]
        ++ envelopeLines
        ++ views.flatMap (fun v => v.aliases.flatten ++ v.classLines)
        ++ views.flatMap ServiceCalls.clientLines
        ++ [Line.code 0 "\x7d"]

section

variable {imports : List Import} {views : List ServiceCalls} {v : ServiceCalls} {l : Line}

theorem File.import_mem_moduleLines (hv : v ∈ views) {i : Import} (hi : i ∈ imports) :
    Line.code 0 i.line ∈ file.moduleLines imports views := by
  obtain ⟨first, rest, rfl⟩ := List.exists_cons_of_ne_nil (List.ne_nil_of_mem hv)
  have hline : Line.code 0 i.line ∈ imports.map fun i => Line.code 0 i.line :=
    List.mem_map.mpr ⟨i, hi, rfl⟩
  simp only [moduleLines, List.mem_append, hline, or_true, true_or]

theorem File.types_mem_moduleLines (hv : v ∈ views) (hl : l ∈ v.aliases.flatten ++ v.classLines) :
    l ∈ file.moduleLines imports views := by
  obtain ⟨first, rest, rfl⟩ := List.exists_cons_of_ne_nil (List.ne_nil_of_mem hv)
  have hline : l ∈ (first :: rest).flatMap fun v => v.aliases.flatten ++ v.classLines :=
    List.mem_flatMap.mpr ⟨v, hv, hl⟩
  simp only [moduleLines, List.mem_append, hline, or_true, true_or]

theorem File.client_mem_moduleLines (hv : v ∈ views) (hl : l ∈ v.clientLines) :
    l ∈ file.moduleLines imports views := by
  obtain ⟨first, rest, rfl⟩ := List.exists_cons_of_ne_nil (List.ne_nil_of_mem hv)
  have hline : l ∈ (first :: rest).flatMap ServiceCalls.clientLines :=
    List.mem_flatMap.mpr ⟨v, hv, hl⟩
  simp only [moduleLines, List.mem_append, hline, or_true, true_or]

end

/-! ## What the scripts write -/

namespace ServiceModule

open Script

/-- The pen inside of the namespace. -/
def namespacePen : Pen := Pen.deeper {}

theorem writes_envelopes : envelopes.Writes namespacePen envelopeLines :=
  ((((writes_lines _).braced _).append writes_gap).append ((writes_lines _).braced _)).append
    writes_gap

theorem writes_aliasBlock (c : Call) : (aliasBlock c).Writes namespacePen c.aliasLines :=
  ((writes_lines _).within _ _).append writes_gap

theorem writes_serviceTypes (v : ServiceCalls) :
    (serviceTypes v.name v.calls).Writes namespacePen (v.aliases.flatten ++ v.classLines) := by
  have haliases : (join (v.calls.map aliasBlock)).Writes namespacePen v.aliases.flatten := by
    refine .join ?_
    rw [ServiceCalls.aliases, List.forall₂_map_left_iff, List.forall₂_map_right_iff]
    exact List.forall₂_same.mpr fun c _ => writes_aliasBlock c
  have hstatics : (v.calls.map aliasLine).map namespacePen.deeper.line = v.statics := List.map_map
  refine ((haliases.append ((writes_lines _).braced _)).append writes_gap).of_eq ?_
  rw [List.map_cons, hstatics, ServiceCalls.classLines]
  simp only [List.append_assoc, List.cons_append, List.nil_append]
  rfl

theorem writes_stub (head : String) (inner : List String) :
    (lines [head] ++ indent (lines inner) ++ lines ["\x7d"] ++ gap).Writes namespacePen.deeper
      (.code 4 head :: (inner.map (.code 6 ·) ++ [.code 4 "\x7d", .blank])) := by
  refine ((((writes_lines _).append (writes_lines _).indent).append (writes_lines _)).append
    writes_gap).of_eq ?_
  simp only [List.append_assoc]
  rfl

theorem envelope_eq (c : Call) (params : String) :
    envelope c params =
      "<JsonRPCRequest>\x7b\"id\": \"1\", \"method\": \"" ++ c.service ++ "." ++ c.name
      ++ "\", \"params\": " ++ params ++ ", \"jsonrpc\": \"2.0\"\x7d" := rfl

theorem append_literal {first second both : String} (h : first ++ second = both) (rest : String) :
    first ++ (second ++ rest) = both ++ rest := by
  rw [← String.append_assoc, h]

theorem options_observable : optionsParameter ++ "): Observable<"
    = "options?: \x7b[key: string]: string\x7d): Observable<" := rfl

theorem writes_unaryStub (c : Call) : (unaryStub c).Writes namespacePen.deeper c.unaryLines := by
  have hrequest : "let rpcRequest = " ++ "<JsonRPCRequest>\x7b\"id\": \"1\", \"method\": \""
      = "let rpcRequest = <JsonRPCRequest>\x7b\"id\": \"1\", \"method\": \"" := rfl
  refine (writes_stub _ _).of_eq ?_
  simp only [Call.unaryLines, endpoint, envelope_eq, String.append_assoc,
    append_literal options_observable, append_literal hrequest, String.reduceAppend, List.map_cons,
    List.map_nil, List.cons_append, List.nil_append]

theorem writes_batchStub (c : Call) : (batchStub c).Writes namespacePen.deeper c.batchLines := by
  refine (writes_stub _ _).of_eq ?_
  -- Literals are put together last, so that the head of the envelope stays apart on both sides.
  simp only [Call.batchLines, envelope_eq, String.append_assoc, append_literal options_observable,
    List.map_cons, List.map_nil, List.cons_append, List.nil_append]
  simp only [endpoint, String.reduceAppend]

theorem writes_stubs (service : String) (calls : List Call) :
    (join (calls.map (stubs service))).Writes namespacePen.deeper
      ((calls.filter (·.isUnary)).flatMap fun c => c.unaryLines ++ c.batchLines) := by
  induction calls with
  | nil => exact ⟨rfl, rfl⟩
  | cons c calls ih =>
      show (stubs service c ++ join (calls.map (stubs service))).Writes _ _
      by_cases hunary : c.isUnary = true
      · have hstubs : stubs service c = unaryStub c ++ batchStub c := if_pos hunary
        rw [hstubs, List.filter_cons_of_pos hunary, List.flatMap_cons]
        exact ((writes_unaryStub c).append (writes_batchStub c)).append ih
      · have hstubs : stubs service c = .report (.skippedMethod service c.name) .done :=
          if_neg hunary
        rw [hstubs, List.filter_cons_of_neg hunary]
        exact ⟨ih.failure, ih.lines⟩

theorem writes_clientBase : clientBase.Writes namespacePen.deeper clientBaseLines := by
  simp only [clientBase, clientBaseLines, optionsParameter, String.reduceAppend]
  exact (((((((writes_lines _).append writes_gap).append ((writes_lines _).braced _)).append
    writes_gap).append ((writes_lines _).braced _)).append writes_gap).append
      ((writes_lines _).braced _)).append writes_gap

section

variable {s : Service} {v : ServiceCalls}

theorem writes_types (h : s.ResolvesTo ix v) :
    (given (s.calls ix) (serviceTypes s.name)).Writes namespacePen
      (v.aliases.flatten ++ v.classLines) := by
  rw [← h.name]
  exact (writes_serviceTypes v).given h.calls_eq_ok

theorem writes_client (h : s.ResolvesTo ix v) :
    (client ix s).Writes namespacePen v.clientLines := by
  have hstubs : (given (s.calls ix) fun calls => join (calls.map (stubs s.name))).Writes
      namespacePen.deeper _ := .given h.calls_eq_ok (writes_stubs s.name v.calls)
  refine (((writes_clientBase.append hstubs).braced _).append writes_gap).of_eq ?_
  simp only [ServiceCalls.clientLines, List.cons_append, List.append_assoc]
  rfl

end

theorem writes_services {services : List Service} {views : List ServiceCalls} {f : Service → Script}
    {g : ServiceCalls → List Line} (h : List.Forall₂ (Service.ResolvesTo ix) services views)
    (hf : ∀ s v, s.ResolvesTo ix v → (f s).Writes namespacePen (g v)) :
    (join (services.map f)).Writes namespacePen (views.flatMap g) := by
  rw [List.flatMap_def]
  refine .join ?_
  rw [List.forall₂_map_left_iff, List.forall₂_map_right_iff]
  exact h.imp hf

theorem writes_body {services : List Service} {views : List ServiceCalls} (first : Service)
    (h : List.Forall₂ (Service.ResolvesTo ix) services views) :
    (body ix first services).Writes {} (.code 0 ("export namespace " ++ first.name ++ " \x7b") ::
      (envelopeLines ++ views.flatMap (fun v => v.aliases.flatten ++ v.classLines)
        ++ views.flatMap ServiceCalls.clientLines ++ [.code 0 "\x7d"])) :=
  ((writes_envelopes.append (writes_services h fun _ _ => writes_types)).append
    (writes_services h fun _ _ => writes_client)).braced _

/-- A service module is written if its methods are resolved, with the imports that they need. -/
theorem writes_script {views : List ServiceCalls} (h : file.ResolvesTo ix views) :
    (script ix wellKnown file).Writes {}
      (file.moduleLines (file.importsOf wellKnown (file.needed views)) views) := by
  have himports := file.serviceImports_eq_ok h wellKnown
  have hheader : (header file).Writes {} file.headLines := (writes_lines _).append writes_gap
  unfold File.ResolvesTo at h
  unfold script File.moduleLines
  cases hservices : file.services with
  | nil =>
      rw [hservices] at h
      cases h
      rw [List.append_nil]
      exact hheader
  | cons first rest =>
      rw [hservices] at h
      have hbody := writes_body first h
      cases h with
      | cons hfirst hrest =>
          rw [← hfirst.name] at hbody
          refine (hheader.append ((((writes_lines _).append writes_gap).append hbody).given
            himports)).of_eq ?_
          rw [List.map_append, List.map_map]
          simp only [List.append_assoc]
          rfl

theorem text_eq_ok {views : List ServiceCalls} (h : file.ResolvesTo ix views) :
    (text ix wellKnown file).result = .ok (Line.render
      (file.moduleLines (file.importsOf wellKnown (file.needed views)) views)) :=
  (writes_script h).text

end ServiceModule

/-! ## The texts of a service module -/

/-- The texts that a method is written with. -/
def Call.texts (c : Call) : List String :=
  [c.name, c.service, c.stub, c.request.text, c.response.text]

/-- The texts that a service is written with. -/
def ServiceCalls.texts (v : ServiceCalls) : List String := v.name :: v.calls.flatMap Call.texts

/-- The name of a service and those of its methods. -/
def Service.names (s : Service) : List String := s.name :: s.methods.map (·.name)

/-- All names of a file: those that its types go by, and those of its services. -/
def File.names (file : File) : List String :=
  file.schemaNames ++ file.services.flatMap Service.names

section Lacks

open Text (Lacks)

variable {x : Char} (hx : x ∈ Text.marks) (hix : ix.NamesLack x)
include hx hix

theorem Method.ResolvesTo.lacks {service : String} {m : Method} {c : Call}
    (h : m.ResolvesTo ix service c) (hservice : Lacks x service) (hname : Lacks x m.name) :
    ∀ t ∈ c.texts, Lacks x t := by
  have hrequest := hix.text hx (Index.mem_references_valueType h.request)
  have hresponse := hix.text hx (Index.mem_references_valueType h.response)
  rw [← h.name] at hname
  rw [← h.service] at hservice
  simp only [Call.texts, List.forall_mem_cons]
  exact ⟨hname, hservice, Text.lacks_stub hx hname, hrequest, hresponse, List.forall_mem_nil _⟩

theorem Service.ResolvesTo.lacks {s : Service} {v : ServiceCalls} (h : s.ResolvesTo ix v)
    (hnames : ∀ name ∈ s.names, Lacks x name) : ∀ t ∈ v.texts, Lacks x t := by
  rw [Service.names, List.forall_mem_cons, List.forall_mem_map] at hnames
  rw [ServiceCalls.texts, List.forall_mem_cons, List.forall_mem_flatMap]
  refine ⟨h.name ▸ hnames.1, fun c hc => ?_⟩
  obtain ⟨m, hm, hcall⟩ := exists_of_forall₂ h.calls.flip hc
  exact Method.ResolvesTo.lacks hx hix hcall hnames.1 (hnames.2 m hm)

end Lacks

end RpcStubs
