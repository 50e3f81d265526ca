/-
# Every reference to another file is bound by an import

The token of a file is computed in three places: before the name of a type, in
the import lines of a message module, and in the elided imports of a service
module.  This module shows that they meet.

In a message module, the references of a member are those to what its type
mentions (`Index.Mentions`), and every dependency has an import line.  In a
service module, the types of a method are written into the lines of its alias
and of its stubs, and an import is kept for every file that a method needs.
-/
import RpcStubs.Proofs.Lines
import RpcStubs.Proofs.ModuleLayout

namespace RpcStubs

open Text (HasLine)

variable {ix : Index} {file : File} {wellKnown : Table String}

/-! ## Message modules -/

/-- A type expression refers to exactly what a type mentions, as it has to be written in a file;
and a text imports, under its token, the module of every other file that is mentioned. -/
structure ReferencesBound (ix : Index) (wellKnown : Table String) (file : File) (text : String)
    (type : TypeRef) (t : TypeExpr) : Prop where
  written : ∀ u ∈ t.references, ∃ d, ix.Mentions type d ∧ u.text = d.writtenIn file.name
  foreign : ∀ d, ix.Mentions type d → d.file ≠ file.name →
    (∃ u ∈ t.references, u.text = SchemaPath.token d.file ++ "." ++ d.path ∧
      u.text.toList <:+: t.text.toList) ∧
    HasLine text ("import * as " ++ SchemaPath.token d.file ++ " from \""
      ++ SchemaPath.importPath d.file file.name wellKnown ++ "\";")

/-- A type whose references are those to what it mentions is bound, if every other file that it
mentions is a dependency. -/
theorem MessageModule.referencesBound {m : MessageModule}
    (h : (ofFile ix wellKnown file).result = .ok m) {type : TypeRef}
    {t : TypeExpr}
    (ht : ∀ u, u ∈ t.references ↔ ∃ d, ix.Mentions type d ∧ u = Index.referenceTo file.name d)
    (hcovered : ∀ d, ix.Mentions type d → d.file = file.name ∨ d.file ∈ file.dependencies) :
    ReferencesBound ix wellKnown file m.text type t := by
  refine ⟨?_, ?_⟩
  · intro u hu
    obtain ⟨d, hd, rfl⟩ := (ht u).mp hu
    exact ⟨d, hd, Index.text_referenceTo file.name d⟩
  · intro d hd hforeign
    have hu : Index.referenceTo file.name d ∈ t.references := (ht _).mpr ⟨d, hd, rfl⟩
    have htext : (Index.referenceTo file.name d).text
        = SchemaPath.token d.file ++ "." ++ d.path := by
      rw [Index.text_referenceTo, Definition.writtenIn, if_neg hforeign]
    refine ⟨⟨_, hu, htext, TypeExpr.infix_text hu⟩, ?_⟩
    rcases hcovered d hd with hown | hdependency
    · exact absurd hown hforeign
    · exact hasLine_text_of_dependency h hdependency

/-! ## Service modules -/

/-- The lines in which the stubs of a method name its types: those for one request, and those for
many. -/
def Call.typedLines (request response : String) : List String :=
  ["requestMessage: " ++ request ++ ",",
   "options?: \x7b[key: string]: string\x7d): Observable<" ++ response ++ "> \x7b",
   "return this.call<" ++ response
     ++ ">(\x60$\x7bthis.serviceHost\x7d/rpc\x60, rpcRequest, options);",
   "requestMessages: " ++ request ++ "[],",
   "options?: \x7b[key: string]: string\x7d): Observable<" ++ response ++ "[]> \x7b",
   "return this.callBatch<" ++ response
     ++ "[]>(\x60$\x7bthis.serviceHost\x7d/rpc\x60, rpcRequests, options);"]

theorem Call.typedLines_mem_lines (c : Call) :
    ∀ l ∈ typedLines c.request.text c.response.text,
      Line.code 6 l ∈ c.unaryLines ++ c.batchLines := by
  intro l hl
  simp only [typedLines, List.mem_cons, List.not_mem_nil, or_false] at hl
  rcases hl with rfl | rfl | rfl | rfl | rfl | rfl <;>
    simp only [unaryLines, batchLines, List.mem_append, List.mem_cons, true_or, or_true]

namespace ServiceModule

variable {views : List ServiceCalls} {t : String}

theorem hasLine_text (hviews : file.ResolvesTo ix views)
    (h : (text ix wellKnown file).result = .ok t) {column : Nat} {l : String}
    (hl : Line.code column l
      ∈ file.moduleLines (file.importsOf wellKnown (file.needed views)) views) :
    HasLine t (Line.spaces column ++ l) := by
  rw [text_eq_ok hviews] at h
  cases h
  exact Line.hasLine_render hl

theorem hasLine_text_of_method (hviews : file.ResolvesTo ix views)
    (h : (text ix wellKnown file).result = .ok t) {s : Service} (hs : s ∈ file.services)
    {m : Method} (hm : m ∈ s.methods) {request response : TypeExpr}
    (htypes : (m.types ix).result = .ok (request, response)) :
    HasLine t ("    readonly requestType: typeof " ++ request.text ++ ";") ∧
    HasLine t ("    readonly responseType: typeof " ++ response.text ++ ";") ∧
    (m.clientStreaming = false → m.serverStreaming = false →
      ∀ l ∈ Call.typedLines request.text response.text, HasLine t (Line.spaces 6 ++ l)) := by
  obtain ⟨v, hv, hsv⟩ := exists_of_forall₂ hviews hs
  obtain ⟨c, hc, hmc⟩ := exists_of_forall₂ hsv.calls hm
  cases htypes.symm.trans hmc.types_eq_ok
  have halias : ∀ l, Line.code 4 l ∈ c.aliasLines → HasLine t (Line.spaces 4 ++ l) := by
    intro l hl
    have hmem : c.aliasLines ∈ v.aliases := List.mem_map.mpr ⟨c, hc, rfl⟩
    have hflat : Line.code 4 l ∈ v.aliases.flatten := List.mem_flatten.mpr ⟨_, hmem, hl⟩
    exact hasLine_text hviews h (File.types_mem_moduleLines hv (List.mem_append_left _ hflat))
  have hspaces : ∀ a b c : String, Line.spaces 4 ++ (a ++ b ++ c) = "    " ++ a ++ b ++ c := by
    intro a b c
    simp only [String.append_assoc]
    rfl
  have hrequest := halias ("readonly requestType: typeof " ++ c.request.text ++ ";")
    (by simp [Call.aliasLines])
  have hresponse := halias ("readonly responseType: typeof " ++ c.response.text ++ ";")
    (by simp [Call.aliasLines])
  rw [hspaces] at hrequest hresponse
  refine ⟨hrequest, hresponse, ?_⟩
  intro hclient hserver l hl
  have hunary : c.isUnary = true := by
    rw [Call.isUnary, hmc.clientStreaming, hmc.serverStreaming, hclient, hserver]
    rfl
  have hstubs : Line.code 6 l ∈ v.clientLines := by
    refine List.mem_append_left _ (List.mem_append_right _ (List.mem_flatMap.mpr ⟨c, ?_, ?_⟩))
    · exact List.mem_filter.mpr ⟨hc, hunary⟩
    · exact c.typedLines_mem_lines l hl
  exact hasLine_text hviews h (File.client_mem_moduleLines hv hstubs)

end ServiceModule

/-- The type of a method's request or response is the path of a message behind the token of its
file, and the file's module is imported under that token: from where the file's own messages are
if it is the file of the method, and as a dependency otherwise. -/
def CallTypeBound (ix : Index) (wellKnown : Table String) (file : File) (imports : List Import)
    (name : String) (t : TypeExpr) : Prop :=
  ∃ e ∈ ix.messages.find? name,
    t.text = SchemaPath.token e.file ++ "." ++ TypeName.within e.package name ∧
    ∃ i ∈ imports, i.token = SchemaPath.token e.file ∧
      i.path = if e.file = file.name then
          SchemaPath.toRoot file.name ++ SchemaPath.moduleStem file.name
        else SchemaPath.importPath e.file file.name wellKnown

theorem Index.exists_file_of_find? {files : List File} {name : String} {e : MessageEntry}
    (h : (Index.ofFiles files).messages.find? name = some e) : ∃ g ∈ files, e.file = g.name := by
  obtain ⟨g, hg, hmem⟩ := List.mem_flatMap.mp (Table.mem_of_find?_ofList h)
  obtain ⟨p, -, hp⟩ := List.mem_map.mp hmem
  cases hp
  exact ⟨g, hg, rfl⟩

namespace File

theorem methodsSound_of_callsMessages (h : file.CallsMessages ix) : file.MethodsSound ix := by
  intro s hs m hm
  have hresolvable : ∀ name ∈ m.typeNames, ix.Resolvable ⟨.message, name⟩ := by
    intro name hname
    obtain ⟨e, he, hentry, -⟩ := h s hs m hm name hname
    exact .message rfl he hentry
  exact ⟨hresolvable _ List.mem_cons_self,
    hresolvable _ (List.mem_cons_of_mem _ List.mem_cons_self)⟩

theorem exists_import {imports : List Import} (h : file.CallsMessages ix)
    (himports : (file.serviceImports ix wellKnown).result = .ok imports) {s : Service}
    (hs : s ∈ file.services) {m : Method} (hm : m ∈ s.methods) {name : String}
    (hname : name ∈ m.typeNames) {e : MessageEntry} (he : ix.messages.find? name = some e)
    (hcovered : e.file = file.name ∨ e.file ∈ file.dependencies) :
    ∃ i ∈ imports, i.token = SchemaPath.token e.file ∧
      i.path = if e.file = file.name then
          SchemaPath.toRoot file.name ++ SchemaPath.moduleStem file.name
        else SchemaPath.importPath e.file file.name wellKnown := by
  rw [serviceImports_eq h wellKnown] at himports
  cases himports
  by_cases hown : e.file = file.name
  · refine ⟨.ofHost file.name, List.mem_cons_self, ?_, ?_⟩
    · rw [hown]
      rfl
    · rw [if_pos hown]
      rfl
  · have hdependency := hcovered.resolve_left hown
    have hneeds : file.Needs ix (SchemaPath.token e.file) := ⟨s, hs, m, hm, name, hname, e, he, rfl⟩
    refine ⟨.ofDependency file.name wellKnown e.file, List.mem_cons_of_mem _ ?_, rfl, ?_⟩
    · exact List.mem_map.mpr ⟨e.file, List.mem_filter.mpr ⟨hdependency, decide_eq_true hneeds⟩, rfl⟩
    · rw [if_neg hown]
      rfl

end File

/-- Every reference to a type of another file is written behind that file's token, and the module
binds the token by an import of the file's module. -/
theorem references_bound_by_imports (files : List File) (wellKnown : Table String) (file : File)
    (hnamed : ∀ g ∈ files, g.name ≠ "")
    (hfields : ∀ x, file.EmitsField x ∨ file.EmitsExtension x →
      ∀ d, (Index.ofFiles files).Mentions x.typeRef d →
        d.file = file.name ∨ d.file ∈ file.dependencies)
    (hmethods : ∀ s ∈ file.services, ∀ m ∈ s.methods, ∀ name ∈ m.typeNames,
      ∃ e ∈ (Index.ofFiles files).messages.find? name, e.isMapEntry = false ∧
        (e.file = file.name ∨ e.file ∈ file.dependencies)) :
    (∀ m, (MessageModule.ofFile (Index.ofFiles files) wellKnown file).result = .ok m →
      (∀ x, file.EmitsField x → ∃ member column,
        (x.member (Index.ofFiles files) file).result = .ok member ∧
        HasLine m.text (Line.spaces column ++ member.declaration) ∧
        ReferencesBound (Index.ofFiles files) wellKnown file m.text x.typeRef member.type) ∧
      (∀ x, file.EmitsExtension x → ∃ constant column,
        (x.declareExtension (Index.ofFiles files) file).result = .ok constant ∧
        HasLine m.text (Line.spaces column ++ constant.declaration) ∧
        ReferencesBound (Index.ofFiles files) wellKnown file m.text x.typeRef constant.type)) ∧
    (file.services ≠ [] → ∃ imports text,
      (file.serviceImports (Index.ofFiles files) wellKnown).result = .ok imports ∧
      (ServiceModule.text (Index.ofFiles files) wellKnown file).result = .ok text ∧
      (∀ i ∈ imports, HasLine text i.line) ∧
      ∀ s ∈ file.services, ∀ m ∈ s.methods, ∃ request response,
        (m.types (Index.ofFiles files)).result = .ok (request, response) ∧
        HasLine text ("    readonly requestType: typeof " ++ request.text ++ ";") ∧
        HasLine text ("    readonly responseType: typeof " ++ response.text ++ ";") ∧
        (m.clientStreaming = false → m.serverStreaming = false →
          ∀ l ∈ Call.typedLines request.text response.text, HasLine text (Line.spaces 6 ++ l)) ∧
        CallTypeBound (Index.ofFiles files) wellKnown file imports (TypeName.bare m.inputType)
          request ∧
        CallTypeBound (Index.ofFiles files) wellKnown file imports (TypeName.bare m.outputType)
          response) := by
  refine ⟨fun m hm => ⟨?_, ?_⟩, ?_⟩
  · intro x hx
    obtain ⟨member, column, hmember, hline⟩ := MessageModule.exists_member_line hm hx
    exact ⟨member, column, hmember, hline,
      MessageModule.referencesBound hm (Field.mem_references_member hmember) (hfields x (.inl hx))⟩
  · intro x hx
    obtain ⟨constant, column, hconstant, hline⟩ := MessageModule.exists_constant_line hm hx
    exact ⟨constant, column, hconstant, hline, MessageModule.referencesBound hm
      (Field.mem_references_declareExtension hconstant) (hfields x (.inr hx))⟩
  · intro hservices
    have hcalls : file.CallsMessages (Index.ofFiles files) := by
      intro s hs m hm name hname
      obtain ⟨e, he, hentry, -⟩ := hmethods s hs m hm name hname
      obtain ⟨g, hg, hfile⟩ := Index.exists_file_of_find? he
      exact ⟨e, he, hentry, hfile ▸ hnamed g hg⟩
    have hsound := File.methodsSound_of_callsMessages hcalls
    obtain ⟨views, hviews⟩ := File.exists_resolvesTo hsound
    have himports := file.serviceImports_eq_ok hviews wellKnown
    have htext := @ServiceModule.text_eq_ok _ _ wellKnown _ hviews
    refine ⟨_, _, himports, htext, ?_, ?_⟩
    · intro i hi
      obtain ⟨first, hfirst⟩ := List.exists_mem_of_ne_nil _ hservices
      obtain ⟨v, hv, -⟩ := exists_of_forall₂ hviews hfirst
      have hline := ServiceModule.hasLine_text hviews htext (File.import_mem_moduleLines hv hi)
      rwa [Line.spaces_zero, String.empty_append] at hline
    · intro s hs m hm
      obtain ⟨request, response, hreq, hresp, htypes⟩ := Method.types_eq (hcalls s hs m hm)
      obtain ⟨hreqLine, hrespLine, hstubs⟩ :=
        ServiceModule.hasLine_text_of_method hviews htext hs hm htypes
      have hbound : ∀ name ∈ m.typeNames, ∀ e : MessageEntry,
          (Index.ofFiles files).messages.find? name = some e →
          CallTypeBound (Index.ofFiles files) wellKnown file
            (file.importsOf wellKnown (file.needed views)) name
            (.reference (some (SchemaPath.token e.file)) (TypeName.within e.package name)) := by
        intro name hname e he
        obtain ⟨e', he', -, hcovered⟩ := hmethods s hs m hm name hname
        cases Option.some.inj (he.symm.trans he')
        exact ⟨e, he, rfl, File.exists_import hcalls himports hs hm hname he hcovered⟩
      exact ⟨_, _, htypes, hreqLine, hrespLine, hstubs, hbound _ List.mem_cons_self _ hreq,
        hbound _ (List.mem_cons_of_mem _ List.mem_cons_self) _ hresp⟩

/-! ## An instance

A message whose only field is a map to messages of another file, and a service
that takes the message and returns one of the other file. -/

namespace Basket

def prices : Field where
  name := "prices"
  number := 1
  kind := .message
  typeName := ".shop.Basket.PricesEntry"
  label := .repeated

def pricesEntry : Message where
  name := "PricesEntry"
  fields := [{ name := "key", number := 1, kind := .scalar .string },
    { name := "value", number := 2, kind := .message, typeName := ".common.Money" }]
  isMapEntry := true

def message : Message where
  name := "Basket"
  fields := [prices]
  nested := [pricesEntry]

def schema : File where
  name := "shop/basket.proto"
  package := "shop"
  dependencies := ["common/money.proto"]
  messages := [message]
  services := [{
    name := "Baskets"
    methods := [{ name := "Total", inputType := ".shop.Basket", outputType := ".common.Money" }] }]

def files : List File :=
  [{ name := "common/money.proto", package := "common", messages := [{ name := "Money" }] }, schema]

theorem emits_iff {d : Message} : schema.Emits d ↔ d = message := by
  constructor
  · rintro ⟨m, hm, hd⟩
    rw [show m = message from List.mem_singleton.mp hm] at hd
    cases hd with
    | self => rfl
    | nested _ hc hd =>
        rw [show _ = pricesEntry from List.mem_singleton.mp hc] at hd
        cases hd with
        | self h => cases h
        | nested h => cases h
  · rintro rfl
    exact ⟨message, List.mem_singleton.mpr rfl, .self rfl⟩

theorem lookups :
    prices.typeRef = ⟨.message, "shop.Basket.PricesEntry"⟩ ∧
    (Index.ofFiles files).messages.find? "shop.Basket.PricesEntry" = some
      ⟨"shop", "shop/basket.proto", true,
        some ⟨⟨.scalar .string, ""⟩, ⟨.message, "common.Money"⟩⟩⟩ ∧
    (Index.ofFiles files).messages.find? "common.Money" = some
      ⟨"common", "common/money.proto", false, none⟩ := by
  decide

theorem mentions_iff {d : Definition} :
    (Index.ofFiles files).Mentions prices.typeRef d
      ↔ d = ⟨"common.Money", "common", "common/money.proto"⟩ := by
  obtain ⟨htype, hentry, hmoney⟩ := lookups
  rw [htype, Index.mentions_map rfl hentry rfl rfl, Index.mentions_message rfl hmoney rfl]
  exact or_iff_right Index.not_mentions_scalar

theorem messagesSound : schema.MessagesSound (Index.ofFiles files) := by
  obtain ⟨htype, hentry, hmoney⟩ := lookups
  have hvalue : (Index.ofFiles files).Resolvable ⟨.message, "common.Money"⟩ :=
    .message rfl hmoney rfl
  have hprices : (Index.ofFiles files).Resolvable prices.typeRef := htype ▸
    .map rfl hentry rfl rfl .scalar hvalue
      (Index.acyclicFrom_of_key_value hentry rfl .scalar hvalue)
  refine ⟨fun d hd => ?_, fun f hf => nomatch hf⟩
  rw [emits_iff.mp hd]
  refine ⟨?_, ?_, ?_, fun f hf => nomatch hf⟩
  · exact fun f hf => List.mem_singleton.mp hf ▸ .inl rfl
  · exact fun f hf => List.mem_singleton.mp hf ▸ hprices
  · intro f hf index hindex
    rw [show f = prices from List.mem_singleton.mp hf] at hindex
    cases hindex

end Basket

theorem references_bound_by_imports_basket :
    (∃ m, (MessageModule.ofFile (Index.ofFiles Basket.files) {} Basket.schema).result = .ok m ∧
      HasLine m.text "import * as common_money_pb from \"../common/money_pb\";" ∧
      ∃ member column, (Basket.prices.member (Index.ofFiles Basket.files) Basket.schema).result
          = .ok member ∧
        HasLine m.text (Line.spaces column ++ member.declaration) ∧
        "common_money_pb.Money".toList <:+: member.type.text.toList) ∧
    ∃ text, (ServiceModule.text (Index.ofFiles Basket.files) {} Basket.schema).result = .ok text ∧
      HasLine text "    readonly requestType: typeof shop_basket_pb.Basket;" ∧
      HasLine text "    readonly responseType: typeof common_money_pb.Money;" ∧
      HasLine text "      requestMessage: shop_basket_pb.Basket," ∧
      HasLine text "      requestMessages: shop_basket_pb.Basket[]," := by
  have hemitted : ∀ x, Basket.schema.EmitsField x ∨ Basket.schema.EmitsExtension x →
      x = Basket.prices := by
    rintro x (⟨d, hd, hx⟩ | hx | ⟨d, hd, hx⟩)
    · rw [Basket.emits_iff.mp hd] at hx
      exact List.mem_singleton.mp hx
    · cases hx
    · rw [Basket.emits_iff.mp hd] at hx
      cases hx
  have hfield : Basket.schema.EmitsField Basket.prices :=
    ⟨_, Basket.emits_iff.mpr rfl, List.mem_singleton.mpr rfl⟩
  obtain ⟨hmessages, hcalls⟩ := references_bound_by_imports Basket.files {} Basket.schema
    (by decide)
    (by
      intro x hx d hd
      rw [hemitted x hx, Basket.mentions_iff] at hd
      rw [hd]
      decide)
    (by decide)
  refine ⟨?_, ?_⟩
  · obtain ⟨m, hm⟩ := (@MessageModule.succeeds_ofFile _ _ {}).mpr Basket.messagesSound
    obtain ⟨member, column, hmember, hline, hbound⟩ := (hmessages m hm).1 _ hfield
    obtain ⟨⟨u, -, hu, hinfix⟩, himport⟩ :=
      hbound.foreign _ (Basket.mentions_iff.mpr rfl) (by decide)
    rw [hu.trans (show _ = "common_money_pb.Money" by decide)] at hinfix
    exact ⟨m, hm, himport, member, column, hmember, hline, hinfix⟩
  · obtain ⟨imports, text, -, htext, -, hmethods⟩ := hcalls (by decide)
    obtain ⟨request, response, -, hreq, hresp, hstubs, ⟨e, he, hreqText, -⟩,
        ⟨e', he', hrespText, -⟩⟩ :=
      hmethods _ (List.mem_singleton.mpr rfl) _ (List.mem_singleton.mpr rfl)
    have he : e = ⟨"shop", "shop/basket.proto", false, none⟩ :=
      Option.some.inj (he.symm.trans (by decide))
    have he' : e' = ⟨"common", "common/money.proto", false, none⟩ :=
      Option.some.inj (he'.symm.trans (by decide))
    rw [he] at hreqText
    rw [he'] at hrespText
    have hstubs := hstubs rfl rfl
    rw [hreqText.trans (show _ = "shop_basket_pb.Basket" by decide)] at hreq hstubs
    rw [hrespText.trans (show _ = "common_money_pb.Money" by decide)] at hresp
    refine ⟨text, htext, hreq, hresp, ?_, ?_⟩
    · exact hstubs "requestMessage: shop_basket_pb.Basket," (by simp [Call.typedLines])
    · exact hstubs "requestMessages: shop_basket_pb.Basket[]," (by simp [Call.typedLines])

end RpcStubs
