/-
# Streaming methods are skipped

A client has stubs for the methods that do not stream.  A streaming method still
has an alias, a line in the class of its service, and the imports that its types
need; so it is in the module at three places, and in the client at none.

The question is what it does to its siblings: a module is compared with that of
the same file without some of its streaming methods (`File.without`).  Methods
are told apart by their positions, as nothing keeps two of them from being equal.
What belongs to one method goes with it, and everything else is as before:
the clients are the same line by line, and an import is missed only where no
method needs it that is left (`streaming_methods_skipped`).
-/
import RpcStubs.Proofs.Lines
import RpcStubs.Proofs.ModuleLayout

namespace RpcStubs

open Text (HasLine)

variable {α β : Type} {ix : Index} {file : File}

/-! ## Taking entries out of a list -/

/-- A list without the entries at some positions. -/
def without (gone : Nat → Bool) : List α → List α
  | [] => []
  | a :: as =>
    let rest := without (fun i => gone (i + 1)) as
    if gone 0 then rest else a :: rest

section without

variable {gone : Nat → Bool}

theorem without_cons_of_gone (h : gone 0 = true) (a : α) (as : List α) :
    without gone (a :: as) = without (fun i => gone (i + 1)) as :=
  if_pos h

theorem without_cons_of_kept (h : gone 0 = false) (a : α) (as : List α) :
    without gone (a :: as) = a :: without (fun i => gone (i + 1)) as :=
  if_neg (by rw [h]; exact Bool.false_ne_true)

theorem map_without (f : α → β) (gone : Nat → Bool) (as : List α) :
    (without gone as).map f = without gone (as.map f) := by
  induction as generalizing gone with
  | nil => rfl
  | cons a as ih =>
      rw [List.map_cons]
      cases h : gone 0 with
      | true => rw [without_cons_of_gone h, without_cons_of_gone h, ih]
      | false => rw [without_cons_of_kept h, without_cons_of_kept h, List.map_cons, ih]

theorem sublist_without (gone : Nat → Bool) (as : List α) : (without gone as).Sublist as := by
  induction as generalizing gone with
  | nil => exact .slnil
  | cons a as ih =>
      cases h : gone 0 with
      | true =>
          rw [without_cons_of_gone h]
          exact (ih _).cons a
      | false =>
          rw [without_cons_of_kept h]
          exact (ih _).cons_cons a

theorem forall₂_without {R : α → β → Prop} {as : List α} {bs : List β} (h : List.Forall₂ R as bs)
    (gone : Nat → Bool) : List.Forall₂ R (without gone as) (without gone bs) := by
  induction h generalizing gone with
  | nil => exact .nil
  | cons hab _ ih =>
      cases h : gone 0 with
      | true =>
          rw [without_cons_of_gone h, without_cons_of_gone h]
          exact ih _
      | false =>
          rw [without_cons_of_kept h, without_cons_of_kept h]
          exact .cons hab (ih _)

theorem filter_without {p : α → Bool} {as : List α}
    (h : ∀ i a, as[i]? = some a → gone i = true → p a = false) :
    (without gone as).filter p = as.filter p := by
  induction as generalizing gone with
  | nil => rfl
  | cons a as ih =>
      have hrest := ih fun i b hb => h (i + 1) b hb
      cases hgone : gone 0 with
      | true =>
          have ha : ¬ p a = true := Bool.not_eq_true _ ▸ h 0 a rfl hgone
          rw [without_cons_of_gone hgone, hrest, List.filter_cons_of_neg ha]
      | false =>
          rw [without_cons_of_kept hgone, List.filter_cons, List.filter_cons, hrest]

end without

theorem forall₂_mapIdx {R : α → β → Prop} {as : List α} {bs : List β} {f : Nat → α → α}
    {g : Nat → β → β} (h : List.Forall₂ R as bs) (hfg : ∀ i a b, R a b → R (f i a) (g i b)) :
    List.Forall₂ R (as.mapIdx f) (bs.mapIdx g) := by
  induction h generalizing f g with
  | nil => exact .nil
  | cons hab _ ih =>
      rw [List.mapIdx_cons, List.mapIdx_cons]
      exact .cons (hfg 0 _ _ hab) (ih fun i => hfg (i + 1))

theorem map_mapIdx (f : Nat → α → α) (g : α → β) (as : List α) :
    (as.mapIdx f).map g = as.mapIdx fun i a => g (f i a) := by
  refine List.ext_getElem? fun i => ?_
  rw [List.getElem?_map, List.getElem?_mapIdx, List.getElem?_mapIdx, Option.map_map]
  rfl

/-! ## Taking streaming methods out of a file -/

/-- Whether a method takes many requests or gives many responses. -/
def Method.streams (m : Method) : Bool := m.clientStreaming || m.serverStreaming

/-- A service without the methods at some positions. -/
def Service.without (gone : Nat → Bool) (s : Service) : Service :=
  { s with methods := RpcStubs.without gone s.methods }

/-- A file without some methods, each given by the position of its service and its own. -/
def File.without (gone : Nat → Nat → Bool) (file : File) : File :=
  { file with services := file.services.mapIdx fun i s => s.without (gone i) }

/-- All methods at these positions stream. -/
def File.AllStream (file : File) (gone : Nat → Nat → Bool) : Prop :=
  ∀ i s, file.services[i]? = some s → ∀ j m, s.methods[j]? = some m → gone i j = true →
    m.streams = true

/-- A resolved service without the methods at some positions. -/
def ServiceCalls.without (gone : Nat → Bool) (v : ServiceCalls) : ServiceCalls :=
  { v with calls := RpcStubs.without gone v.calls }

/-- Resolved services without some methods, as a file is without them. -/
def ServiceCalls.allWithout (gone : Nat → Nat → Bool) (views : List ServiceCalls) :
    List ServiceCalls :=
  views.mapIdx fun i v => v.without (gone i)

theorem Method.ResolvesTo.isUnary {service : String} {m : Method} {c : Call}
    (h : m.ResolvesTo ix service c) : c.isUnary = !m.streams := by
  unfold Call.isUnary Method.streams
  rw [h.clientStreaming, h.serverStreaming, Bool.not_or]

namespace Service

variable {s : Service} {v : ServiceCalls} {gone : Nat → Bool}

theorem ResolvesTo.without (h : s.ResolvesTo ix v) (gone : Nat → Bool) :
    (s.without gone).ResolvesTo ix (v.without gone) :=
  ⟨h.name, forall₂_without h.calls gone⟩

theorem ResolvesTo.clientLines_without (h : s.ResolvesTo ix v)
    (hgone : ∀ j m, s.methods[j]? = some m → gone j = true → m.streams = true) :
    (v.without gone).clientLines = v.clientLines := by
  have hcalls : (RpcStubs.without gone v.calls).filter (·.isUnary)
      = v.calls.filter (·.isUnary) := by
    refine filter_without fun j c hc hj => ?_
    obtain ⟨m, hm, hmc⟩ := getElem?_of_forall₂ h.calls hc
    rw [hmc.isUnary, hgone j m hm hj]
    rfl
  unfold ServiceCalls.clientLines ServiceCalls.without
  rw [hcalls]

end Service

namespace File

variable {views : List ServiceCalls} {gone : Nat → Nat → Bool}

theorem ResolvesTo.without (h : file.ResolvesTo ix views) (gone : Nat → Nat → Bool) :
    (file.without gone).ResolvesTo ix (ServiceCalls.allWithout gone views) :=
  forall₂_mapIdx h fun i _ _ hs => hs.without (gone i)

theorem ResolvesTo.clientLines_without (h : file.ResolvesTo ix views)
    (hgone : file.AllStream gone) :
    (ServiceCalls.allWithout gone views).map (·.clientLines) = views.map (·.clientLines) := by
  refine List.ext_getElem? fun i => ?_
  rw [ServiceCalls.allWithout, map_mapIdx, List.getElem?_mapIdx, List.getElem?_map]
  cases hv : views[i]? with
  | none => rfl
  | some v =>
      obtain ⟨s, hs, hsv⟩ := getElem?_of_forall₂ h hv
      exact congrArg some (hsv.clientLines_without (hgone i s hs))

theorem needed_without (file : File) (views : List ServiceCalls) (gone : Nat → Nat → Bool) :
    (file.without gone).needed (ServiceCalls.allWithout gone views) =
      (file.needed views).filter fun d =>
        (ServiceCalls.allWithout gone views).any (·.uses (SchemaPath.token d)) := by
  have hbefore : ∀ token, (ServiceCalls.allWithout gone views).any (·.uses token) = true →
      views.any (·.uses token) = true := by
    intro token h
    obtain ⟨w, hw, huses⟩ := List.any_eq_true.mp h
    obtain ⟨i, hi, rfl⟩ := List.mem_mapIdx.mp hw
    obtain ⟨c, hc, hcuses⟩ := List.any_eq_true.mp huses
    refine List.any_eq_true.mpr ⟨views[i], List.getElem_mem hi, ?_⟩
    exact List.any_eq_true.mpr ⟨c, (sublist_without _ _).subset hc, hcuses⟩
  unfold needed
  rw [List.filter_filter]
  refine List.filter_congr fun d _ => ?_
  rw [Bool.eq_iff_iff, Bool.and_eq_true]
  exact ⟨fun h => ⟨h, hbefore _ h⟩, fun h => h.1⟩

end File

/-- Streaming methods have no stubs, and the other methods do not notice them.  If every method of a
file can be resolved, then each client has the stubs of the methods that do not stream, in order.
Without any of the methods that stream, the module has the same clients; the aliases of each service
and the lines of its class are those of before without those of the methods; and of the imports only
dependencies are missed, those that no method needs that is left. -/
theorem ServiceModule.streaming_methods_skipped (wellKnown : Table String)
    (hsound : file.MethodsSound ix) :
    ∃ views, file.ResolvesTo ix views ∧
      (text ix wellKnown file).result = .ok (Line.render
        (file.moduleLines (file.importsOf wellKnown (file.needed views)) views)) ∧
      List.Forall₂ (fun s v => ∃ calls,
        List.Forall₂ (Method.ResolvesTo ix s.name)
          (s.methods.filter fun m => !m.clientStreaming && !m.serverStreaming) calls ∧
        v.clientLines = .code 2 "export class Client \x7b" :: clientBaseLines
          ++ calls.flatMap (fun c => c.unaryLines ++ c.batchLines)
          ++ [.code 2 "\x7d", .blank]) file.services views ∧
      ∀ gone, file.AllStream gone → ∃ rest, (file.without gone).ResolvesTo ix rest ∧
        (text ix wellKnown (file.without gone)).result = .ok (Line.render (file.moduleLines
          (file.importsOf wellKnown ((file.needed views).filter fun d =>
            rest.any (·.uses (SchemaPath.token d)))) rest)) ∧
        rest.map (·.clientLines) = views.map (·.clientLines) ∧
        rest.map (·.aliases) = views.mapIdx (fun i v => without (gone i) v.aliases) ∧
        rest.map (·.statics) = views.mapIdx (fun i v => without (gone i) v.statics) := by
  obtain ⟨views, hviews⟩ := File.exists_resolvesTo hsound
  refine ⟨views, hviews, text_eq_ok hviews, ?_, ?_⟩
  · exact hviews.imp fun s v hs => ⟨v.calls.filter (·.isUnary), hs.unary, rfl⟩
  · intro gone hgone
    have hrest := hviews.without gone
    refine ⟨_, hrest, ?_, hviews.clientLines_without hgone, ?_, ?_⟩
    · rw [text_eq_ok hrest, file.needed_without views gone]
      rfl
    · rw [ServiceCalls.allWithout, map_mapIdx]
      exact congrArg (List.mapIdx · views) (funext₂ fun i v => map_without _ _ _)
    · rw [ServiceCalls.allWithout, map_mapIdx]
      exact congrArg (List.mapIdx · views) (funext₂ fun i v => map_without _ _ _)

/-! Only the method that streams needs the clock. -/

namespace Feed

def clock : File where
  name := "clock.proto"
  package := "clock"
  messages := [{ name := "Time" }]

def schema : File where
  name := "feed.proto"
  dependencies := ["clock.proto"]
  messages := [{ name := "Tick" }]
  services := [{ name := "Quotes", methods := [
    { name := "Get", inputType := ".Tick", outputType := ".Tick" },
    { name := "Watch", inputType := ".Tick", outputType := ".clock.Time",
      serverStreaming := true }] }]

def index : Index := .ofFiles [clock, schema]

def second (_ j : Nat) : Bool := j == 1

theorem methodsSound : schema.MethodsSound index := by
  have htick : index.Resolvable ⟨.message, TypeName.bare ".Tick"⟩ :=
    .message rfl (show index.messages.find? (TypeName.bare ".Tick")
      = some ⟨"", "feed.proto", false, none⟩ from rfl) rfl
  have htime : index.Resolvable ⟨.message, TypeName.bare ".clock.Time"⟩ :=
    .message rfl (show index.messages.find? (TypeName.bare ".clock.Time")
      = some ⟨"clock", "clock.proto", false, none⟩ from rfl) rfl
  intro s hs
  rw [List.mem_singleton.mp hs]
  exact List.forall_mem_cons.mpr ⟨⟨htick, htick⟩, List.forall_mem_singleton.mpr ⟨htick, htime⟩⟩

theorem allStream : schema.AllStream second := by
  intro i s hs j m hm hj
  cases eq_of_beq hj
  cases i with
  | zero =>
      cases hs
      cases hm
      rfl
  | succ i => cases hs

def get : Call where
  name := "Get"
  service := "Quotes"
  clientStreaming := false
  serverStreaming := false
  request := .reference (some "feed_pb") "Tick"
  response := .reference (some "feed_pb") "Tick"

def watch : Call :=
  { get with
    name := "Watch", serverStreaming := true, response := .reference (some "clock_pb") "Time" }

theorem resolvesTo : schema.ResolvesTo index [⟨"Quotes", [get, watch]⟩] :=
  .cons ⟨rfl, .cons ⟨rfl, rfl, rfl, rfl, rfl, rfl⟩ (.cons ⟨rfl, rfl, rfl, rfl, rfl, rfl⟩ .nil)⟩ .nil

theorem resolvesTo_without : (schema.without second).ResolvesTo index [⟨"Quotes", [get]⟩] :=
  .cons ⟨rfl, .cons ⟨rfl, rfl, rfl, rfl, rfl, rfl⟩ .nil⟩ .nil

/-- The module, but for what depends on the methods. -/
def moduleText (imports aliases statics client : String) : String :=
  Line.render schema.headLines ++ imports
    ++ Line.render (ServiceModule.transportImports.map (.code 0 ·)
      ++ [.blank, .code 0 "export namespace Quotes \x7b"] ++ envelopeLines)
    ++ aliases
    ++ Line.render [.code 2 "class Quotes \x7b", .code 4 "static readonly serviceName: string;"]
    ++ statics ++ Line.render [.code 2 "\x7d", .blank] ++ client

def clientText (calls : List Call) : String :=
  Line.render (ServiceCalls.clientLines ⟨"Quotes", calls⟩ ++ [.code 0 "\x7d"])

theorem render_moduleLines (imports : List Import) (calls : List Call) :
    Line.render (schema.moduleLines imports [⟨"Quotes", calls⟩]) =
      moduleText (Line.render (imports.map fun i => .code 0 i.line))
        (Line.render (calls.flatMap Call.aliasLines)) (Line.render (calls.map Call.staticLine))
        (clientText calls) := by
  have haliases : ∀ v : ServiceCalls, v.aliases.flatten = v.calls.flatMap Call.aliasLines :=
    fun v => List.flatMap_def.symm
  have hnamespace :
      "export namespace " ++ "Quotes" ++ " \x7b" = "export namespace Quotes \x7b" := by
    decide
  have hclass : "class " ++ "Quotes" ++ " \x7b" = "class Quotes \x7b" := by decide
  simp only [moduleText, clientText, ← Line.render_append, File.moduleLines, haliases, hnamespace,
    hclass, List.flatMap_singleton, ServiceCalls.classLines, ServiceCalls.statics,
    List.append_assoc]

theorem hasLine_clientText : HasLine (clientText [get]) "      requestMessage: feed_pb.Tick," := by
  have hline : Line.spaces 6 ++ ("requestMessage: " ++ get.request.text ++ ",")
      = "      requestMessage: feed_pb.Tick," := by
    decide
  have hmem : Line.code 6 ("requestMessage: " ++ get.request.text ++ ",") ∈ get.unaryLines :=
    .tail _ (.head _)
  rw [← hline]
  refine Line.hasLine_render (List.mem_append_left _ (List.mem_append_left _
    (List.mem_append_right _ (List.mem_flatMap.mpr ⟨get, ?_, List.mem_append_left _ hmem⟩))))
  decide

end Feed

theorem ServiceModule.streaming_methods_skipped_feed :
    Feed.schema.MethodsSound Feed.index ∧ Feed.schema.AllStream Feed.second ∧
    ∃ client,
      (text Feed.index {} Feed.schema).result = .ok (Feed.moduleText
        ("import * as feed_pb from \"./feed_pb\";\n" ++
          "import * as clock_pb from \"./clock_pb\";\n")
        (Line.render (Feed.get.aliasLines ++ Feed.watch.aliasLines))
        ("    static readonly Get: QuotesGet;\n" ++ "    static readonly Watch: QuotesWatch;\n")
        client) ∧
      (text Feed.index {} (Feed.schema.without Feed.second)).result = .ok (Feed.moduleText
        "import * as feed_pb from \"./feed_pb\";\n" (Line.render Feed.get.aliasLines)
        "    static readonly Get: QuotesGet;\n" client) ∧
      HasLine client "      requestMessage: feed_pb.Tick," := by
  refine ⟨Feed.methodsSound, Feed.allStream, Feed.clientText [Feed.get], ?_⟩
  obtain ⟨views, hviews, htext, -, hwithout⟩ := streaming_methods_skipped {} Feed.methodsSound
  obtain ⟨rest, hrest, hless, hclients, -, -⟩ := hwithout Feed.second Feed.allStream
  obtain rfl := hviews.unique Feed.resolvesTo
  obtain rfl := hrest.unique Feed.resolvesTo_without
  have hlines : ServiceCalls.clientLines ⟨"Quotes", [Feed.get]⟩
      = ServiceCalls.clientLines ⟨"Quotes", [Feed.get, Feed.watch]⟩ := (List.cons.inj hclients).1
  have hclient : Feed.clientText [Feed.get] = Feed.clientText [Feed.get, Feed.watch] := by
    rw [Feed.clientText, hlines, Feed.clientText]
  have hneeded : Feed.schema.needed [⟨"Quotes", [Feed.get, Feed.watch]⟩] = ["clock.proto"] := by
    decide
  rw [hneeded, Feed.render_moduleLines] at htext hless
  refine ⟨?_, ?_, Feed.hasLine_clientText⟩
  · have himports : Line.render ((Feed.schema.importsOf {} ["clock.proto"]).map fun i =>
        .code 0 i.line) = "import * as feed_pb from \"./feed_pb\";\n" ++
          "import * as clock_pb from \"./clock_pb\";\n" := by
      decide
    have hstatics : Line.render ([Feed.get, Feed.watch].map Call.staticLine)
        = "    static readonly Get: QuotesGet;\n"
          ++ "    static readonly Watch: QuotesWatch;\n" := by
      decide
    rw [htext, hclient, himports, hstatics, List.flatMap_cons, List.flatMap_singleton]
  · have hgone : (["clock.proto"].filter fun d =>
        [ServiceCalls.mk "Quotes" [Feed.get]].any (·.uses (SchemaPath.token d))) = [] := by decide
    have himports : Line.render ((Feed.schema.importsOf {} []).map fun i => .code 0 i.line)
        = "import * as feed_pb from \"./feed_pb\";\n" := by decide
    have hstatics : Line.render ([Feed.get].map Call.staticLine)
        = "    static readonly Get: QuotesGet;\n" := by decide
    rw [hless, hgone, himports, hstatics, List.flatMap_singleton]

end RpcStubs
