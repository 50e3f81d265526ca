/-
# A service module imports what its methods need, and nothing else

Whether a dependency is imported is decided on text: the dependency's namespace
token and a dot must stand at the beginning of the type of some method.  That
this is the same as "some method takes or returns a message of a file with that
token" rests on two facts.

  * A token has no dot in it (`dot_notMem_token`), so that a type which begins
    with a token and a dot begins with no other token and a dot.
  * Methods are resolved for use in a file without a name, so that every
    message of a named file has its token before it.

The search stops at the first method that needs the dependency; what is behind
it is not looked at.  As all methods can be resolved that makes no difference.

Map entries are left out: the type of a map begins with `Map<`, whatever its
key and value need.
-/
import Mathlib.Data.List.Basic
import RpcStubs.Proofs.Resolvable
import RpcStubs.Service.Imports

namespace RpcStubs

variable {ix : Index} {file : File}

/-! ## Tokens -/

namespace SchemaPath

theorem isSeparator_of_mem_token {path : String} {c : Char} (h : c ∈ (token path).toList) :
    isSeparator c = false := by
  unfold token at h
  rw [String.toList_append, String.toList_ofList, List.mem_append] at h
  rcases h with h | h
  · obtain ⟨d, -, rfl⟩ := List.mem_map.mp h
    cases hd : isSeparator d with
    | true => rfl
    | false => exact hd
  · have hending : generatedEnding.toList.all (!isSeparator ·) = true := by decide
    simpa using List.all_eq_true.mp hending c h

theorem dot_notMem_token (path : String) : '.' ∉ (token path).toList := by
  intro h
  cases isSeparator_of_mem_token h

end SchemaPath

theorem takeWhile_append_dot {a : List Char} (ha : '.' ∉ a) (r : List Char) :
    (a ++ '.' :: r).takeWhile (· ≠ '.') = a := by
  have hall : ∀ c ∈ a, decide (c ≠ '.') = true := by
    intro c hc
    exact decide_eq_true fun h => ha (h ▸ hc)
  rw [List.takeWhile_append_of_pos hall]
  simp

/-- What begins with a token and a dot begins with no other token and a dot. -/
theorem TypeExpr.startsIn_reference (p q path : String) :
    (TypeExpr.reference (some (SchemaPath.token p)) path).startsIn (SchemaPath.token q) = true ↔
      SchemaPath.token p = SchemaPath.token q := by
  unfold startsIn text
  rw [List.isPrefixOf_iff_prefix]
  simp only [String.toList_append]
  constructor
  · rintro ⟨rest, hrest⟩
    have hcut : (SchemaPath.token q).toList ++ '.' :: rest
        = (SchemaPath.token p).toList ++ '.' :: path.toList := by
      simpa using hrest
    have hsame := congrArg (List.takeWhile (· ≠ '.')) hcut
    rw [takeWhile_append_dot (SchemaPath.dot_notMem_token q),
      takeWhile_append_dot (SchemaPath.dot_notMem_token p)] at hsame
    exact (String.toList_inj.mp hsame).symm
  · intro h
    rw [h]
    exact List.prefix_append _ _

/-! ## Methods -/

/-- The full names of the types that a method takes and returns. -/
def Method.typeNames (m : Method) : List String :=
  [TypeName.bare m.inputType, TypeName.bare m.outputType]

/-- Every method takes and returns a message of the index that is no map entry and whose file
has a name. -/
def File.CallsMessages (ix : Index) (file : File) : Prop :=
  ∀ s ∈ file.services, ∀ m ∈ s.methods, ∀ name ∈ m.typeNames,
    ∃ e ∈ ix.messages.find? name, e.isMapEntry = false ∧ e.file ≠ ""

/-- A method takes or returns a message of a file with a token. -/
def Method.Needs (ix : Index) (token : String) (m : Method) : Prop :=
  ∃ name ∈ m.typeNames, ∃ e ∈ ix.messages.find? name, SchemaPath.token e.file = token

/-- Some method of a file takes or returns a message of a file with a token. -/
def File.Needs (ix : Index) (file : File) (token : String) : Prop :=
  ∃ s ∈ file.services, ∃ m ∈ s.methods, m.Needs ix token

instance Method.decNeeds (ix : Index) (token : String) (m : Method) :
    Decidable (m.Needs ix token) :=
  inferInstanceAs (Decidable (∃ name ∈ m.typeNames, ∃ e ∈ ix.messages.find? name,
    SchemaPath.token e.file = token))

instance File.decNeeds (ix : Index) (file : File) (token : String) :
    Decidable (file.Needs ix token) :=
  inferInstanceAs (Decidable (∃ s ∈ file.services, ∃ m ∈ s.methods, m.Needs ix token))

theorem Index.valueType_unnamed {name : String} {e : MessageEntry}
    (he : ix.messages.find? name = some e) (hentry : e.isMapEntry = false) (hfile : e.file ≠ "") :
    (ix.valueType "" ⟨.message, name⟩).result
      = .ok (.reference (some (SchemaPath.token e.file)) (TypeName.within e.package name)) := by
  unfold Index.valueType
  rw [Index.elementType_eq_of_message rfl he hentry, Index.reference, if_neg hfile]

namespace Method

variable {m : Method}

theorem types_eq
    (h : ∀ name ∈ m.typeNames, ∃ e ∈ ix.messages.find? name, e.isMapEntry = false ∧ e.file ≠ "") :
    ∃ request response : MessageEntry,
      ix.messages.find? (TypeName.bare m.inputType) = some request ∧
      ix.messages.find? (TypeName.bare m.outputType) = some response ∧
      (m.types ix).result = .ok
        (.reference (some (SchemaPath.token request.file))
            (TypeName.within request.package (TypeName.bare m.inputType)),
          .reference (some (SchemaPath.token response.file))
            (TypeName.within response.package (TypeName.bare m.outputType))) := by
  obtain ⟨request, hreq, hreqEntry, hreqFile⟩ := h (TypeName.bare m.inputType) (by simp [typeNames])
  obtain ⟨response, hresp, hrespEntry, hrespFile⟩ :=
    h (TypeName.bare m.outputType) (by simp [typeNames])
  refine ⟨request, response, hreq, hresp, ?_⟩
  refine Traced.result_bind_eq_ok.mpr ⟨_, Index.valueType_unnamed hreq hreqEntry hreqFile, ?_⟩
  exact Traced.result_bind_eq_ok.mpr ⟨_, Index.valueType_unnamed hresp hrespEntry hrespFile, rfl⟩

/-- The test on the text of a method's types tells whether it needs a namespace. -/
theorem startsIn_types {path : String}
    (h : ∀ name ∈ m.typeNames, ∃ e ∈ ix.messages.find? name, e.isMapEntry = false ∧ e.file ≠ "") :
    ∃ request response : TypeExpr, (m.types ix).result = .ok (request, response) ∧
      (request.startsIn (SchemaPath.token path) || response.startsIn (SchemaPath.token path))
        = decide (m.Needs ix (SchemaPath.token path)) := by
  obtain ⟨request, response, hreq, hresp, htypes⟩ := types_eq h
  refine ⟨_, _, htypes, ?_⟩
  rw [Bool.eq_iff_iff, Bool.or_eq_true, decide_eq_true_iff, TypeExpr.startsIn_reference,
    TypeExpr.startsIn_reference]
  constructor
  · rintro (hp | hp)
    · exact ⟨_, List.mem_cons_self, request, hreq, hp⟩
    · exact ⟨_, List.mem_cons_of_mem _ List.mem_cons_self, response, hresp, hp⟩
  · rintro ⟨name, hname, e, he, hp⟩
    rcases List.mem_cons.mp hname with rfl | hname
    · rw [Option.mem_def, hreq] at he
      cases he
      exact .inl hp
    · rw [List.mem_singleton.mp hname, Option.mem_def, hresp] at he
      cases he
      exact .inr hp

end Method

/-! ## The imports of a file -/

namespace File

theorem methodsUse_cons (ix : Index) (token : String) (m : Method) (ms : List Method) :
    methodsUse ix token (m :: ms) = (do
      let types ← m.types ix
      if types.1.startsIn token || types.2.startsIn token then return true
      else methodsUse ix token ms) :=
  rfl

theorem methodsUse_eq {path : String} {ms : List Method}
    (h : ∀ m ∈ ms, ∀ name ∈ m.typeNames,
      ∃ e ∈ ix.messages.find? name, e.isMapEntry = false ∧ e.file ≠ "") :
    (methodsUse ix (SchemaPath.token path) ms).result
      = .ok (decide (∃ m ∈ ms, m.Needs ix (SchemaPath.token path))) := by
  induction ms with
  | nil => rfl
  | cons m ms ih =>
      obtain ⟨request, response, htypes, hstarts⟩ :=
        @Method.startsIn_types ix m path (h m List.mem_cons_self)
      have hrest := ih fun m hm => h m (List.mem_cons_of_mem _ hm)
      rw [methodsUse_cons]
      refine Traced.result_bind_eq_ok.mpr ⟨(request, response), htypes, ?_⟩
      rw [hstarts]
      by_cases hm : m.Needs ix (SchemaPath.token path)
      · rw [if_pos (decide_eq_true hm)]
        have hex : ∃ n ∈ m :: ms, n.Needs ix (SchemaPath.token path) := ⟨m, List.mem_cons_self, hm⟩
        rw [decide_eq_true hex]
        rfl
      · rw [if_neg (by simpa using hm), hrest]
        simp [hm]

theorem uses_eq (h : file.CallsMessages ix) (path : String) :
    (file.uses ix (SchemaPath.token path)).result
      = .ok (decide (file.Needs ix (SchemaPath.token path))) := by
  have hall : ∀ m ∈ file.methods, ∀ name ∈ m.typeNames,
      ∃ e ∈ ix.messages.find? name, e.isMapEntry = false ∧ e.file ≠ "" := by
    intro m hm
    obtain ⟨s, hs, hm⟩ := List.mem_flatMap.mp hm
    exact h s hs m hm
  unfold uses
  rw [methodsUse_eq hall]
  congr 1
  rw [decide_eq_decide]
  constructor
  · rintro ⟨m, hm, hneeds⟩
    obtain ⟨s, hs, hm⟩ := List.mem_flatMap.mp hm
    exact ⟨s, hs, m, hm, hneeds⟩
  · rintro ⟨s, hs, m, hm, hneeds⟩
    exact ⟨m, List.mem_flatMap.mpr ⟨s, hs, hm⟩, hneeds⟩

theorem serviceImports_of_uses {used : String → Bool}
    (h : ∀ d, (file.uses ix (SchemaPath.token d)).result = .ok (used d))
    (wellKnown : Table String) :
    (file.serviceImports ix wellKnown).result
      = .ok (.ofHost file.name ::
          (file.dependencies.filter used).map (.ofDependency file.name wellKnown)) := by
  have himport : ∀ d, (file.importIfUsed ix wellKnown d).result
      = .ok (if used d then some (.ofDependency file.name wellKnown d) else none) := by
    intro d
    refine Traced.result_bind_eq_ok.mpr ⟨used d, h d, ?_⟩
    cases used d with
    | true => rfl
    | false => rfl
  have hall : (file.dependencies.mapM (file.importIfUsed ix wellKnown)).result
      = .ok (file.dependencies.map fun d =>
          if used d then some (.ofDependency file.name wellKnown d) else none) := by
    rw [Traced.result_mapM_eq_ok, List.forall₂_map_right_iff, List.forall₂_same]
    exact fun d _ => himport d
  refine Traced.result_bind_eq_ok.mpr ⟨_, hall, ?_⟩
  rw [Traced.result_pure]
  congr 2
  rw [List.filterMap_map, ← List.filterMap_eq_filter, List.map_filterMap]
  refine List.filterMap_congr fun d _ => ?_
  cases hused : used d with
  | true => simp [hused, Option.guard]
  | false => simp [hused, Option.guard]

theorem serviceImports_eq (h : file.CallsMessages ix) (wellKnown : Table String) :
    (file.serviceImports ix wellKnown).result
      = .ok (.ofHost file.name ::
          (file.dependencies.filter fun d => file.Needs ix (SchemaPath.token d)).map
            (.ofDependency file.name wellKnown)) :=
  serviceImports_of_uses (uses_eq h) wellKnown

/-- The test for the use of a namespace is exact, and so are the imports of a service module: the
file's own messages, then every dependency that some method needs, in the order and as often as
the file lists it. -/
theorem import_elision_exact (ix : Index) (wellKnown : Table String) (file : File)
    (h : file.CallsMessages ix) :
    (∀ path : String, ∃ used : Bool,
      (file.uses ix (SchemaPath.token path)).result = .ok used ∧
      (used = true ↔ ∃ s ∈ file.services, ∃ m ∈ s.methods, ∃ name ∈ m.typeNames,
        ∃ e ∈ ix.messages.find? name, SchemaPath.token e.file = SchemaPath.token path)) ∧
    (file.serviceImports ix wellKnown).result = .ok
      (⟨SchemaPath.token file.name,
          SchemaPath.toRoot file.name ++ SchemaPath.moduleStem file.name⟩ ::
        (file.dependencies.filter fun d => file.Needs ix (SchemaPath.token d)).map fun d =>
          ⟨SchemaPath.token d, SchemaPath.importPath d file.name wellKnown⟩) := by
  refine ⟨?_, serviceImports_eq h wellKnown⟩
  intro path
  exact ⟨_, uses_eq h path, decide_eq_true_iff⟩

/-- A file with a dependency that it lists twice, one with the same token, and one that no method
needs. -/
def orders : File where
  name := "shop/orders.proto"
  package := "shop"
  dependencies := ["shop/unused.proto", "common/money.proto", "common-money.proto",
    "common/money.proto"]
  messages := [{ name := "Order" }]
  services := [{
    name := "Orders"
    methods := [
      { name := "Place", inputType := ".shop.Order", outputType := "shop.Order" },
      { name := "Watch", inputType := ".shop.Order", outputType := ".common.Money"
        serverStreaming := true }] }]

/-- The index of the file and of the one dependency that its methods need. -/
def ordersIndex : Index :=
  .ofFiles
    [{ name := "common/money.proto", package := "common", messages := [{ name := "Money" }] },
    orders]

theorem import_elision_exact_orders :
    orders.CallsMessages ordersIndex ∧
    (orders.uses ordersIndex (SchemaPath.token "common/money.proto")).result = .ok true ∧
    (orders.uses ordersIndex (SchemaPath.token "shop/unused.proto")).result = .ok false ∧
    (orders.serviceImports ordersIndex {}).result = .ok
      [⟨"shop_orders_pb", "../shop/orders_pb"⟩, ⟨"common_money_pb", "../common/money_pb"⟩,
        ⟨"common_money_pb", "../common-money_pb"⟩, ⟨"common_money_pb", "../common/money_pb"⟩] := by
  have hcalls : orders.CallsMessages ordersIndex := by
    unfold CallsMessages
    decide
  obtain ⟨huses, himports⟩ := import_elision_exact ordersIndex {} orders hcalls
  refine ⟨hcalls, ?_, ?_, himports.trans (congrArg Except.ok (by decide))⟩
  · obtain ⟨used, hused, hiff⟩ := huses "common/money.proto"
    rw [hused, hiff.mpr (by decide)]
  · obtain ⟨used, hused, hiff⟩ := huses "shop/unused.proto"
    rw [hused, Bool.eq_false_iff.mpr fun h => absurd (hiff.mp h) (by decide)]

end File

end RpcStubs
