/-
# When the members of a client have different names

A client has four members of its own, and two for each method that does not
stream: its stub, and the stub for many requests at once.  Nothing keeps their
names apart.  A method `Call` takes the name of the client's own `call`; `Get`
and `GetBatch` meet in `getBatch`; and names that differ in the case of the
first letter, or in the `pb_` that sets reserved words apart, give one stub.

These are all the ways in which names can meet
(`client_members_distinct_iff`).  Stubs of single requests meet if their methods
have the same stub.  A stub for many requests ends in `Batch`, as no reserved
word does and as `callBatch` does alone of the fixed names, so that it can meet
only a method that is called so.
-/
import Mathlib.Data.List.Nodup
import Mathlib.Data.List.Pairwise
import RpcStubs.Proofs.ModuleLayout

namespace RpcStubs

/-! ## Names of stubs -/

namespace Name

/-- Methods with the same stub: their names differ in the case of the first letter at most, or by
what sets a reserved word apart. -/
def SameStub (a b : String) : Prop :=
  lowerFirst a = lowerFirst b ∨
  (lowerFirst a ∈ reserved ∧ lowerFirst b = "pb_" ++ lowerFirst a) ∨
  (lowerFirst b ∈ reserved ∧ lowerFirst a = "pb_" ++ lowerFirst b)

instance (a b : String) : Decidable (SameStub a b) :=
  inferInstanceAs (Decidable (_ ∨ _))

theorem chars_of_reserved {word : String} (h : word ∈ reserved) :
    '_' ∉ word.toList ∧ 'B' ∉ word.toList := by
  have hall : reserved.all (fun w => !w.toList.contains '_' && !w.toList.contains 'B') = true := by
    decide
  simpa using List.all_eq_true.mp hall word h

theorem pb_notMem_reserved (word : String) : "pb_" ++ word ∉ reserved := by
  intro h
  exact (chars_of_reserved h).1 (by simp)

theorem not_batch_of_reserved {word : String} (h : word ∈ reserved) (first : String) :
    word ≠ first ++ "Batch" ∧ "pb_" ++ word ≠ first ++ "Batch" := by
  have hchars := (chars_of_reserved h).2
  have hbatch : 'B' ∈ (first ++ "Batch").toList := by simp
  constructor
  · rintro rfl
    exact hchars hbatch
  · intro heq
    rw [← heq, String.toList_append, List.mem_append] at hbatch
    rcases hbatch with hmark | hword
    · exact absurd hmark (by decide)
    · exact hchars hword

theorem stub_of_reserved {name : String} (h : lowerFirst name ∈ reserved) :
    stub name = "pb_" ++ lowerFirst name :=
  if_pos h

theorem stub_of_notMem {name : String} (h : lowerFirst name ∉ reserved) :
    stub name = lowerFirst name :=
  if_neg h

theorem stub_eq_iff (a b : String) : stub a = stub b ↔ SameStub a b := by
  unfold SameStub
  by_cases ha : lowerFirst a ∈ reserved <;> by_cases hb : lowerFirst b ∈ reserved
  · have hab : lowerFirst b ≠ "pb_" ++ lowerFirst a := fun h => pb_notMem_reserved _ (h ▸ hb)
    have hba : lowerFirst a ≠ "pb_" ++ lowerFirst b := fun h => pb_notMem_reserved _ (h ▸ ha)
    simp [stub_of_reserved ha, stub_of_reserved hb, hab, hba]
  · have hne : lowerFirst a ≠ lowerFirst b := fun h => hb (h ▸ ha)
    simp [stub_of_reserved ha, stub_of_notMem hb, ha, hb, hne, eq_comm]
  · have hne : lowerFirst a ≠ lowerFirst b := fun h => ha (h ▸ hb)
    simp [stub_of_notMem ha, stub_of_reserved hb, ha, hb, hne]
  · simp [stub_of_notMem ha, stub_of_notMem hb, ha, hb]

/-- A stub ends in `Batch` only if its method does. -/
theorem stub_eq_batch_iff (name first : String) :
    stub name = first ++ "Batch" ↔ lowerFirst name = first ++ "Batch" := by
  by_cases h : lowerFirst name ∈ reserved
  · obtain ⟨hplain, hmarked⟩ := not_batch_of_reserved h first
    rw [stub_of_reserved h]
    exact ⟨fun heq => absurd heq hmarked, fun heq => absurd heq hplain⟩
  · rw [stub_of_notMem h]

end Name

/-! ## The members of a client -/

/-- The names of a service's methods that do not stream. -/
def Service.unaryNames (s : Service) : List String :=
  (s.methods.filter fun m => !m.clientStreaming && !m.serverStreaming).map (·.name)

/-- The names of the members that every client has. -/
def clientNames : List String := ["serviceHost", "constructor", "call", "callBatch"]

/-- The members of a client, each with the line that declares it. -/
def Service.members (s : Service) : List (String × String) :=
  [("serviceHost", "private serviceHost: string;"),
   ("constructor", "constructor(serviceHost: string, private http: HttpClient) \x7b"),
   ("call",
    "call<T>(url: string, request: any, "
      ++ "options?: \x7b[key: string]: string\x7d): Observable<T> \x7b"),
   ("callBatch",
    "callBatch<T>(url: string, request: any, "
      ++ "options?: \x7b[key: string]: string\x7d): Observable<T> \x7b")]
  ++ s.unaryNames.flatMap fun name =>
    [(Name.stub name, Name.stub name ++ "("),
      (Name.stub name ++ "Batch", Name.stub name ++ "Batch(")]

/-- The lines at a column that are not closing braces. -/
def Line.headsAt (column : Nat) (ls : List Line) : List String :=
  ls.filterMap fun
    | .blank => none
    | .code c text => if c = column ∧ text ≠ "\x7d" then some text else none

theorem Line.headsAt_append (column : Nat) (ls ms : List Line) :
    headsAt column (ls ++ ms) = headsAt column ls ++ headsAt column ms :=
  List.filterMap_append

namespace ServiceModule

open Script

variable {ix : Index} {s : Service}

theorem headsAt_stubs (c : Call) :
    Line.headsAt 4 (c.unaryLines ++ c.batchLines) = [c.stub ++ "(", c.stub ++ "Batch("] := by
  have hne : ∀ head : String, '(' ∈ head.toList → head ≠ "\x7d" := by
    rintro head hhead rfl
    exact absurd hhead (by decide)
  have hunary := hne (c.stub ++ "(") (by simp)
  have hbatch := hne (c.stub ++ "Batch(") (by simp)
  simp [Line.headsAt, Call.unaryLines, Call.batchLines, hunary, hbatch]

theorem headsAt_client (hsound : ∀ m ∈ s.methods, m.Sound ix) :
    Line.headsAt 4 ((client ix s).run namespacePen).lines = s.members.map (·.2) := by
  obtain ⟨v, hv⟩ := Service.exists_resolvesTo hsound
  have hlines : ((client ix s).run namespacePen).lines = v.clientLines := (writes_client hv).lines
  have hbase : Line.headsAt 4 (.code 2 "export class Client \x7b" :: clientBaseLines)
      = ["private serviceHost: string;",
         "constructor(serviceHost: string, private http: HttpClient) \x7b",
         "call<T>(url: string, request: any, "
           ++ "options?: \x7b[key: string]: string\x7d): Observable<T> \x7b",
         "callBatch<T>(url: string, request: any, "
           ++ "options?: \x7b[key: string]: string\x7d): Observable<T> \x7b"] := by
    decide
  have hnames : s.unaryNames = (v.calls.filter (·.isUnary)).map (·.name) :=
    map_eq_of_forall₂ hv.unary fun _ _ hm => hm.name.symm
  have hstubs : Line.headsAt 4 ((v.calls.filter (·.isUnary)).flatMap fun c =>
      c.unaryLines ++ c.batchLines)
      = s.unaryNames.flatMap fun name => [Name.stub name ++ "(", Name.stub name ++ "Batch("] := by
    rw [hnames, List.flatMap_map]
    exact List.filterMap_flatMap.trans (List.flatMap_congr fun c _ => headsAt_stubs c)
  have hclose : Line.headsAt 4 [.code 2 "\x7d", .blank] = [] := rfl
  rw [hlines, ServiceCalls.clientLines, Line.headsAt_append, Line.headsAt_append, hbase, hstubs,
    hclose, List.append_nil, Service.members, List.map_append, List.map_flatMap]
  rfl

end ServiceModule

/-! ## Clashes -/

/-- Names of methods whose clients have no name twice: no two have the same stub, none has the stub
of a fixed member, and none is that of another with `Batch` behind it. -/
structure Apart (names : List String) : Prop where
  stubs : names.Pairwise fun a b => ¬ Name.SameStub a b
  fixed : ∀ name ∈ names, Name.lowerFirst name ∉ clientNames
  batch : ∀ a ∈ names, ∀ b ∈ names, Name.lowerFirst b ≠ Name.stub a ++ "Batch"

theorem append_batch_ne (text : String) : text ≠ text ++ "Batch" := by
  intro h
  have hlength := congrArg String.length h
  rw [String.length_append] at hlength
  have hbatch : "Batch".length = 5 := rfl
  omega

theorem lowerFirst_ne_batch (name : String) : Name.lowerFirst name ≠ Name.stub name ++ "Batch" := by
  intro h
  exact append_batch_ne _ ((Name.stub_eq_batch_iff name _).mpr h)

theorem disjoint_stubs_iff (a b : String) :
    List.Disjoint [Name.stub a, Name.stub a ++ "Batch"] [Name.stub b, Name.stub b ++ "Batch"] ↔
      ¬ Name.SameStub a b ∧ Name.lowerFirst b ≠ Name.stub a ++ "Batch" ∧
        Name.lowerFirst a ≠ Name.stub b ++ "Batch" := by
  rw [← Name.stub_eq_iff, Ne, Ne, ← Name.stub_eq_batch_iff, ← Name.stub_eq_batch_iff]
  constructor
  · intro h
    refine ⟨?_, ?_, ?_⟩
    · intro hstub
      exact h List.mem_cons_self (hstub ▸ List.mem_cons_self)
    · intro hstub
      exact h (List.mem_cons_of_mem _ List.mem_cons_self) (hstub ▸ List.mem_cons_self)
    · intro hstub
      exact h List.mem_cons_self (hstub ▸ List.mem_cons_of_mem _ List.mem_cons_self)
  · rintro ⟨hstub, hba, hab⟩ x hxa hxb
    rcases List.mem_pair.mp hxa with rfl | rfl <;> rcases List.mem_pair.mp hxb with h | h
    · exact hstub h
    · exact hab h
    · exact hba h.symm
    · exact hstub ((String.append_left_inj _).mp h)

/-- The names of two stubs for each method are distinct exactly if no two methods have the same
stub and none is that of another with `Batch` behind it. -/
theorem nodup_stubs_iff (names : List String) :
    (names.flatMap fun name => [Name.stub name, Name.stub name ++ "Batch"]).Nodup ↔
      (names.Pairwise fun a b => ¬ Name.SameStub a b) ∧
      ∀ a ∈ names, ∀ b ∈ names, Name.lowerFirst b ≠ Name.stub a ++ "Batch" := by
  rw [List.nodup_flatMap]
  constructor
  · rintro ⟨-, hpairs⟩
    have hpairs := hpairs.imp fun h => (disjoint_stubs_iff _ _).mp h
    refine ⟨hpairs.imp fun h => h.1, ?_⟩
    have hsymm : Std.Symm fun a b => Name.lowerFirst b ≠ Name.stub a ++ "Batch" ∧
        Name.lowerFirst a ≠ Name.stub b ++ "Batch" := ⟨fun _ _ h => h.symm⟩
    have hall := (hpairs.imp fun h => h.2).forall_of_forall
      fun a _ => ⟨lowerFirst_ne_batch a, lowerFirst_ne_batch a⟩
    intro a ha b hb
    exact (hall ha hb).1
  · rintro ⟨hstubs, hbatch⟩
    refine ⟨?_, hstubs.imp_of_mem ?_⟩
    · intro name _
      simpa using append_batch_ne (Name.stub name)
    · intro a b ha hb hstub
      exact (disjoint_stubs_iff a b).mpr ⟨hstub, hbatch a ha b hb, hbatch b hb a ha⟩

/-- The one fixed name that ends in `Batch` is that of the fixed name `call`. -/
theorem append_batch_mem_clientNames {text : String} (h : text ++ "Batch" ∈ clientNames) :
    text = "call" := by
  have hchar : 'B' ∈ (text ++ "Batch").toList := by simp
  have hone : ∀ name ∈ clientNames, 'B' ∈ name.toList → name = "call" ++ "Batch" := by decide
  exact (String.append_left_inj _).mp (hone _ h hchar)

theorem stub_mem_clientNames (name : String) :
    (∃ x ∈ [Name.stub name, Name.stub name ++ "Batch"], x ∈ clientNames) ↔
      Name.lowerFirst name ∈ clientNames := by
  have hunreserved : ∀ x ∈ clientNames, x ∉ Name.reserved := by decide
  have hplain : ∀ x ∈ clientNames, '_' ∉ x.toList := by decide
  constructor
  · rintro ⟨x, hx, hmem⟩
    have hstub : Name.stub name ∈ clientNames := by
      rcases List.mem_pair.mp hx with rfl | rfl
      · exact hmem
      · rw [append_batch_mem_clientNames hmem]
        decide
    by_cases h : Name.lowerFirst name ∈ Name.reserved
    · rw [Name.stub_of_reserved h] at hstub
      exact absurd (by simp) (hplain _ hstub)
    · rwa [Name.stub_of_notMem h] at hstub
  · intro hmem
    refine ⟨_, List.mem_cons_self, ?_⟩
    rwa [Name.stub_of_notMem (hunreserved _ hmem)]

theorem nodup_members_iff (s : Service) :
    (s.members.map (·.1)).Nodup ↔ Apart s.unaryNames := by
  have hnames : s.members.map (·.1) = clientNames
      ++ s.unaryNames.flatMap fun name => [Name.stub name, Name.stub name ++ "Batch"] := by
    rw [Service.members, List.map_append, List.map_flatMap]
    rfl
  rw [hnames, List.nodup_append, nodup_stubs_iff]
  constructor
  · rintro ⟨-, ⟨hstubs, hbatch⟩, hfixed⟩
    refine ⟨hstubs, ?_, hbatch⟩
    intro name hname hmem
    obtain ⟨x, hx, hmem⟩ := (stub_mem_clientNames name).mpr hmem
    exact hfixed x hmem x (List.mem_flatMap.mpr ⟨name, hname, hx⟩) rfl
  · rintro ⟨hstubs, hfixed, hbatch⟩
    refine ⟨by decide, ⟨hstubs, hbatch⟩, ?_⟩
    rintro x hmem y hy rfl
    obtain ⟨name, hname, hx⟩ := List.mem_flatMap.mp hy
    exact hfixed name hname ((stub_mem_clientNames name).mp ⟨x, hx, hmem⟩)

/-- The members of the client of a service have different names exactly if the names of its methods
are apart. -/
theorem client_members_distinct_iff {ix : Index} {s : Service}
    (hsound : ∀ m ∈ s.methods, m.Sound ix) :
    Line.headsAt 4 ((ServiceModule.client ix s).run ServiceModule.namespacePen).lines
      = s.members.map (·.2) ∧
    ((s.members.map (·.1)).Nodup ↔ Apart s.unaryNames) :=
  ⟨ServiceModule.headsAt_client hsound, nodup_members_iff s⟩

/-! Services on one message. -/

namespace Dispatch

def index : Index := .ofFiles [{ name := "job.proto", messages := [{ name := "Job" }] }]

def method (name : String) : Method where
  name
  inputType := ".Job"
  outputType := ".Job"

theorem sound (name : String) : (method name).Sound index := by
  have hjob : index.Resolvable ⟨.message, "Job"⟩ :=
    .message rfl
      (show index.messages.find? "Job" = some ⟨"", "job.proto", false, none⟩ from rfl) rfl
  have hbare : TypeName.bare ".Job" = "Job" := rfl
  refine ⟨?_, ?_⟩
  · show index.Resolvable ⟨.message, TypeName.bare ".Job"⟩
    rwa [hbare]
  · show index.Resolvable ⟨.message, TypeName.bare ".Job"⟩
    rwa [hbare]

/-- Names that are apart: a reserved word, and one that ends in `Batch` and streams. -/
def service : Service where
  name := "Dispatch"
  methods := [method "Get", method "Delete", { method "GetBatch" with serverStreaming := true }]

theorem sound_service : ∀ m ∈ service.methods, m.Sound index := by
  intro m hm
  simp only [service, List.mem_cons, List.not_mem_nil, or_false] at hm
  rcases hm with rfl | rfl | rfl
  · exact sound "Get"
  · exact sound "Delete"
  · exact ⟨(sound "GetBatch").input, (sound "GetBatch").output⟩

/-- A name that the client has already. -/
def caller : Service where
  name := "Caller"
  methods := [method "Call"]

theorem sound_caller : ∀ m ∈ caller.methods, m.Sound index := by
  intro m hm
  rw [List.mem_singleton.mp hm]
  exact sound "Call"

end Dispatch

theorem client_members_distinct_iff_dispatch :
    (∀ m ∈ Dispatch.service.methods, m.Sound Dispatch.index) ∧
    Dispatch.service.members.map (·.1) = ["serviceHost", "constructor", "call", "callBatch", "get",
      "getBatch", "pb_delete", "pb_deleteBatch"] ∧
    (Dispatch.service.members.map (·.1)).Nodup := by
  have hapart : Apart Dispatch.service.unaryNames := ⟨by decide, by decide, by decide⟩
  exact ⟨Dispatch.sound_service, by decide,
    (client_members_distinct_iff Dispatch.sound_service).2.mpr hapart⟩

/-- One method is enough: the client of a service with the method `Call` declares `call` twice, and
`callBatch` too. -/
theorem client_members_clash :
    (Dispatch.caller.methods.map (·.name)).Nodup ∧
    (∀ m ∈ Dispatch.caller.methods, m.Sound Dispatch.index) ∧
    Line.headsAt 4
        ((ServiceModule.client Dispatch.index Dispatch.caller).run ServiceModule.namespacePen).lines
      = Dispatch.caller.members.map (·.2) ∧
    Dispatch.caller.members.map (·.1)
      = ["serviceHost", "constructor", "call", "callBatch", "call", "callBatch"] ∧
    ¬ (Dispatch.caller.members.map (·.1)).Nodup := by
  refine ⟨by decide, Dispatch.sound_caller, ?_, by decide, by decide⟩
  exact ServiceModule.headsAt_client Dispatch.sound_caller

end RpcStubs
