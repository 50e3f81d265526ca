/-
# The index and the text list the same types

The index and the declarations walk over the same messages, each in its own
way.  The index lists map entries, the text does not; the index lists the enums
of a message behind those of the messages in it, and knows nothing of the enums
that hold the cases of a oneof group.  This module shows what they agree on,
with the text read back by `Text.outline?`:

  * the classes of a text are the messages of its file in the index that are no
    map entries, in the same order;
  * the enums are those of the index, and one for each oneof group, in some
    order.

So a path that the index gives for a type is the path of a block of the text.

`Outlines` is the invariant of the walk.  It says the same of any list of
messages and any list of headings, and the induction over the messages keeps it
together with the scope: the name of the innermost open block, behind the
package, is the scope in which the index names what comes next.
-/
import Mathlib.Data.List.Perm.Basic
import RpcStubs.Proofs.OneLine

namespace RpcStubs

open Text (OneLine IsIdentifier nest outline?)

/-! ## Scopes and paths -/

namespace TypeName

theorem within_qualify (package path : String) : within package (qualify package path) = path := by
  unfold within qualify
  split
  next => rfl
  next =>
    apply String.toList_inj.mp
    rw [String.toList_ofList, String.toList_append, String.toList_append, ← String.length_toList]
    exact List.drop_left' (List.length_append ..)

theorem qualify_append (package path name : String) :
    qualify package path ++ "." ++ name = qualify package (path ++ "." ++ name) := by
  unfold qualify
  split
  next => rfl
  next => simp only [String.append_assoc]

theorem qualify_qualify (package : String) {path : String} (hpath : path ≠ "") (name : String) :
    qualify (qualify package path) name = qualify package (path ++ "." ++ name) := by
  have hscope : qualify package path ≠ "" := by
    unfold qualify
    split
    next => exact hpath
    next => simp
  rw [← qualify_append, qualify, if_neg hscope]

end TypeName

/-- A scope is that of the innermost open block, behind the package. -/
def ScopeOf (package : String) (opened : List String) (scope : String) : Prop :=
  match opened with
  | [] => scope = package
  | path :: _ => path ≠ "" ∧ scope = TypeName.qualify package path

namespace ScopeOf

variable {package scope name : String} {opened : List String}

theorem qualify_eq (h : ScopeOf package opened scope) (name : String) :
    TypeName.qualify scope name = TypeName.qualify package (nest opened name) := by
  cases opened with
  | nil =>
      rw [show scope = package from h]
      rfl
  | cons path outer =>
      obtain ⟨hpath, rfl⟩ := h
      exact TypeName.qualify_qualify package hpath name

theorem step (h : ScopeOf package opened scope) (hname : name ≠ "") :
    ScopeOf package (nest opened name :: opened) (TypeName.qualify scope name) := by
  refine ⟨?_, h.qualify_eq name⟩
  cases opened with
  | nil => exact hname
  | cons path outer => simp [nest]

theorem within_qualify (h : ScopeOf package opened scope) (name : String) :
    TypeName.within package (TypeName.qualify scope name) = nest opened name := by
  rw [h.qualify_eq, TypeName.within_qualify]

end ScopeOf

/-! ## One message -/

namespace Message

/-- The names of the enums that hold the cases of a message's oneof groups.  A group that stands
for the presence of an optional field has none. -/
def caseNames (m : Message) : List String :=
  (m.oneofs.zipIdx.filter fun p =>
    !m.fields.any fun f => f.oneofIndex == some (p.2 : Int) && f.proto3Optional).map fun p =>
      Name.oneofType p.1 ++ "Case"

theorem names_of_oneofGroups {m : Message} {groups : List (String × List Field)}
    (h : m.oneofGroups = .ok groups) :
    (groups.map fun g => (oneofCases g.1 g.2).name) = m.caseNames := by
  rw [eq_of_oneofGroups h, List.filter_map, List.map_map, caseNames]
  simp only [Function.comp_def, oneofFields, List.any_filter]
  rfl

/-- The paths of the enums that are declared in a message itself. -/
def enumPaths (path : String) (m : Message) : List String :=
  (m.enums.map (·.name) ++ m.caseNames).map fun name => path ++ "." ++ name

end Message

/-! ## The walk -/

namespace BlockKind

theorem paths_append (kind : BlockKind) (hs₁ hs₂ : List Heading) :
    kind.paths (hs₁ ++ hs₂) = kind.paths hs₁ ++ kind.paths hs₂ := by
  rw [paths, List.filter_append, List.map_append]
  rfl

theorem classPaths_enums (names : List String) (path : String → String) :
    ofClass.paths (names.map fun name => ⟨.ofEnum, path name⟩) = [] := by
  simp [paths, List.filter_map, Function.comp_def]

theorem enumPaths_enums (names : List String) (path : String → String) :
    ofEnum.paths (names.map fun name => ⟨.ofEnum, path name⟩) = names.map path := by
  simp [paths, List.filter_map, Function.comp_def]

end BlockKind

/-- Headings outline messages: one class for each, in order, and their enums in some order. -/
structure Outlines (package : String) (messages : List (String × Message))
    (hs : List Heading) : Prop where
  classes : BlockKind.ofClass.paths hs = messages.map fun p => TypeName.within package p.1
  enums : (BlockKind.ofEnum.paths hs).Perm
    (messages.flatMap fun p => p.2.enumPaths (TypeName.within package p.1))

namespace Outlines

variable {package : String} {ms₁ ms₂ messages : List (String × Message)} {hs₁ hs₂ hs : List Heading}

theorem nil : Outlines package [] [] := ⟨rfl, .refl []⟩

theorem append (h₁ : Outlines package ms₁ hs₁) (h₂ : Outlines package ms₂ hs₂) :
    Outlines package (ms₁ ++ ms₂) (hs₁ ++ hs₂) := by
  refine ⟨?_, ?_⟩
  · rw [BlockKind.paths_append, h₁.classes, h₂.classes, List.map_append]
  · rw [BlockKind.paths_append, List.flatMap_append]
    exact h₁.enums.append h₂.enums

/-- The enums of a message stand behind the messages in it, so their order changes. -/
theorem cons {full path : String} {m : Message} {names : List String}
    (hpath : TypeName.within package full = path)
    (hnames : names = m.enums.map (·.name) ++ m.caseNames) (h : Outlines package messages hs) :
    Outlines package ((full, m) :: messages)
      (⟨.ofClass, path⟩ :: hs ++ names.map fun name => ⟨.ofEnum, path ++ "." ++ name⟩) := by
  refine ⟨?_, ?_⟩
  · rw [BlockKind.paths_append, BlockKind.classPaths_enums, List.append_nil, List.map_cons, hpath,
      ← h.classes]
    rfl
  · rw [BlockKind.paths_append, BlockKind.enumPaths_enums, List.flatMap_cons, hpath, hnames]
    exact (h.enums.append_right _).trans List.perm_append_comm

end Outlines

theorem ClassDecl.headingsAll_append (opened : List String) (cs ds : List ClassDecl) :
    headingsAll opened (cs ++ ds) = headingsAll opened cs ++ headingsAll opened ds := by
  rw [headingsAll_eq_flatMap, headingsAll_eq_flatMap, headingsAll_eq_flatMap, List.flatMap_append]

namespace Message

variable {ix : Index} {file : File} {package : String}

theorem names_of_declared {m : Message} {groups : List (String × List Field)}
    (h : m.oneofGroups = .ok groups) :
    (m.enums.map Enum.declare ++ groups.map fun g => oneofCases g.1 g.2).map (·.name)
      = m.enums.map (·.name) ++ m.caseNames := by
  rw [← names_of_oneofGroups h, List.map_append, List.map_map, List.map_map]
  rfl

/-- The messages of a list, at any depth, that are no map entries, with their full names. -/
def declared (scope : String) (ms : List Message) : List (String × Message) :=
  (namedAll scope ms).filter fun p => !p.2.isMapEntry

/-- A map entry holds no types. -/
def FlatEntry (m : Message) : Prop := m.isMapEntry = true → m.nested = [] ∧ m.enums = []

instance (m : Message) : Decidable m.FlatEntry := inferInstanceAs (Decidable (_ → _))

mutual

theorem outlines_declare (opened : List String) (scope : String)
    (hscope : ScopeOf package opened scope) :
    ∀ (m : Message) (c : Option ClassDecl), (∀ p ∈ m.named scope, p.2.PlainNames) →
      (∀ p ∈ m.named scope, p.2.FlatEntry) → (m.declare ix file).result = .ok c →
      Outlines package ((m.named scope).filter fun p => !p.2.isMapEntry)
        (ClassDecl.headingsAll opened c.toList)
  | ⟨name, fields, nested, enums, oneofs, extensions, isMapEntry⟩, c => by
      intro hplain hflat hc
      rw [named, List.forall_mem_cons] at hplain hflat
      rw [named]
      rcases declare_eq_ok.mp hc with
        ⟨hentry, rfl⟩ | ⟨hentry, members, classes, groups, constants, -, hclasses, hgroups, -, rfl⟩
      · -- nothing is declared for a map entry, and nothing is in it
        obtain ⟨rfl, -⟩ := hflat.1 hentry
        rw [namedAll, List.filter_cons_of_neg (by simpa using hentry)]
        exact .nil
      · have hpath := hscope.within_qualify name
        have hopened := hscope.step hplain.1.name.1
        have hnested := outlines_declareAll _ _ hopened nested classes hplain.2 hflat.2 hclasses
        rw [List.filter_cons_of_pos (by simpa using hentry), Option.toList, ClassDecl.headingsAll,
          ClassDecl.headingsAll, List.append_nil, ClassDecl.headings]
        have hall := Outlines.cons hpath (names_of_declared hgroups) hnested
        rw [List.map_map] at hall
        exact hall

theorem outlines_declareAll (opened : List String) (scope : String)
    (hscope : ScopeOf package opened scope) :
    ∀ (ms : List Message) (cs : List ClassDecl), (∀ p ∈ namedAll scope ms, p.2.PlainNames) →
      (∀ p ∈ namedAll scope ms, p.2.FlatEntry) → (declareAll ix file ms).result = .ok cs →
      Outlines package (declared scope ms) (ClassDecl.headingsAll opened cs)
  | [], cs => by
      intro _ _ hcs
      rw [declareAll] at hcs
      cases hcs
      rw [ClassDecl.headingsAll, declared, namedAll]
      exact .nil
  | m :: ms, cs => by
      intro hplain hflat hcs
      rw [namedAll, List.forall_mem_append] at hplain hflat
      rw [declareAll_cons] at hcs
      obtain ⟨c, hc, hcs⟩ := Traced.result_bind_eq_ok.mp hcs
      obtain ⟨rest, hrest, hcs⟩ := Traced.result_bind_eq_ok.mp hcs
      cases hcs
      rw [ClassDecl.headingsAll_append, declared, namedAll, List.filter_append]
      exact (outlines_declare opened scope hscope m c hplain.1 hflat.1 hc).append
        (outlines_declareAll opened scope hscope ms rest hplain.2 hflat.2 hrest)

end

end Message

/-! ## The index of a schema set -/

theorem filter_flatMap_owner {α : Type} {entries : File → List α} {owner : α → String}
    (howner : ∀ g, ∀ x ∈ entries g, owner x = g.name) {files : List File} {file : File}
    (hnames : (files.map (·.name)).Nodup) (hfile : file ∈ files) :
    (files.flatMap entries).filter (fun x => owner x == file.name) = entries file := by
  have hself : ∀ g, g.name = file.name →
      (entries g).filter (fun x => owner x == file.name) = entries g := by
    intro g hg
    refine List.filter_eq_self.mpr fun x hx => beq_iff_eq.mpr ?_
    exact (howner g x hx).trans hg
  have hother : ∀ g, g.name ≠ file.name →
      (entries g).filter (fun x => owner x == file.name) = [] := by
    intro g hg
    refine List.filter_eq_nil_iff.mpr fun x hx h => hg ?_
    exact (howner g x hx).symm.trans (beq_iff_eq.mp h)
  induction files with
  | nil => cases hfile
  | cons g files ih =>
      rw [List.map_cons, List.nodup_cons] at hnames
      rw [List.flatMap_cons, List.filter_append]
      rcases List.mem_cons.mp hfile with rfl | hfile
      · have hrest : (files.flatMap entries).filter (fun x => owner x == file.name) = [] := by
          rw [List.filter_flatMap]
          refine List.flatMap_eq_nil_iff.mpr fun g hg => hother g fun h => hnames.1 ?_
          exact h ▸ List.mem_map_of_mem hg
        rw [hself file rfl, hrest, List.append_nil]
      · have hne : g.name ≠ file.name := fun h => hnames.1 (h ▸ List.mem_map_of_mem hfile)
        rw [hother g hne, List.nil_append, ih hnames.2 hfile]

namespace Index

variable {files : List File} {file : File}

theorem messages_of_file (hnames : (files.map (·.name)).Nodup)
    (hmessages : (files.flatMap fun g => g.messageEntries.map (·.1)).Nodup) (hfile : file ∈ files) :
    ((ofFiles files).messages.entries.filter fun e => e.2.file == file.name && !e.2.isMapEntry)
      = (Message.declared file.package file.messages).map fun p => (p.1, p.2.entry file) := by
  have hentries : (ofFiles files).messages.entries = files.flatMap File.messageEntries :=
    Table.entries_ofList (by rwa [List.map_flatMap])
  have howner : ∀ g : File, ∀ x ∈ g.messageEntries.filter (fun e => !e.2.isMapEntry),
      x.2.file = g.name := by
    intro g x hx
    obtain ⟨p, -, rfl⟩ := List.mem_map.mp (List.mem_of_mem_filter hx)
    rfl
  rw [hentries, ← List.filter_filter, List.filter_flatMap, filter_flatMap_owner howner hnames hfile,
    File.messageEntries, List.filter_map]
  rfl

theorem enums_of_file (hnames : (files.map (·.name)).Nodup)
    (henums : (files.flatMap File.enumNames).Nodup) (hfile : file ∈ files) :
    ((ofFiles files).enums.entries.filter fun e => e.2.file == file.name) = file.enumEntries := by
  have hentries : (ofFiles files).enums.entries = files.flatMap File.enumEntries := by
    refine Table.entries_ofList ?_
    have hkeys : ∀ g : File, g.enumEntries.map (·.1) = g.enumNames := by
      intro g
      rw [File.enumEntries, List.map_map]
      exact List.map_id _
    rw [List.map_flatMap]
    simpa only [hkeys] using henums
  have howner : ∀ g : File, ∀ x ∈ g.enumEntries, x.2.file = g.name := by
    intro g x hx
    obtain ⟨name, -, rfl⟩ := List.mem_map.mp hx
    rfl
  rw [hentries, filter_flatMap_owner howner hnames hfile]

end Index

/-! ## Agreement -/

namespace File

/-- The paths of the enums that hold the cases of oneof groups, in every message of a file that is
no map entry. -/
def casePaths (file : File) : List String :=
  (Message.declared file.package file.messages).flatMap fun p =>
    p.2.caseNames.map fun name => TypeName.within file.package p.1 ++ "." ++ name

variable {file : File}

theorem within_ownEnums (hplain : file.PlainNames) {p : String × Message}
    (hp : p ∈ Message.namedAll file.package file.messages) :
    (p.2.ownEnums p.1).map (TypeName.within file.package)
      = p.2.enums.map fun e => TypeName.within file.package p.1 ++ "." ++ e.name := by
  have hscoped : ∃ path : String, path ≠ "" ∧ p.1 = TypeName.qualify file.package path := by
    refine @Message.forall_namedAll IsIdentifier
      (fun full => ∃ path, path ≠ "" ∧ full = TypeName.qualify file.package path) ?_ file.package ?_
      file.messages (fun q hq => (hplain.messages q hq).name) p hp
    · rintro scope name ⟨path, hpath, rfl⟩ -
      exact ⟨path ++ "." ++ name, by simp, TypeName.qualify_qualify _ hpath name⟩
    · intro name hname
      exact ⟨name, hname.1, rfl⟩
  obtain ⟨path, -, hpath⟩ := hscoped
  rw [Message.ownEnums, List.map_map]
  refine List.map_congr_left fun e _ => ?_
  rw [Function.comp_apply, hpath, TypeName.qualify_append, TypeName.within_qualify,
    TypeName.within_qualify]

theorem flatMap_ownEnums
    (hflat : ∀ p ∈ Message.namedAll file.package file.messages, p.2.FlatEntry) :
    ((Message.declared file.package file.messages).flatMap fun p => p.2.ownEnums p.1)
      = (Message.namedAll file.package file.messages).flatMap fun p => p.2.ownEnums p.1 := by
  rw [Message.declared]
  generalize Message.namedAll file.package file.messages = named at hflat
  induction named with
  | nil => rfl
  | cons p named ih =>
      rw [List.forall_mem_cons] at hflat
      cases hentry : p.2.isMapEntry with
      | true =>
          have hnone : p.2.ownEnums p.1 = [] := by
            rw [Message.ownEnums, (hflat.1 hentry).2, List.map_nil]
          rw [List.filter_cons_of_neg (by simpa using hentry), List.flatMap_cons, hnone,
            List.nil_append, ih hflat.2]
      | false =>
          rw [List.filter_cons_of_pos (by simpa using hentry), List.flatMap_cons,
            List.flatMap_cons, ih hflat.2]

/-- The enums of a file and those of its messages are the enums of the index and the cases. -/
theorem enumPaths_perm (hplain : file.PlainNames)
    (hflat : ∀ p ∈ Message.namedAll file.package file.messages, p.2.FlatEntry) :
    (file.enums.map (·.name) ++ (Message.declared file.package file.messages).flatMap fun p =>
      p.2.enumPaths (TypeName.within file.package p.1)).Perm
    (file.enumNames.map (TypeName.within file.package) ++ file.casePaths) := by
  have hown : ((Message.declared file.package file.messages).flatMap fun p =>
      p.2.enums.map fun e => TypeName.within file.package p.1 ++ "." ++ e.name).Perm
      ((Message.enumNamesAll file.package file.messages).map (TypeName.within file.package)) := by
    have hnames := (Message.enumNamesAll_perm file.package file.messages).map
      (TypeName.within file.package)
    rw [← flatMap_ownEnums hflat, List.map_flatMap] at hnames
    refine (List.Perm.of_eq ?_).trans hnames.symm
    refine List.flatMap_congr fun p hp => ?_
    exact (within_ownEnums hplain (List.mem_of_mem_filter hp)).symm
  have htop : (file.enums.map fun e => TypeName.qualify file.package e.name).map
      (TypeName.within file.package) = file.enums.map (·.name) := by
    rw [List.map_map]
    exact List.map_congr_left fun e _ => TypeName.within_qualify file.package e.name
  have hsplit : ((Message.declared file.package file.messages).flatMap fun p =>
      p.2.enumPaths (TypeName.within file.package p.1)).Perm
      ((Message.enumNamesAll file.package file.messages).map (TypeName.within file.package)
        ++ file.casePaths) := by
    refine List.Perm.trans ?_ (hown.append_right file.casePaths)
    refine List.Perm.trans (List.Perm.of_eq ?_) (List.flatMap_append_perm _ _ _).symm
    refine List.flatMap_congr fun p _ => ?_
    rw [Message.enumPaths, List.map_append, List.map_map]
    rfl
  rw [enumNames, List.map_append, htop, List.append_assoc]
  refine (hsplit.append_left _).trans ?_
  rw [← List.append_assoc, ← List.append_assoc]
  exact List.perm_append_comm.append_right _

end File

theorem MessageModule.outlines {ix : Index} {wellKnown : Table String} {file : File}
    {m : MessageModule} (hplain : file.PlainNames)
    (hflat : ∀ p ∈ Message.namedAll file.package file.messages, p.2.FlatEntry)
    (h : (ofFile ix wellKnown file).result = .ok m) :
    BlockKind.ofClass.paths m.headings
      = (Message.declared file.package file.messages).map (fun p =>
        TypeName.within file.package p.1) ∧
    (BlockKind.ofEnum.paths m.headings).Perm
      (file.enumNames.map (TypeName.within file.package) ++ file.casePaths) := by
  obtain ⟨classes, constants, hclasses, -, rfl⟩ := ofFile_eq_ok.mp h
  have hmessages := Message.outlines_declareAll [] file.package rfl file.messages classes
    hplain.messages hflat hclasses
  have htop : (file.enums.map Enum.declare).map (fun e => (⟨.ofEnum, e.name⟩ : Heading))
      = (file.enums.map (·.name)).map fun name => ⟨.ofEnum, name⟩ := by
    rw [List.map_map, List.map_map]
    rfl
  rw [headings, BlockKind.paths_append, BlockKind.paths_append, htop, BlockKind.classPaths_enums,
    BlockKind.enumPaths_enums, List.map_id']
  refine ⟨hmessages.classes, ?_⟩
  exact (hmessages.enums.append_left _).trans (File.enumPaths_perm hplain hflat)

/-- The text of a file's message module can be read back.  Its classes are the messages of the
file in the index, without map entries, in the order of the index; its enums are those of the file
in the index, and one for every oneof group that does not stand for the presence of a field.

The files have different names, and so have the messages and the enums in them.  Their names are
identifiers, and no map entry holds types of its own. -/
theorem outline_agrees_with_index (files : List File) (wellKnown : Table String) (file : File)
    (hfile : file ∈ files) (hnames : (files.map (·.name)).Nodup)
    (hmessages : (files.flatMap fun g => g.messageEntries.map (·.1)).Nodup)
    (henums : (files.flatMap File.enumNames).Nodup)
    (hplain : ∀ g ∈ files, g.PlainNames)
    (hflat : ∀ g ∈ files, ∀ p ∈ Message.namedAll g.package g.messages, p.2.FlatEntry)
    (hwell : ∀ path ∈ wellKnown.values, OneLine path)
    (m : MessageModule)
    (hm : (MessageModule.ofFile (Index.ofFiles files) wellKnown file).result = .ok m) :
    ∃ outline, outline? m.text = some outline ∧
      BlockKind.ofClass.paths outline
        = ((Index.ofFiles files).messages.entries.filter fun e =>
            e.2.file == file.name && !e.2.isMapEntry).map
          (fun e => TypeName.within e.2.package e.1) ∧
      (BlockKind.ofEnum.paths outline).Perm
        (((Index.ofFiles files).enums.entries.filter fun e => e.2.file == file.name).map
            (fun e => TypeName.within e.2.package e.1)
          ++ file.casePaths) := by
  have hlines := MessageModule.oneLine_lines hplain (hplain file hfile) hwell hm
  obtain ⟨hclasses, henumPaths⟩ := MessageModule.outlines (hplain file hfile) (hflat file hfile) hm
  refine ⟨m.headings, m.contributes.outline?_render hlines, ?_, ?_⟩
  · rw [Index.messages_of_file hnames hmessages hfile, List.map_map]
    exact hclasses
  · rw [Index.enums_of_file hnames henums hfile, File.enumEntries, List.map_map]
    exact henumPaths

/-! ## An instance

A message with a map, with a nested message that has an enum, and with two
oneof groups, the second of which stands for the presence of an optional field. -/

namespace Invoice

def totals : Field where
  name := "totals"
  number := 1
  kind := .message
  typeName := ".billing.Invoice.TotalsEntry"
  label := .repeated

def totalsEntry : Message where
  name := "TotalsEntry"
  fields := [{ name := "key", number := 1, kind := .scalar .string },
    { name := "value", number := 2, kind := .scalar .int64 }]
  isMapEntry := true

def line : Message where
  name := "Line"
  fields :=
    [{ name := "unit", number := 1, kind := .enum, typeName := ".billing.Invoice.Line.Unit" }]
  enums := [{ name := "Unit", values := [{ name := "PIECE", number := 0 }] }]

def message : Message where
  name := "Invoice"
  fields := [totals,
    { name := "card", number := 2, kind := .scalar .string, oneofIndex := some 0 },
    { name := "cash", number := 3, kind := .scalar .bool, oneofIndex := some 0 },
    { name := "note", number := 4, kind := .scalar .string, oneofIndex := some 1,
      proto3Optional := true }]
  nested := [line, totalsEntry]
  oneofs := ["payment_method", "_note"]

def schema : File where
  name := "billing/invoice.proto"
  package := "billing"
  dialect := "proto3"
  dependencies := ["google/protobuf/timestamp.proto"]
  messages := [message]
  enums := [{ name := "Currency", values := [{ name := "EUR", number := 0 }] }]

theorem messagesSound : schema.MessagesSound (Index.ofFiles [schema]) := by
  have htype : totals.typeRef = ⟨.message, "billing.Invoice.TotalsEntry"⟩ := by decide
  have hentry : (Index.ofFiles [schema]).messages.find? "billing.Invoice.TotalsEntry" = some
      ⟨"billing", "billing/invoice.proto", true,
        some ⟨⟨.scalar .string, ""⟩, ⟨.scalar .int64, ""⟩⟩⟩ := by decide
  have hunit : (Index.ofFiles [schema]).enums.find? "billing.Invoice.Line.Unit" = some
      ⟨"billing", "billing/invoice.proto"⟩ := by decide
  have htotals : (Index.ofFiles [schema]).Resolvable totals.typeRef := htype ▸
    .map rfl hentry rfl rfl .scalar .scalar
      (Index.acyclicFrom_of_key_value hentry rfl .scalar .scalar)
  have hnormal : ∀ f ∈ message.fields ++ line.fields, f.jsType = none := by decide
  rw [List.forall_mem_append] at hnormal
  have hmessage : message.Sound (Index.ofFiles [schema]) := by
    refine ⟨fun f hf => .inl (hnormal.1 f hf), ?_, Message.strayOneof?_eq_none.mp (by decide),
      List.forall_mem_nil _⟩
    simp only [message, List.forall_mem_cons]
    exact ⟨htotals, .scalar, .scalar, .scalar, List.forall_mem_nil _⟩
  have hline : line.Sound (Index.ofFiles [schema]) := by
    refine ⟨fun f hf => .inl (hnormal.2 f hf), ?_, Message.strayOneof?_eq_none.mp (by decide),
      List.forall_mem_nil _⟩
    simp only [line, List.forall_mem_cons]
    exact ⟨.enum hunit, List.forall_mem_nil _⟩
  refine ⟨?_, List.forall_mem_nil _⟩
  rintro d ⟨m, hm, hd⟩
  rw [show m = message from List.mem_singleton.mp hm] at hd
  cases hd with
  | self => exact hmessage
  | nested _ hc hd =>
      rcases List.mem_pair.mp hc with rfl | rfl
      · cases hd with
        | self => exact hline
        | nested _ hc => cases hc
      · cases hd with
        | self h => cases h
        | nested h => cases h

end Invoice

theorem outline_agrees_with_index_invoice :
    ∃ m outline, (MessageModule.ofFile (Index.ofFiles [Invoice.schema]) WellKnown.default
        Invoice.schema).result = .ok m ∧
      outline? m.text = some outline ∧
      BlockKind.ofClass.paths outline = ["Invoice", "Invoice.Line"] ∧
      (BlockKind.ofEnum.paths outline).Perm
        ["Invoice.Line.Unit", "Currency", "Invoice.PaymentMethodCase"] := by
  obtain ⟨m, hm⟩ := (@MessageModule.succeeds_ofFile _ _ WellKnown.default).mpr Invoice.messagesSound
  obtain ⟨outline, houtline, hclasses, henums⟩ := outline_agrees_with_index [Invoice.schema]
    WellKnown.default Invoice.schema (List.mem_singleton.mpr rfl) (by decide) (by decide)
      (by decide)
    (by decide) (by decide) (Text.oneLine_wellKnown (by decide)) m hm
  refine ⟨m, outline, hm, houtline, hclasses.trans (by decide), ?_⟩
  exact henums.trans (.of_eq (by decide))

end RpcStubs
