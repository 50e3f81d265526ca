/-
# Names that stay on their line

The lines of a module are those that its declarations put there, if no name
brings a line break along.  For the types of a schema set it is enough that the
names it declares are identifiers; the line break is one of the marks that a
module is then written without (`MessageModule.lacks_texts`).

What is left to say is about lines: each is made of one text of its declaration
and of characters that are the same for all, so it holds no line break if the
text holds none.
-/
import RpcStubs.Proofs.Lines
import RpcStubs.Proofs.Marks
import RpcStubs.Proofs.Outline

namespace RpcStubs

namespace Text

/-! ## Identifiers -/

/-- A text holds no line break. -/
def OneLine (s : String) : Prop := '\n' ∉ s.toList

instance (s : String) : Decidable (OneLine s) := inferInstanceAs (Decidable ('\n' ∉ s.toList))

/-- The characters of identifiers. -/
def isNameChar (c : Char) : Bool := c.isAlphanum || c == '_'

/-- Letters, digits and underscores, and at least one of them. -/
def IsIdentifier (s : String) : Prop := s ≠ "" ∧ s.toList.all isNameChar = true

instance (s : String) : Decidable (IsIdentifier s) := inferInstanceAs (Decidable (_ ∧ _))

theorem isNameChar_of_mem {s : String} (h : IsIdentifier s) : ∀ c ∈ s.toList, isNameChar c = true :=
  List.all_eq_true.mp h.2

theorem oneLine_append {s t : String} : OneLine (s ++ t) ↔ OneLine s ∧ OneLine t := lacks_append

theorem newline_mem_marks : '\n' ∈ marks := List.mem_cons_self

theorem oneLine_of_isIdentifier {s : String} (h : IsIdentifier s) : OneLine s :=
  fun hn => nomatch isNameChar_of_mem h _ hn

/-- A literal is searched byte by byte, as its characters would have to be decoded. -/
theorem oneLine_of_bytes {s : String} (h : (10 : UInt8) ∉ s.toByteArray.data.toList) :
    OneLine s := by
  intro hn
  apply h
  rw [toList_bytes]
  exact List.mem_flatMap.mpr ⟨'\n', hn, by decide⟩

theorem oneLine_wellKnown {package : String} (h : OneLine package) :
    ∀ path ∈ (WellKnown.table package).values, OneLine path :=
  lacks_wellKnown newline_mem_marks h

end Text

open Text (OneLine IsIdentifier Lacks newline_mem_marks)

/-! ## Schemas -/

/-- The names of an enum and of its values are identifiers. -/
structure Enum.PlainNames (e : Enum) : Prop where
  name : IsIdentifier e.name
  values : ∀ v ∈ e.values, IsIdentifier v.name

/-- The names that a message declares, without those of its nested messages, are identifiers. -/
structure Message.PlainNames (m : Message) : Prop where
  name : IsIdentifier m.name
  fields : ∀ f ∈ m.fields, IsIdentifier f.name
  enums : ∀ e ∈ m.enums, e.PlainNames
  oneofs : ∀ name ∈ m.oneofs, IsIdentifier name
  extensions : ∀ f ∈ m.extensions, IsIdentifier f.name

/-- The names that a file declares, at any depth, are identifiers; its paths and its package hold
no line break. -/
structure File.PlainNames (file : File) : Prop where
  name : OneLine file.name
  package : OneLine file.package
  dependencies : ∀ path ∈ file.dependencies, OneLine path
  messages : ∀ p ∈ Message.namedAll file.package file.messages, p.2.PlainNames
  enums : ∀ e ∈ file.enums, e.PlainNames
  extensions : ∀ f ∈ file.extensions, IsIdentifier f.name

/-- The name of an enum and those of its values hold no line break. -/
structure Enum.OneLineNames (e : Enum) : Prop where
  name : OneLine e.name
  values : ∀ v ∈ e.values, OneLine v.name

/-- The names that a message declares, without those of its nested messages, hold no line break. -/
structure Message.OneLineNames (m : Message) : Prop where
  name : OneLine m.name
  fields : ∀ f ∈ m.fields, OneLine f.name
  enums : ∀ e ∈ m.enums, e.OneLineNames
  oneofs : ∀ name ∈ m.oneofs, OneLine name
  extensions : ∀ f ∈ m.extensions, OneLine f.name

/-- The full names and the files that an index knows hold no line break. -/
structure Index.OneLineNames (ix : Index) : Prop where
  messages : ∀ p ∈ ix.messages.entries, OneLine p.1 ∧ OneLine p.2.file
  enums : ∀ p ∈ ix.enums.entries, OneLine p.1 ∧ OneLine p.2.file

theorem Enum.PlainNames.oneLineNames {e : Enum} (h : e.PlainNames) : e.OneLineNames :=
  ⟨Text.oneLine_of_isIdentifier h.name, fun v hv => Text.oneLine_of_isIdentifier (h.values v hv)⟩

theorem Message.PlainNames.oneLineNames {m : Message} (h : m.PlainNames) : m.OneLineNames where
  name := Text.oneLine_of_isIdentifier h.name
  fields f hf := Text.oneLine_of_isIdentifier (h.fields f hf)
  enums e he := (h.enums e he).oneLineNames
  oneofs name hname := Text.oneLine_of_isIdentifier (h.oneofs name hname)
  extensions f hf := Text.oneLine_of_isIdentifier (h.extensions f hf)

instance (e : Enum) : Decidable e.PlainNames :=
  decidable_of_iff (IsIdentifier e.name ∧ ∀ v ∈ e.values, IsIdentifier v.name)
    ⟨fun ⟨h₁, h₂⟩ => ⟨h₁, h₂⟩, fun ⟨h₁, h₂⟩ => ⟨h₁, h₂⟩⟩

instance (m : Message) : Decidable m.PlainNames :=
  decidable_of_iff (IsIdentifier m.name ∧ (∀ f ∈ m.fields, IsIdentifier f.name) ∧
      (∀ e ∈ m.enums, e.PlainNames) ∧ (∀ name ∈ m.oneofs, IsIdentifier name) ∧
      ∀ f ∈ m.extensions, IsIdentifier f.name)
    ⟨fun ⟨h₁, h₂, h₃, h₄, h₅⟩ => ⟨h₁, h₂, h₃, h₄, h₅⟩,
      fun ⟨h₁, h₂, h₃, h₄, h₅⟩ => ⟨h₁, h₂, h₃, h₄, h₅⟩⟩

instance (e : Enum) : Decidable e.OneLineNames :=
  decidable_of_iff (OneLine e.name ∧ ∀ v ∈ e.values, OneLine v.name)
    ⟨fun ⟨h₁, h₂⟩ => ⟨h₁, h₂⟩, fun ⟨h₁, h₂⟩ => ⟨h₁, h₂⟩⟩

instance (m : Message) : Decidable m.OneLineNames :=
  decidable_of_iff (OneLine m.name ∧ (∀ f ∈ m.fields, OneLine f.name) ∧
      (∀ e ∈ m.enums, e.OneLineNames) ∧ (∀ name ∈ m.oneofs, OneLine name) ∧
      ∀ f ∈ m.extensions, OneLine f.name)
    ⟨fun ⟨h₁, h₂, h₃, h₄, h₅⟩ => ⟨h₁, h₂, h₃, h₄, h₅⟩,
      fun ⟨h₁, h₂, h₃, h₄, h₅⟩ => ⟨h₁, h₂, h₃, h₄, h₅⟩⟩

instance (file : File) : Decidable file.PlainNames :=
  decidable_of_iff (OneLine file.name ∧ OneLine file.package ∧
      (∀ path ∈ file.dependencies, OneLine path) ∧
      (∀ p ∈ Message.namedAll file.package file.messages, p.2.PlainNames) ∧
      (∀ e ∈ file.enums, e.PlainNames) ∧ ∀ f ∈ file.extensions, IsIdentifier f.name)
    ⟨fun ⟨h₁, h₂, h₃, h₄, h₅, h₆⟩ => ⟨h₁, h₂, h₃, h₄, h₅, h₆⟩,
      fun ⟨h₁, h₂, h₃, h₄, h₅, h₆⟩ => ⟨h₁, h₂, h₃, h₄, h₅, h₆⟩⟩

/-! ## Names without line breaks -/

theorem Enum.OneLineNames.lacks {e : Enum} (h : e.OneLineNames) :
    ∀ name ∈ e.names, Lacks '\n' name :=
  Enum.forall_mem_names.mpr ⟨h.name, h.values⟩

theorem Message.OneLineNames.lacks {m : Message} (h : m.OneLineNames) :
    ∀ name ∈ m.ownNames, Lacks '\n' name :=
  Message.forall_mem_ownNames.mpr
    ⟨h.name, h.fields, fun e he => (h.enums e he).lacks, h.oneofs, h.extensions⟩

theorem File.PlainNames.lacks {file : File} (h : file.PlainNames) :
    ∀ name ∈ file.schemaNames, Lacks '\n' name :=
  File.forall_mem_schemaNames.mpr
    ⟨h.name, h.package, h.dependencies, fun p hp => (h.messages p hp).oneLineNames.lacks,
      fun e he => (h.enums e he).oneLineNames.lacks,
      fun f hf => Text.oneLine_of_isIdentifier (h.extensions f hf)⟩

theorem Index.OneLineNames.namesLack {ix : Index} (h : ix.OneLineNames) : ix.NamesLack '\n' :=
  ⟨h.messages, h.enums⟩

/-! ## Lines -/

theorem Line.body_code_iff {column : Nat} {text : String} :
    '\n' ∉ (Line.code column text).body ↔ OneLine text := by
  refine ⟨fun h hn => h (List.mem_append_right _ hn), fun h hn => ?_⟩
  rcases List.mem_append.mp hn with hn | hn
  · cases List.eq_of_mem_replicate hn
  · exact h hn

theorem Line.body_code {column : Nat} {text : String} (h : OneLine text) :
    '\n' ∉ (Line.code column text).body :=
  Line.body_code_iff.mpr h

theorem EnumDecl.oneLine_lines {e : EnumDecl} (h : ∀ t ∈ e.texts, OneLine t) (level : Int) :
    ∀ l ∈ e.lines level, '\n' ∉ l.body := by
  rw [texts, List.forall_mem_cons, List.forall_mem_map] at h
  simp only [lines, List.cons_append, List.forall_mem_cons, List.forall_mem_append,
    List.forall_mem_map]
  refine ⟨List.not_mem_nil, Line.body_code ?_, ?_, Line.body_code (by decide),
    List.forall_mem_nil _⟩
  · simp only [Text.oneLine_append]
    exact ⟨⟨by decide, h.1⟩, by decide⟩
  · intro v hv
    refine Line.body_code ?_
    simp only [Text.oneLine_append]
    exact ⟨⟨⟨h.2 v hv, by decide⟩, Text.lacks_toString newline_mem_marks v.2⟩, by decide⟩

theorem EnumDecl.oneLine_declare {e : Enum} (h : e.OneLineNames) (level : Int) :
    ∀ l ∈ e.declare.lines level, '\n' ∉ l.body := by
  refine oneLine_lines ?_ level
  rw [Enum.texts_declare]
  exact h.lacks

theorem EnumDecl.oneLine_oneofCases {name : String} {fields : List Field} (hname : OneLine name)
    (hfields : ∀ f ∈ fields, OneLine f.name) (level : Int) :
    ∀ l ∈ (oneofCases name fields).lines level, '\n' ∉ l.body :=
  oneLine_lines (lacks_oneofCases newline_mem_marks hname hfields) level

theorem ConstantDecl.oneLine_lines {c : ConstantDecl} (h : ∀ t ∈ c.texts, OneLine t) (level : Int) :
    ∀ l ∈ c.lines level, '\n' ∉ l.body := by
  rw [texts, List.forall_mem_cons, List.forall_mem_singleton] at h
  rw [lines, List.forall_mem_cons, List.forall_mem_singleton]
  refine ⟨List.not_mem_nil, Line.body_code ?_⟩
  simp only [Text.oneLine_append]
  exact ⟨⟨⟨⟨by decide, h.1⟩, by decide⟩, h.2⟩, by decide⟩

theorem Field.oneLine_constant {ix : Index} {file : File} {f : Field} (hix : ix.OneLineNames)
    (hname : OneLine f.name) {c : ConstantDecl} (h : (f.declareExtension ix file).result = .ok c)
    (level : Int) : ∀ l ∈ c.lines level, '\n' ∉ l.body :=
  ConstantDecl.oneLine_lines (lacks_constant newline_mem_marks hix.namesLack hname h) level

namespace ClassDecl

theorem linesAll_append (level : Int) (cs ds : List ClassDecl) :
    linesAll level (cs ++ ds) = linesAll level cs ++ linesAll level ds := by
  induction cs with
  | nil => rw [List.nil_append, linesAll, List.nil_append]
  | cons c cs ih => rw [List.cons_append, linesAll, linesAll, ih, List.append_assoc]

mutual

/-- By induction on the nesting of classes: the lines of a class are its own and those of the
classes in it, one level further in. -/
theorem oneLine_lines :
    ∀ c : ClassDecl, (∀ t ∈ c.texts, OneLine t) → ∀ level : Int, ∀ l ∈ c.lines level, '\n' ∉ l.body
  | ⟨name, members, classes, enums, constants⟩ => by
      simp only [texts, lines, List.cons_append, List.forall_mem_cons, List.forall_mem_append,
        List.forall_mem_map, List.forall_mem_flatMap]
      rintro ⟨hname, ⟨⟨hmembers, hclasses⟩, henums⟩, hconstants⟩ level
      refine ⟨Line.body_code ?_, ⟨⟨⟨?_, ?_⟩, ?_⟩, ?_⟩, Line.body_code (by decide),
        List.forall_mem_nil _⟩
      · simp only [Text.oneLine_append]
        exact ⟨⟨by decide, hname⟩, by decide⟩
      · exact fun m hm => Line.body_code (hmembers m hm)
      · exact oneLine_linesAll classes hclasses (level + 1)
      · exact fun e he => EnumDecl.oneLine_lines (henums e he) (level + 1)
      · exact fun c hc => ConstantDecl.oneLine_lines (hconstants c hc) (level + 1)

theorem oneLine_linesAll :
    ∀ cs : List ClassDecl, (∀ t ∈ textsAll cs, OneLine t) →
      ∀ level : Int, ∀ l ∈ linesAll level cs, '\n' ∉ l.body
  | [] => by
      intro _ level
      rw [linesAll]
      exact List.forall_mem_nil _
  | c :: cs => by
      rw [textsAll, List.forall_mem_append]
      rintro ⟨hc, hcs⟩ level
      rw [linesAll, List.forall_mem_append]
      exact ⟨oneLine_lines c hc level, oneLine_linesAll cs hcs level⟩

end

end ClassDecl

theorem Message.oneLine_declare {ix : Index} {file : File} (hix : ix.OneLineNames) (m : Message)
    (c : Option ClassDecl) (hm : ∀ d, m.Emits d → d.OneLineNames)
    (hc : (m.declare ix file).result = .ok c) (level : Int) :
    ∀ l ∈ ClassDecl.linesAll level c.toList, '\n' ∉ l.body :=
  ClassDecl.oneLine_linesAll _
    (lacks_declare newline_mem_marks hix.namesLack m c (fun d hd => (hm d hd).lacks) hc) level

theorem MessageModule.oneLine_lines_of_texts {m : MessageModule} (h : ∀ t ∈ m.texts, OneLine t) :
    ∀ l ∈ m.lines, '\n' ∉ l.body := by
  simp only [texts, List.forall_mem_cons, List.forall_mem_append, List.forall_mem_map,
    List.forall_mem_flatMap] at h
  obtain ⟨hpackage, hname, ⟨⟨himports, henums⟩, hclasses⟩, hconstants⟩ := h
  have hlines := ClassDecl.oneLine_linesAll m.classes hclasses 0
  simp only [lines, List.cons_append, List.nil_append, List.forall_mem_cons, List.forall_mem_append,
    List.forall_mem_map, List.forall_mem_flatMap]
  refine ⟨Line.body_code ?_, Line.body_code ?_, List.not_mem_nil,
    ⟨⟨⟨?_, ?_⟩, ?_⟩, ?_⟩, ?_⟩
  · exact Text.oneLine_append.mpr ⟨by decide, hpackage⟩
  · exact Text.oneLine_append.mpr ⟨by decide, hname⟩
  · exact fun i hi => Line.body_code (himports i hi)
  · intro l hl
    split at hl
    next => cases hl
    next =>
      rw [List.mem_singleton.mp hl]
      exact List.not_mem_nil
  · exact fun e he => EnumDecl.oneLine_lines (henums e he) 0
  · exact fun c hc => ⟨List.not_mem_nil, fun l hl => hlines l (ClassDecl.mem_linesAll hc hl)⟩
  · exact fun c hc => ConstantDecl.oneLine_lines (hconstants c hc) 0

theorem MessageModule.oneLine_lines {files : List File} {file : File} {wellKnown : Table String}
    {m : MessageModule} (hplain : ∀ g ∈ files, g.PlainNames) (hfile : file.PlainNames)
    (hwell : ∀ path ∈ wellKnown.values, OneLine path)
    (h : (ofFile (Index.ofFiles files) wellKnown file).result = .ok m) :
    ∀ l ∈ m.lines, '\n' ∉ l.body :=
  oneLine_lines_of_texts
    (lacks_texts newline_mem_marks (fun g hg => (hplain g hg).lacks) hfile.lacks hwell h)

end RpcStubs
