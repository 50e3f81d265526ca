/-
# The lines of a message module

What a module declares ends up as lines of its text.  A text has a line if it
stands between two line breaks, or at the beginning and before one
(`Text.HasLine`).  The classes of a module hold one another (`ClassDecl.Holds`),
in step with the messages that emit one another; so every field and every
extension that is emitted has a line, and every dependency has one too.
-/
import RpcStubs.Proofs.Emitted

namespace RpcStubs

variable {ix : Index} {file : File} {wellKnown : Table String}

/-! ## Lines of a text -/

namespace Line

theorem render_singleton (l : Line) : ∃ text, render [l] = text ++ "\n" := by
  cases l with
  | blank => exact ⟨"", rfl⟩
  | code column text => exact ⟨spaces column ++ text, render_code column text⟩

end Line

/-- A text has a line: something that stands at its beginning or behind a line break, and before
a line break. -/
def Text.HasLine (text line : String) : Prop :=
  ∃ before after : String, text = before ++ line ++ "\n" ++ after ∧
    (before = "" ∨ ∃ rest, before = rest ++ "\n")

open Text (HasLine)

theorem Line.hasLine_render {column : Nat} {text : String} {ls : List Line}
    (h : Line.code column text ∈ ls) : HasLine (render ls) (spaces column ++ text) := by
  obtain ⟨before, after, rfl⟩ := List.append_of_mem h
  refine ⟨render before, render after, ?_, ?_⟩
  · rw [render_append, show Line.code column text :: after = [.code column text] ++ after from rfl,
      render_append, render_code]
    simp only [String.append_assoc]
  · rcases List.eq_nil_or_concat before with rfl | ⟨ls, l, rfl⟩
    · exact .inl rfl
    · obtain ⟨rest, hrest⟩ := render_singleton l
      refine .inr ⟨render ls ++ rest, ?_⟩
      rw [List.concat_eq_append, render_append, hrest, String.append_assoc]

/-! ## Declarations -/

namespace ClassDecl

/-- A class holds itself and what the classes declared in it hold. -/
inductive Holds : ClassDecl → ClassDecl → Prop
  | self {c : ClassDecl} : Holds c c
  | nested {c c₁ c₂ : ClassDecl} : c₁ ∈ c.classes → Holds c₁ c₂ → Holds c c₂

theorem lines_eq (level : Int) (c : ClassDecl) :
    c.lines level =
      (atLevel level).plain ("export class " ++ c.name ++ " \x7b")
        :: c.members.map (fun m => (atLevel level).inner m.declaration)
        ++ linesAll (level + 1) c.classes
        ++ c.enums.flatMap (·.lines (level + 1))
        ++ c.constants.flatMap (·.lines (level + 1))
        ++ [(atLevel level).plain "\x7d"] := by
  cases c
  rw [lines]

theorem mem_linesAll {level : Int} {c : ClassDecl} {cs : List ClassDecl} {l : Line} (hc : c ∈ cs)
    (hl : l ∈ c.lines level) : l ∈ linesAll level cs := by
  induction cs with
  | nil => cases hc
  | cons c' cs ih =>
      rw [linesAll, List.mem_append]
      rcases List.mem_cons.mp hc with rfl | hc
      · exact .inl hl
      · exact .inr (ih hc)

theorem lines_of_holds {c c' : ClassDecl} (h : c.Holds c') :
    ∀ level : Int, ∃ level' : Int, ∀ l ∈ c'.lines level', l ∈ c.lines level := by
  induction h with
  | self => exact fun level => ⟨level, fun l hl => hl⟩
  | @nested c c₁ c₂ hc _ ih =>
      intro level
      obtain ⟨level', hlevel⟩ := ih (level + 1)
      refine ⟨level', fun l hl => ?_⟩
      have hnested : l ∈ linesAll (level + 1) c.classes := mem_linesAll hc (hlevel l hl)
      rw [lines_eq]
      simp only [List.mem_append, hnested, or_true, true_or]

theorem inner_mem_lines {level : Int} {c : ClassDecl} {m : Member} (h : m ∈ c.members) :
    (atLevel level).inner m.declaration ∈ c.lines level := by
  have hm : (atLevel level).inner m.declaration
      ∈ c.members.map fun m => (atLevel level).inner m.declaration :=
    List.mem_map.mpr ⟨m, h, rfl⟩
  rw [lines_eq]
  simp only [List.mem_append, List.mem_cons, hm, or_true, true_or]

theorem constant_mem_lines {level : Int} {c : ClassDecl} {x : ConstantDecl} (h : x ∈ c.constants)
    {l : Line} (hl : l ∈ x.lines (level + 1)) : l ∈ c.lines level := by
  have hx : l ∈ c.constants.flatMap (·.lines (level + 1)) := List.mem_flatMap.mpr ⟨x, h, hl⟩
  rw [lines_eq]
  simp only [List.mem_append, hx, or_true, true_or]

end ClassDecl

/-- The line of a constant. -/
def ConstantDecl.declaration (c : ConstantDecl) : String :=
  "export const " ++ c.name ++ ": " ++ c.type.text ++ ";"

theorem ConstantDecl.declaration_mem_lines (c : ConstantDecl) (level : Int) :
    (atLevel level).plain c.declaration ∈ c.lines level :=
  List.mem_cons_of_mem _ List.mem_cons_self

/-! ## Message modules -/

namespace Message

theorem declare_of_mem {ms : List Message} {cs : List ClassDecl}
    (h : (declareAll ix file ms).result = .ok cs) {m : Message} (hm : m ∈ ms) :
    ∃ c, (m.declare ix file).result = .ok c ∧ ∀ x ∈ c, x ∈ cs := by
  induction ms generalizing cs with
  | nil => cases hm
  | cons m' ms ih =>
      rw [declareAll_cons] at h
      obtain ⟨c, hc, h⟩ := Traced.result_bind_eq_ok.mp h
      obtain ⟨cs', hcs', h⟩ := Traced.result_bind_eq_ok.mp h
      cases h
      rcases List.mem_cons.mp hm with rfl | hm
      · exact ⟨c, hc, fun x hx => List.mem_append_left _ (Option.mem_toList.mpr hx)⟩
      · obtain ⟨c', hc', hsub⟩ := ih hcs' hm
        exact ⟨c', hc', fun x hx => List.mem_append_right _ (hsub x hx)⟩

/-- The class of a message holds the classes of all messages that it emits. -/
theorem declare_of_emits {m d : Message} (h : m.Emits d) :
    ∀ {c : Option ClassDecl}, (m.declare ix file).result = .ok c →
      ∃ top inner, c = some top ∧ (d.declare ix file).result = .ok (some inner) ∧
        top.Holds inner := by
  induction h with
  | @self m hentry =>
      intro c hc
      rcases declare_eq_ok.mp hc with
        ⟨h, -⟩ | ⟨-, members, classes, groups, constants, -, -, -, -, rfl⟩
      · rw [hentry] at h
        cases h
      · exact ⟨_, _, rfl, hc, .self⟩
  | @nested m n d hentry hn _ ih =>
      intro c hc
      rcases declare_eq_ok.mp hc with
        ⟨h, -⟩ | ⟨-, members, classes, groups, constants, -, hcs, -, -, rfl⟩
      · rw [hentry] at h
        cases h
      · obtain ⟨c', hc', hsub⟩ := declare_of_mem hcs hn
        obtain ⟨top, inner, rfl, hinner, hholds⟩ := ih hc'
        exact ⟨_, inner, rfl, hinner, .nested (hsub top rfl) hholds⟩

theorem declare_parts {d : Message} {c : ClassDecl}
    (h : (d.declare ix file).result = .ok (some c)) :
    List.Forall₂ (fun x m => (Field.member ix file x).result = .ok m) d.fields c.members ∧
    List.Forall₂ (fun x k => (Field.declareExtension ix file x).result = .ok k)
      d.extensions c.constants := by
  rcases declare_eq_ok.mp h with ⟨-, h⟩ | ⟨-, members, classes, groups, constants, hm, -, -, hx, h⟩
  · cases h
  · cases h
    exact ⟨Traced.result_mapM_eq_ok.mp hm, Traced.result_mapM_eq_ok.mp hx⟩

end Message

namespace File

/-- A field of a message that the module of a file declares. -/
def EmitsField (file : File) (x : Field) : Prop := ∃ d, file.Emits d ∧ x ∈ d.fields

/-- An extension of the file, or of a message that its module declares. -/
def EmitsExtension (file : File) (x : Field) : Prop :=
  x ∈ file.extensions ∨ ∃ d, file.Emits d ∧ x ∈ d.extensions

end File

namespace MessageModule

variable {m : MessageModule}

theorem hasLine_text_of_class {c inner : ClassDecl} (hc : c ∈ m.classes) (hinner : c.Holds inner) :
    ∃ level : Int, ∀ column text, Line.code column text ∈ inner.lines level →
      HasLine m.text (Line.spaces column ++ text) := by
  obtain ⟨level, hlevel⟩ := ClassDecl.lines_of_holds hinner 0
  refine ⟨level, fun column text hl => Line.hasLine_render ?_⟩
  have hline : Line.code column text ∈ m.classes.flatMap fun c => .blank :: c.lines 0 :=
    List.mem_flatMap.mpr ⟨c, hc, List.mem_cons_of_mem _ (hlevel _ hl)⟩
  simp only [lines, List.mem_append, hline, or_true, true_or]

theorem hasLine_text_of_constant {x : ConstantDecl} (hx : x ∈ m.constants) :
    HasLine m.text (Line.spaces 0 ++ x.declaration) := by
  refine Line.hasLine_render ?_
  have hline : Line.code 0 x.declaration ∈ m.constants.flatMap (·.lines 0) :=
    List.mem_flatMap.mpr ⟨x, hx, x.declaration_mem_lines 0⟩
  simp only [lines, List.mem_append, hline, or_true]

theorem hasLine_text_of_import {i : Import} (hi : i ∈ m.imports) : HasLine m.text i.line := by
  have hline : Line.code 0 i.line ∈ m.imports.map fun i => (atLevel 0).plain i.line :=
    List.mem_map.mpr ⟨i, hi, rfl⟩
  have hmem : Line.code 0 i.line ∈ m.lines := by
    simp only [lines, List.mem_append, hline, or_true, true_or]
  have h := Line.hasLine_render hmem
  rwa [Line.spaces_zero, String.empty_append] at h

theorem emitted_of_ofFile (h : (ofFile ix wellKnown file).result = .ok m) {d : Message}
    (hd : file.Emits d) :
    ∃ c ∈ m.classes, ∃ inner, (d.declare ix file).result = .ok (some inner) ∧ c.Holds inner := by
  obtain ⟨classes, constants, hc, -, rfl⟩ := ofFile_eq_ok.mp h
  obtain ⟨n, hn, hd⟩ := hd
  obtain ⟨c, hdeclare, hsub⟩ := Message.declare_of_mem hc hn
  obtain ⟨top, inner, rfl, hinner, hholds⟩ := Message.declare_of_emits hd hdeclare
  exact ⟨top, hsub top rfl, inner, hinner, hholds⟩

/-- Every field that is emitted has a line for its member. -/
theorem exists_member_line (h : (ofFile ix wellKnown file).result = .ok m) {x : Field}
    (hx : file.EmitsField x) :
    ∃ member column, (x.member ix file).result = .ok member ∧
      HasLine m.text (Line.spaces column ++ member.declaration) := by
  obtain ⟨d, hd, hx⟩ := hx
  obtain ⟨c, hc, inner, hinner, hholds⟩ := emitted_of_ofFile h hd
  obtain ⟨member, hmem, hmember⟩ := exists_of_forall₂ (Message.declare_parts hinner).1 hx
  obtain ⟨level, hlines⟩ := hasLine_text_of_class hc hholds
  exact ⟨member, _, hmember, hlines _ _ (ClassDecl.inner_mem_lines hmem)⟩

theorem exists_constant_line (h : (ofFile ix wellKnown file).result = .ok m) {x : Field}
    (hx : file.EmitsExtension x) :
    ∃ constant column, (x.declareExtension ix file).result = .ok constant ∧
      HasLine m.text (Line.spaces column ++ constant.declaration) := by
  rcases hx with hx | ⟨d, hd, hx⟩
  · obtain ⟨classes, constants, -, hconstants, rfl⟩ := ofFile_eq_ok.mp h
    obtain ⟨constant, hmem, hconstant⟩ :=
      exists_of_forall₂ (Traced.result_mapM_eq_ok.mp hconstants) hx
    exact ⟨constant, 0, hconstant, hasLine_text_of_constant hmem⟩
  · obtain ⟨c, hc, inner, hinner, hholds⟩ := emitted_of_ofFile h hd
    obtain ⟨constant, hmem, hconstant⟩ := exists_of_forall₂ (Message.declare_parts hinner).2 hx
    obtain ⟨level, hlines⟩ := hasLine_text_of_class hc hholds
    exact ⟨constant, _, hconstant, hlines _ _
      (ClassDecl.constant_mem_lines hmem (constant.declaration_mem_lines _))⟩

theorem hasLine_text_of_dependency (h : (ofFile ix wellKnown file).result = .ok m) {g : String}
    (hg : g ∈ file.dependencies) :
    HasLine m.text ("import * as " ++ SchemaPath.token g ++ " from \""
      ++ SchemaPath.importPath g file.name wellKnown ++ "\";") := by
  obtain ⟨classes, constants, -, -, rfl⟩ := ofFile_eq_ok.mp h
  exact @hasLine_text_of_import _ (.ofDependency file.name wellKnown g)
    (List.mem_map.mpr ⟨g, hg, rfl⟩)

end MessageModule

end RpcStubs
