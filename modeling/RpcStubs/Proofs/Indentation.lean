/-
# Indentation shifts a text and does nothing else

A message is laid out at a level, and what is nested in it one level further in.
The level has no other effect: laying a message out at level `k` is laying it out
at the margin and putting `4 * k` spaces before every line that is not empty.

The shift is defined on texts, by cutting them at their line breaks, and has a
counterpart on lines.  For lines the statement is an induction on the nesting of
classes and needs no hypothesis.  To come back to texts, the cuts have to fall
where the lines end: no line may hold a line break, and only blank lines may be
empty.
-/
import RpcStubs.Proofs.OneLine

namespace RpcStubs

open Text (OneLine pieces)

/-! ## Shifting texts and lines -/

namespace Text

/-- A line moved to the right.  An empty one stays empty. -/
def shiftPiece (columns : Nat) (line : List Char) : List Char :=
  if line = [] then [] else List.replicate columns ' ' ++ line

/-- A text with spaces before every line that is not empty. -/
def shift (columns : Nat) (text : String) : String :=
  String.ofList (['\n'].intercalate ((pieces '\n' text.toList).map (shiftPiece columns)))

end Text

namespace Line

variable {l : Line} {ls : List Line}

/-- A line at a column further to the right.  A blank one stays blank. -/
def shift (columns : Nat) : Line → Line
  | .blank => .blank
  | .code column text => .code (columns + column) text

/-- A line is empty only if it is blank. -/
def Inked (l : Line) : Prop := l.body = [] → l = .blank

/-- A line that can be read back from a text. -/
structure Legible (l : Line) : Prop where
  unbroken : '\n' ∉ l.body
  inked : l.Inked

theorem inked_code {column : Nat} {text : String} (h : text ≠ "") : (code column text).Inked := by
  intro hempty
  exact absurd (String.toList_eq_nil_iff.mp (List.append_eq_nil_iff.mp hempty).2) h

theorem body_shift (h : l.Legible) (columns : Nat) :
    (l.shift columns).body = Text.shiftPiece columns l.body := by
  cases l with
  | blank => rfl
  | code column text =>
      have hne : (code column text).body ≠ [] := by
        intro hempty
        cases h.inked hempty
      rw [Text.shiftPiece, if_neg hne, shift, body, body, ← List.append_assoc,
        List.replicate_append_replicate]

theorem unbroken_shift (h : '\n' ∉ l.body) (columns : Nat) : '\n' ∉ (l.shift columns).body := by
  cases l with
  | blank => exact h
  | code column text => exact body_code fun hn => h (List.mem_append_right _ hn)

theorem render_shift (h : ∀ l ∈ ls, l.Legible) (columns : Nat) :
    render (ls.map (shift columns)) = Text.shift columns (render ls) := by
  have hshifted : ∀ l ∈ ls.map (shift columns), '\n' ∉ l.body := by
    intro shifted hshifted
    obtain ⟨l, hl, rfl⟩ := List.mem_map.mp hshifted
    exact unbroken_shift (h l hl).unbroken columns
  have hbodies : (ls.map (shift columns)).map body
      = (ls.map body).map (Text.shiftPiece columns) := by
    rw [List.map_map, List.map_map]
    exact List.map_congr_left fun l hl => body_shift (h l hl) columns
  apply String.toList_inj.mp
  calc (render (ls.map (shift columns))).toList
      = ['\n'].intercalate (pieces '\n' (render (ls.map (shift columns))).toList) :=
        (Text.intercalate_pieces '\n' _).symm
    _ = ['\n'].intercalate ((ls.map body ++ [[]]).map (Text.shiftPiece columns)) := by
        rw [pieces_render hshifted, hbodies, List.map_append]
        rfl
    _ = (Text.shift columns (render ls)).toList := by
        rw [Text.shift, String.toList_ofList, pieces_render fun l hl => (h l hl).unbroken]

example : Text.shift 4 "a\n\n  b\n" = "    a\n\n      b\n" := by decide

theorem render_level (layout : Int → List Line)
    (hlines : ∀ k : Nat, layout (0 + k) = (layout 0).map (shift (4 * k)))
    (h : ∀ l ∈ layout 0, l.Legible) (k : Nat) :
    render (layout k) = Text.shift (4 * k) (render (layout 0)) := by
  have hk := hlines k
  rw [Int.zero_add] at hk
  rw [hk, render_shift h]

end Line

/-! ## Declarations at a level -/

section Levels

variable {level : Int} (hlevel : 0 ≤ level) (k : Nat)

include hlevel

theorem levelColumn_add : Pen.levelColumn (level + k) = 4 * k + Pen.levelColumn level := by
  unfold Pen.levelColumn
  omega

theorem plain_add (text : String) :
    (atLevel (level + k)).plain text = ((atLevel level).plain text).shift (4 * k) := by
  rw [Pen.plain, Pen.plain, Line.shift, atLevel, atLevel, levelColumn_add hlevel]

theorem inner_add (text : String) :
    (atLevel (level + k)).inner text = ((atLevel level).inner text).shift (4 * k) := by
  rw [Pen.inner, Pen.inner, Line.shift, atLevel, atLevel, levelColumn_add hlevel, Nat.add_assoc]

theorem EnumDecl.lines_add (e : EnumDecl) :
    e.lines (level + k) = (e.lines level).map (Line.shift (4 * k)) := by
  simp only [lines, plain_add hlevel, inner_add hlevel, List.map_cons, List.map_append,
    List.map_map, List.map_nil, List.cons_append]
  rfl

theorem ConstantDecl.lines_add (c : ConstantDecl) :
    c.lines (level + k) = (c.lines level).map (Line.shift (4 * k)) := by
  simp only [lines, plain_add hlevel, List.map_cons, List.map_nil]
  rfl

end Levels

theorem EnumDecl.inked_lines (e : EnumDecl) (level : Int) : ∀ l ∈ e.lines level, l.Inked := by
  intro l hl
  simp only [lines, List.cons_append, List.mem_cons, List.mem_append, List.mem_map,
    List.not_mem_nil, or_false] at hl
  rcases hl with rfl | rfl | ⟨v, -, rfl⟩ | rfl
  · exact fun _ => rfl
  · exact Line.inked_code (by simp)
  · exact Line.inked_code (by simp)
  · exact Line.inked_code (by decide)

theorem ConstantDecl.inked_lines (c : ConstantDecl) (level : Int) :
    ∀ l ∈ c.lines level, l.Inked := by
  rw [lines, List.forall_mem_cons, List.forall_mem_singleton]
  exact ⟨fun _ => rfl, Line.inked_code (by simp)⟩

namespace ClassDecl

mutual

/-- By induction on the nesting.  What is in a class is laid out one level further in, so the level
is not fixed. -/
theorem lines_add (k : Nat) :
    ∀ (level : Int) (c : ClassDecl), 0 ≤ level →
      c.lines (level + k) = (c.lines level).map (Line.shift (4 * k))
  | level, ⟨name, members, classes, enums, constants⟩ => by
      intro hlevel
      have hinner : 0 ≤ level + 1 := by omega
      have hmembers : members.map (fun m => (atLevel (level + k)).inner m.declaration)
          = (members.map fun m => (atLevel level).inner m.declaration).map
              (Line.shift (4 * k)) := by
        rw [List.map_map]
        exact List.map_congr_left fun m _ => inner_add hlevel k m.declaration
      have henums : enums.flatMap (·.lines (level + 1 + k))
          = (enums.flatMap (·.lines (level + 1))).map (Line.shift (4 * k)) := by
        rw [List.map_flatMap]
        exact List.flatMap_congr fun e _ => e.lines_add hinner k
      have hconstants : constants.flatMap (·.lines (level + 1 + k))
          = (constants.flatMap (·.lines (level + 1))).map (Line.shift (4 * k)) := by
        rw [List.map_flatMap]
        exact List.flatMap_congr fun c _ => c.lines_add hinner k
      rw [lines, lines, Int.add_right_comm level k 1, linesAll_add k (level + 1) classes hinner,
        plain_add hlevel, plain_add hlevel, hmembers, henums, hconstants]
      simp only [List.map_append, List.map_cons, List.map_nil]

theorem linesAll_add (k : Nat) :
    ∀ (level : Int) (cs : List ClassDecl), 0 ≤ level →
      linesAll (level + k) cs = (linesAll level cs).map (Line.shift (4 * k))
  | level, [] => by
      intro _
      rw [linesAll, linesAll, List.map_nil]
  | level, c :: cs => by
      intro hlevel
      rw [linesAll, linesAll, lines_add k level c hlevel, linesAll_add k level cs hlevel,
        List.map_append]

end

mutual

theorem inked_lines :
    ∀ (level : Int) (c : ClassDecl), ∀ l ∈ c.lines level, l.Inked
  | level, ⟨name, members, classes, enums, constants⟩ => by
      intro l hl
      simp only [lines, List.cons_append, List.mem_cons, List.mem_append, List.mem_map,
        List.mem_flatMap, List.not_mem_nil, or_false] at hl
      rcases hl with rfl | (((⟨m, -, rfl⟩ | hl) | ⟨e, -, hl⟩) | ⟨c, -, hl⟩) | rfl
      · exact Line.inked_code (by simp)
      · exact Line.inked_code (by simp [Member.declaration])
      · exact inked_linesAll (level + 1) classes l hl
      · exact e.inked_lines (level + 1) l hl
      · exact c.inked_lines (level + 1) l hl
      · exact Line.inked_code (by decide)

theorem inked_linesAll :
    ∀ (level : Int) (cs : List ClassDecl), ∀ l ∈ linesAll level cs, l.Inked
  | level, [] => by
      intro l hl
      rw [linesAll] at hl
      cases hl
  | level, c :: cs => by
      intro l hl
      rw [linesAll] at hl
      rcases List.mem_append.mp hl with hl | hl
      · exact inked_lines level c l hl
      · exact inked_linesAll level cs l hl

end

end ClassDecl

/-! ## Messages at a level -/

theorem EnumDecl.render_lines {e : EnumDecl} (h : ∀ l ∈ e.lines 0, '\n' ∉ l.body) (k : Nat) :
    Line.render (e.lines k) = Text.shift (4 * k) (Line.render (e.lines 0)) :=
  Line.render_level e.lines (e.lines_add (Int.le_refl 0))
    (fun l hl => ⟨h l hl, e.inked_lines 0 l hl⟩) k

theorem ConstantDecl.render_lines {c : ConstantDecl} (h : ∀ l ∈ c.lines 0, '\n' ∉ l.body)
    (k : Nat) :
    Line.render (c.lines k) = Text.shift (4 * k) (Line.render (c.lines 0)) :=
  Line.render_level c.lines (c.lines_add (Int.le_refl 0))
    (fun l hl => ⟨h l hl, c.inked_lines 0 l hl⟩) k

theorem ClassDecl.render_lines (level : Nat) (c : ClassDecl) :
    Line.render (c.lines level) =
      Line.spaces (4 * level) ++ ("export class " ++ c.name ++ " \x7b") ++ "\n"
        ++ String.join (c.members.map fun m =>
            Line.spaces (4 * (level + 1)) ++ m.declaration ++ "\n")
        ++ Line.render (linesAll (level + 1 : Nat) c.classes)
        ++ String.join (c.enums.map fun e => Line.render (e.lines (level + 1 : Nat)))
        ++ String.join (c.constants.map fun x => Line.render (x.lines (level + 1 : Nat)))
        ++ (Line.spaces (4 * level) ++ "\x7d" ++ "\n") := by
  have hmembers : Line.render (c.members.map fun m => (atLevel level).inner m.declaration)
      = String.join (c.members.map fun m =>
          Line.spaces (4 * (level + 1)) ++ m.declaration ++ "\n") := by
    rw [← List.flatMap_singleton' (c.members.map _), Line.render_flatMap, List.map_map]
    exact congrArg String.join (List.map_congr_left fun m _ => Line.render_code _ _)
  have hplain : ∀ text : String, Line.render [(atLevel level).plain text]
      = Line.spaces (4 * level) ++ text ++ "\n" := fun text => Line.render_code _ _
  rw [lines_eq, ← List.singleton_append, Int.natCast_succ]
  simp only [Line.render_append, Line.render_flatMap, hmembers, hplain]

/-! What a message declares besides its nested messages. -/

theorem Enum.render_declare {e : Enum} (h : e.OneLineNames) (k : Nat) :
    Line.render (e.declare.lines k) = Text.shift (4 * k) (Line.render (e.declare.lines 0)) :=
  EnumDecl.render_lines (EnumDecl.oneLine_declare h 0) k

theorem render_oneofCases {name : String} {fields : List Field} (hname : OneLine name)
    (hfields : ∀ f ∈ fields, OneLine f.name) (k : Nat) :
    Line.render ((oneofCases name fields).lines k)
      = Text.shift (4 * k) (Line.render ((oneofCases name fields).lines 0)) :=
  EnumDecl.render_lines (EnumDecl.oneLine_oneofCases hname hfields 0) k

theorem Field.render_extension {ix : Index} {file : File} (hix : ix.OneLineNames) {f : Field}
    (hname : OneLine f.name) {c : ConstantDecl} (h : (f.declareExtension ix file).result = .ok c)
    (k : Nat) : Line.render (c.lines k) = Text.shift (4 * k) (Line.render (c.lines 0)) :=
  ConstantDecl.render_lines (oneLine_constant hix hname h 0) k

namespace Message

variable {ix : Index} {file : File} {m : Message}

theorem result_text (ix : Index) (file : File) (level : Int) (m : Message) :
    (m.text ix file level).result
      = (m.declare ix file).result.map fun c =>
          Line.render (ClassDecl.linesAll level c.toList) := by
  unfold text
  rw [Traced.result_bind]
  cases (m.declare ix file).result <;> rfl

theorem render_linesAll (hix : ix.OneLineNames) (hm : ∀ d, m.Emits d → d.OneLineNames)
    {c : Option ClassDecl} (hc : (m.declare ix file).result = .ok c) (k : Nat) :
    Line.render (ClassDecl.linesAll k c.toList)
      = Text.shift (4 * k) (Line.render (ClassDecl.linesAll 0 c.toList)) := by
  refine Line.render_level (ClassDecl.linesAll · c.toList)
    (fun k => ClassDecl.linesAll_add k 0 c.toList (Int.le_refl 0)) ?_ k
  intro l hl
  exact ⟨oneLine_declare hix m c hm hc 0 l hl, ClassDecl.inked_linesAll 0 c.toList l hl⟩

/-- A level shifts the text of a message, and has no part in whether there is one. -/
theorem result_text_level (hix : ix.OneLineNames) (hm : ∀ d, m.Emits d → d.OneLineNames) (k : Nat) :
    (m.text ix file k).result = (m.text ix file 0).result.map (Text.shift (4 * k)) := by
  rw [result_text, result_text]
  cases hc : (m.declare ix file).result with
  | error e => rfl
  | ok c => exact congrArg Except.ok (render_linesAll hix hm hc k)

theorem exists_texts (hix : ix.OneLineNames) {ms : List Message}
    (hms : ∀ m ∈ ms, ∀ d, m.Emits d → d.OneLineNames) {cs : List ClassDecl}
    (hcs : (declareAll ix file ms).result = .ok cs) (k : Nat) :
    ∃ texts : List String,
      List.Forall₂ (fun m s => (text ix file 0 m).result = .ok s) ms texts ∧
      Line.render (ClassDecl.linesAll k cs) = String.join (texts.map (Text.shift (4 * k))) := by
  induction ms generalizing cs with
  | nil =>
      rw [declareAll] at hcs
      cases hcs
      refine ⟨[], .nil, ?_⟩
      rw [ClassDecl.linesAll]
      rfl
  | cons m ms ih =>
      rw [List.forall_mem_cons] at hms
      rw [declareAll_cons] at hcs
      obtain ⟨c, hc, hcs⟩ := Traced.result_bind_eq_ok.mp hcs
      obtain ⟨rest, hrest, hcs⟩ := Traced.result_bind_eq_ok.mp hcs
      cases hcs
      obtain ⟨texts, htexts, hjoin⟩ := ih hms.2 hrest
      have hm : (text ix file 0 m).result = .ok (Line.render (ClassDecl.linesAll 0 c.toList)) := by
        rw [result_text, hc]
        rfl
      refine ⟨_ :: texts, .cons hm htexts, ?_⟩
      rw [ClassDecl.linesAll_append, Line.render_append, hjoin, List.map_cons, String.join_cons,
        render_linesAll hix hms.1 hc]

/-- A text of a message at a level: its opening line and its members, then the texts that what is
declared in it has at the margin, shifted one level further than the message, and its closing
line. -/
def Encloses (ix : Index) (file : File) (level : Nat) (m : Message) (text : String) : Prop :=
  ∃ (members : List Member) (nested : List String) (groups : List (String × List Field))
      (constants : List ConstantDecl),
    List.Forall₂ (fun f member => (Field.member ix file f).result = .ok member) m.fields members ∧
    List.Forall₂ (fun n s => (Message.text ix file 0 n).result = .ok s) m.nested nested ∧
    m.oneofGroups = .ok groups ∧
    List.Forall₂ (fun f c => (Field.declareExtension ix file f).result = .ok c) m.extensions
      constants ∧
    text = Line.spaces (4 * level) ++ ("export class " ++ m.name ++ " \x7b") ++ "\n"
      ++ String.join (members.map fun member =>
          Line.spaces (4 * (level + 1)) ++ member.declaration ++ "\n")
      ++ String.join ((nested
          ++ m.enums.map (fun e => Line.render (e.declare.lines 0))
          ++ groups.map (fun g => Line.render ((oneofCases g.1 g.2).lines 0))
          ++ constants.map fun c => Line.render (c.lines 0)).map (Text.shift (4 * (level + 1))))
      ++ (Line.spaces (4 * level) ++ "\x7d" ++ "\n")

theorem exists_class_of_text (hentry : m.isMapEntry = false) {level : Int} {text : String}
    (h : (m.text ix file level).result = .ok text) :
    ∃ members classes groups constants,
      (m.fields.mapM (Field.member ix file)).result = .ok members ∧
      (declareAll ix file m.nested).result = .ok classes ∧
      m.oneofGroups = .ok groups ∧
      (m.extensions.mapM (Field.declareExtension ix file)).result = .ok constants ∧
      text = Line.render (ClassDecl.lines level ⟨m.name, members, classes,
        m.enums.map Enum.declare ++ groups.map fun g => oneofCases g.1 g.2, constants⟩) := by
  rw [result_text] at h
  cases hc : (m.declare ix file).result with
  | error e =>
      rw [hc] at h
      cases h
  | ok c =>
      rw [hc] at h
      cases h
      rcases declare_eq_ok.mp hc with ⟨hmap, -⟩ |
        ⟨-, members, classes, groups, constants, hmembers, hclasses, hgroups, hconstants, rfl⟩
      · rw [hentry] at hmap
        cases hmap
      · refine ⟨members, classes, groups, constants, hmembers, hclasses, hgroups, hconstants, ?_⟩
        show Line.render (ClassDecl.linesAll level [_]) = _
        rw [ClassDecl.linesAll, ClassDecl.linesAll, List.append_nil]

theorem encloses_text (hix : ix.OneLineNames) (hm : ∀ d, m.Emits d → d.OneLineNames)
    (hentry : m.isMapEntry = false) {level : Nat} {text : String}
    (h : (m.text ix file level).result = .ok text) : m.Encloses ix file level text := by
  obtain ⟨members, classes, groups, constants, hmembers, hclasses, hgroups, hconstants, rfl⟩ :=
    exists_class_of_text hentry h
  have hself := hm m (.self hentry)
  have hconstants := Traced.result_mapM_eq_ok.mp hconstants
  obtain ⟨nested, hnested, hjoin⟩ :=
    exists_texts hix (fun n hn d hd => hm d (.nested hentry hn hd)) hclasses (level + 1)
  refine ⟨members, nested, groups, constants, Traced.result_mapM_eq_ok.mp hmembers, hnested,
    hgroups, hconstants, ?_⟩
  have henums : m.enums.map (fun e => Line.render (e.declare.lines (level + 1 : Nat)))
      = m.enums.map fun e => Text.shift (4 * (level + 1)) (Line.render (e.declare.lines 0)) :=
    List.map_congr_left fun e he => Enum.render_declare (hself.enums e he) (level + 1)
  have hcases : groups.map (fun g => Line.render ((oneofCases g.1 g.2).lines (level + 1 : Nat)))
      = groups.map fun g =>
          Text.shift (4 * (level + 1)) (Line.render ((oneofCases g.1 g.2).lines 0)) := by
    refine List.map_congr_left fun g hg => ?_
    obtain ⟨hname, hfields⟩ := mem_of_oneofGroups hgroups hg
    exact render_oneofCases (hself.oneofs _ hname) (fun f hf => hself.fields f (hfields f hf)) _
  have hextensions : constants.map (fun c => Line.render (c.lines (level + 1 : Nat)))
      = constants.map fun c => Text.shift (4 * (level + 1)) (Line.render (c.lines 0)) := by
    refine List.map_congr_left fun c hc => ?_
    obtain ⟨f, hf, hc⟩ := exists_of_forall₂ hconstants.flip hc
    exact Field.render_extension hix (hself.extensions f hf) hc _
  rw [ClassDecl.render_lines, hjoin]
  simp only [List.map_append, List.map_map, String.join_append, Function.comp_def, henums, hcases,
    hextensions, String.append_assoc]

/-- If no name holds a line break, laying a message out at a level fails as it does at the margin,
and else shifts the text.  So what is declared in a message stands in its text as it would stand
alone, one level further in than the message. -/
theorem level_shifts_text {ix : Index} {file : File} {m : Message} (hix : ix.OneLineNames)
    (hm : ∀ d, m.Emits d → d.OneLineNames) (level : Nat) :
    (m.text ix file level).result = (m.text ix file 0).result.map (Text.shift (4 * level)) ∧
    (m.isMapEntry = false →
      ∀ text, (m.text ix file level).result = .ok text → m.Encloses ix file level text) :=
  ⟨result_text_level hix hm level, fun hentry _ h => encloses_text hix hm hentry h⟩

end Message

/-! An instance: a nested message with an enum, a map entry beside it, a oneof group and an
extension, with names that are no identifiers. -/

namespace Kiosk

def stand : Message where
  name := "Stand"
  fields := [{ name := "größe", number := 1, kind := .enum, typeName := ".kiosk.Kiosk.Stand.Maß" }]
  enums := [{ name := "Maß", values := [⟨"klein", 0⟩, ⟨"groß", 1⟩] }]

def pricesEntry : Message where
  name := "PricesEntry"
  fields := [{ name := "key", number := 1, kind := .scalar .string },
    { name := "value", number := 2, kind := .scalar .int32 }]
  isMapEntry := true

def message : Message where
  name := "Kiosk"
  fields := [
    { name := "prices", number := 1, kind := .message, label := .repeated,
      typeName := ".kiosk.Kiosk.PricesEntry" },
    { name := "stand", number := 2, kind := .message, typeName := ".kiosk.Kiosk.Stand",
      oneofIndex := some 0 }]
  nested := [stand, pricesEntry]
  oneofs := ["straßen_ecke"]
  extensions := [
    { name := "old stand", number := 7, kind := .message, typeName := ".kiosk.Kiosk.Stand" }]

def schema : File where
  name := "kiosk.proto"
  package := "kiosk"
  messages := [message]

def index : Index := .ofFiles [schema]

end Kiosk

theorem Kiosk.oneLineNames_of_emits : ∀ d, message.Emits d → d.OneLineNames := by
  have hnames : ∀ p ∈ message.named "", p.2.OneLineNames := by decide
  intro d hd
  obtain ⟨full, hfull⟩ := Message.exists_named_of_emits hd ""
  exact hnames _ hfull

theorem Kiosk.exists_text : ∃ text, (message.text index schema 0).result = .ok text := by
  have hok : (message.text index schema 0).result.isOk = true := by decide +kernel
  cases hresult : (message.text index schema 0).result with
  | error e =>
      rw [hresult] at hok
      cases hok
  | ok text => exact ⟨text, rfl⟩

theorem Message.level_shifts_text_kiosk :
    Kiosk.index.OneLineNames ∧ (∀ d, Kiosk.message.Emits d → d.OneLineNames) ∧
    ∃ text : String, (Kiosk.message.text Kiosk.index Kiosk.schema 0).result = .ok text ∧
      (Kiosk.message.text Kiosk.index Kiosk.schema 3).result = .ok (Text.shift 12 text) ∧
      Kiosk.message.Encloses Kiosk.index Kiosk.schema 3 (Text.shift 12 text) := by
  have hix : Kiosk.index.OneLineNames := ⟨by decide, by decide⟩
  obtain ⟨text, htext⟩ := Kiosk.exists_text
  obtain ⟨hshift, hencloses⟩ :=
    @level_shifts_text _ Kiosk.schema _ hix Kiosk.oneLineNames_of_emits 3
  rw [htext] at hshift
  exact ⟨hix, Kiosk.oneLineNames_of_emits, text, htext, hshift, hencloses rfl _ hshift⟩

end RpcStubs
