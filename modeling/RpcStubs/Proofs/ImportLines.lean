/-
# What a module imports

A module opens with comments that name its file and with the imports of other
modules (`GeneratedFile.OpensWith`).  That holds whatever the names are.  A name
with a line break in it can bring a line that looks like one more import; if no
name has one, the imports are all lines of that kind (`Text.importLines`).

No other line begins as an import does: it is indented, or it begins with a word
of its own.
-/
import RpcStubs.Proofs.ModuleLayout
import RpcStubs.Proofs.OneLine

namespace RpcStubs

open Text (OneLine newline_mem_marks)

variable {ix : Index} {file : File} {wellKnown : Table String}

/-! ## Import lines -/

/-- A module of a file opens with comments that name the file, and with the imports of other
modules; what follows is no such import. -/
def GeneratedFile.OpensWith (g : GeneratedFile) (file : File) (imports : List Import) : Prop :=
  ∃ rest, g.content = "// package: " ++ file.package ++ "\n// file: " ++ file.name ++ "\n\n"
      ++ String.join (imports.map fun i => i.line ++ "\n") ++ rest ∧
    ¬ "import * as ".toList <+: rest.toList

/-- Whether a line imports another module. -/
def Text.isImport (line : List Char) : Bool := "import * as ".toList.isPrefixOf line

/-- The lines of a text that import other modules, in order. -/
def Text.importLines (text : String) : List String :=
  ((pieces '\n' text.toList).filter isImport).map String.ofList

theorem Text.isImport_iff {line : List Char} :
    isImport line = true ↔ "import * as ".toList <+: line :=
  List.isPrefixOf_iff_prefix

theorem Text.isImport_cons {c : Char} (h : c ≠ 'i') (cs : List Char) :
    isImport (c :: cs) = false := by
  have hchars : "import * as ".toList = 'i' :: "mport * as ".toList := by decide
  have hc : ('i' == c) = false := beq_false_of_ne h.symm
  rw [isImport, hchars, List.isPrefixOf_cons_cons, hc, Bool.false_and]

namespace Line

def isImport (l : Line) : Bool := Text.isImport l.body

theorem isImport_indented {column : Nat} (h : column ≠ 0) (text : String) :
    (code column text).isImport = false := by
  cases column with
  | zero => exact absurd rfl h
  | succ column => exact Text.isImport_cons (by decide) _

theorem isImport_code (column : Nat) {first rest : String} {c : Char} {cs : List Char}
    (hfirst : first.toList = c :: cs) (hc : c ≠ 'i') :
    (code column (first ++ rest)).isImport = false := by
  cases column with
  | succ column => exact isImport_indented (Nat.succ_ne_zero column) _
  | zero =>
      have hbody : (code 0 (first ++ rest)).body = c :: (cs ++ rest.toList) := by
        simp [body, hfirst]
      rewrite [isImport, hbody]
      exact Text.isImport_cons hc _

theorem isImport_import (i : Import) : (code 0 i.line).isImport = true := by
  have hline : i.line = "import * as " ++ i.token ++ " from \"" ++ i.path ++ "\";" := rfl
  have hbody : (code 0 i.line).body
      = "import * as ".toList ++ (i.token ++ " from \"" ++ i.path ++ "\";").toList := by
    simp only [body, hline, List.replicate_zero, List.nil_append, String.append_assoc,
      String.toList_append]
  rewrite [isImport, Text.isImport_iff, hbody]
  exact List.prefix_append _ _

theorem not_import_of_head {ls : List Line} (h : ∀ l ∈ ls.head?, l.isImport = false) :
    ¬ "import * as ".toList <+: (render ls).toList := by
  have hbreak : '\n' ∉ "import * as ".toList := by decide
  rw [toList_render]
  intro hp
  cases ls with
  | nil => exact absurd (List.prefix_nil.mp hp) (by decide)
  | cons l ls =>
      rw [List.flatMap_cons, chars_eq] at hp
      -- the line ends before the beginning of an import could reach into the next one
      rcases List.prefix_or_prefix_of_prefix hp (List.prefix_append _ _) with hline | hline
      · rcases List.prefix_concat_iff.mp hline with hall | hbody
        · exact hbreak (hall ▸ List.mem_append_right _ (List.mem_singleton_self _))
        · have himport : l.isImport = true := Text.isImport_iff.mpr hbody
          rw [h l rfl] at himport
          cases himport
      · exact hbreak (hline.subset (List.mem_append_right _ (List.mem_singleton_self _)))

theorem filter_isImport_eq_nil {ls : List Line} (h : ∀ l ∈ ls, l.isImport = false) :
    ls.filter isImport = [] := by
  refine List.filter_eq_nil_iff.mpr fun l hl => ?_
  rw [h l hl]
  exact Bool.false_ne_true

theorem filter_isImport_imports (imports : List Import) :
    (imports.map fun i => code 0 i.line).filter isImport = imports.map fun i => code 0 i.line :=
  List.filter_eq_self.mpr (List.forall_mem_map.mpr fun i _ => isImport_import i)

/-- If no line holds a line break, the import lines of a text are found among its lines. -/
theorem importLines_render {ls : List Line} {imports : List Import}
    (h : ∀ l ∈ ls, '\n' ∉ l.body)
    (himports : ls.filter isImport = imports.map fun i => code 0 i.line) :
    Text.importLines (render ls) = imports.map Import.line := by
  have hbody : (fun i : Import => String.ofList (code 0 i.line).body) = Import.line :=
    funext fun i => String.ofList_toList
  have hpieces : Text.importLines (render ls)
      = (ls.filter isImport).map fun l => String.ofList l.body := by
    rw [Text.importLines, pieces_render h, List.filter_append, List.filter_map, List.map_append,
      List.map_map]
    exact List.append_nil _
  rw [hpieces, himports, List.map_map]
  exact congrArg (imports.map ·) hbody

end Line

/-! ## Modules by their lines -/

theorem File.render_headLines (file : File) : Line.render file.headLines
    = "// package: " ++ file.package ++ "\n// file: " ++ file.name ++ "\n\n" := by
  apply String.toList_inj.mp
  simp [headLines, Line.render, Line.chars]

theorem File.isImport_headLines (file : File) : ∀ l ∈ file.headLines, l.isImport = false := by
  simp only [headLines, List.forall_mem_cons]
  exact ⟨Line.isImport_code 0 rfl (by decide), Line.isImport_code 0 rfl (by decide), rfl,
    List.forall_mem_nil _⟩

theorem Import.render_lines (imports : List Import) :
    Line.render (imports.map fun i => .code 0 i.line)
      = String.join (imports.map fun i => i.line ++ "\n") := by
  induction imports with
  | nil => rfl
  | cons i imports ih =>
      rw [List.map_cons, List.map_cons, String.join_cons, ← ih,
        ← List.singleton_append, Line.render_append, Line.render_code, Line.spaces_zero,
        String.empty_append]

theorem GeneratedFile.opensWith_of_lines {g : GeneratedFile} {imports : List Import}
    {rest : List Line}
    (h : g.content = Line.render (file.headLines ++ (imports.map fun i => .code 0 i.line) ++ rest))
    (hrest : ∀ l ∈ rest.head?, l.isImport = false) : g.OpensWith file imports := by
  refine ⟨Line.render rest, ?_, Line.not_import_of_head hrest⟩
  rw [h, Line.render_append, Line.render_append, File.render_headLines, Import.render_lines]

theorem File.importLines_of_lines {ls rest : List Line} {imports : List Import}
    (h : ls = file.headLines ++ (imports.map fun i => .code 0 i.line) ++ rest)
    (hone : ∀ l ∈ ls, '\n' ∉ l.body) (hrest : ∀ l ∈ rest, l.isImport = false) :
    Text.importLines (Line.render ls) = imports.map Import.line := by
  refine Line.importLines_render hone ?_
  rw [h, List.filter_append, List.filter_append, Line.filter_isImport_imports,
    Line.filter_isImport_eq_nil file.isImport_headLines, Line.filter_isImport_eq_nil hrest,
    List.nil_append, List.append_nil]

/-! ## Message modules -/

theorem EnumDecl.isImport_lines (e : EnumDecl) (level : Int) :
    ∀ l ∈ e.lines level, l.isImport = false := by
  simp only [lines, List.cons_append, List.forall_mem_cons, List.forall_mem_append,
    List.forall_mem_map]
  refine ⟨rfl, ?_, fun v _ => Line.isImport_indented (Nat.succ_ne_zero _) _,
    @Line.isImport_code _ "\x7d" "" _ _ rfl (by decide), List.forall_mem_nil _⟩
  rewrite [String.append_assoc]
  exact Line.isImport_code _ rfl (by decide)

theorem ConstantDecl.isImport_lines (c : ConstantDecl) (level : Int) :
    ∀ l ∈ c.lines level, l.isImport = false := by
  rw [lines, List.forall_mem_cons, List.forall_mem_singleton]
  refine ⟨rfl, ?_⟩
  simp only [String.append_assoc]
  exact Line.isImport_code _ rfl (by decide)

mutual

theorem ClassDecl.isImport_lines :
    ∀ (c : ClassDecl) (level : Int), ∀ l ∈ c.lines level, l.isImport = false
  | ⟨name, members, classes, enums, constants⟩ => by
      intro level
      simp only [lines, List.cons_append, List.forall_mem_cons, List.forall_mem_append,
        List.forall_mem_map, List.forall_mem_flatMap]
      refine ⟨?_, ⟨⟨⟨?_, ?_⟩, ?_⟩, ?_⟩, @Line.isImport_code _ "\x7d" "" _ _ rfl (by decide),
        List.forall_mem_nil _⟩
      · rewrite [String.append_assoc]
        exact Line.isImport_code _ rfl (by decide)
      · exact fun m _ => Line.isImport_indented (Nat.succ_ne_zero _) _
      · exact isImport_linesAll classes (level + 1)
      · exact fun e _ => e.isImport_lines (level + 1)
      · exact fun c _ => c.isImport_lines (level + 1)

theorem ClassDecl.isImport_linesAll :
    ∀ (cs : List ClassDecl) (level : Int), ∀ l ∈ linesAll level cs, l.isImport = false
  | [] => by
      intro level
      rw [linesAll]
      exact List.forall_mem_nil _
  | c :: cs => by
      intro level
      rw [linesAll, List.forall_mem_append]
      exact ⟨isImport_lines c level, isImport_linesAll cs level⟩

end

namespace MessageModule

/-- The lines of a message module behind its imports. -/
def declarationLines (m : MessageModule) : List Line :=
  (if m.imports.isEmpty then [] else [.blank])
    ++ m.enums.flatMap (·.lines 0)
    ++ m.classes.flatMap (fun c => .blank :: c.lines 0)
    ++ m.constants.flatMap (·.lines 0)

theorem isImport_declarationLines (m : MessageModule) :
    ∀ l ∈ m.declarationLines, l.isImport = false := by
  simp only [declarationLines, List.forall_mem_append, List.forall_mem_flatMap,
    List.forall_mem_cons]
  refine ⟨⟨⟨?_, fun e _ => e.isImport_lines 0⟩, fun c _ => ⟨rfl, c.isImport_lines 0⟩⟩,
    fun c _ => c.isImport_lines 0⟩
  intro l hl
  split at hl
  · cases hl
  · rw [List.mem_singleton.mp hl]
    rfl

theorem lines_of_ofFile {m : MessageModule} (h : (ofFile ix wellKnown file).result = .ok m) :
    m.lines = file.headLines
      ++ ((file.dependencies.map (.ofDependency file.name wellKnown)).map fun i : Import =>
        .code 0 i.line) ++ m.declarationLines := by
  obtain ⟨classes, constants, -, -, rfl⟩ := ofFile_eq_ok.mp h
  simp only [lines, declarationLines, List.append_assoc]
  rfl

theorem opensWith {m : MessageModule} (h : (ofFile ix wellKnown file).result = .ok m)
    (name : String) :
    GeneratedFile.OpensWith ⟨name, m.text⟩ file
      (file.dependencies.map (.ofDependency file.name wellKnown)) :=
  GeneratedFile.opensWith_of_lines (congrArg Line.render (lines_of_ofFile h))
    fun l hl => m.isImport_declarationLines l (List.mem_of_mem_head? hl)

theorem importLines_text {files : List File} {m : MessageModule}
    (h : (ofFile (Index.ofFiles files) wellKnown file).result = .ok m)
    (hfiles : ∀ g ∈ files, ∀ name ∈ g.names, OneLine name)
    (hfile : ∀ name ∈ file.names, OneLine name)
    (hwell : ∀ path ∈ wellKnown.values, OneLine path) :
    Text.importLines m.text
      = (file.dependencies.map (.ofDependency file.name wellKnown)).map Import.line := by
  have htexts : ∀ t ∈ m.texts, OneLine t :=
    lacks_texts newline_mem_marks
      (fun g hg name hname => hfiles g hg name (List.mem_append_left _ hname))
      (fun name hname => hfile name (List.mem_append_left _ hname)) hwell h
  exact File.importLines_of_lines (lines_of_ofFile h) (oneLine_lines_of_texts htexts)
    m.isImport_declarationLines

end MessageModule

/-! ## Service modules -/

namespace ServiceModule

variable {imports : List Import} {views : List ServiceCalls}

/-- The lines that are the same in all modules and for all services. -/
def fixedLines : List Line :=
  transportImports.map (Line.code 0 ·) ++ envelopeLines ++ clientBaseLines
    ++ [Line.blank, Line.code 0 "\x7d", Line.code 2 "\x7d", Line.code 2 "export class Client \x7b",
      Line.code 4 "static readonly serviceName: string;"]

/-- What holds of the head, of the lines that are always the same and of those for each import,
service and method holds of all lines. -/
theorem forall_mem_moduleLines {P : Line → Prop} (hhead : ∀ l ∈ file.headLines, P l)
    (hfixed : ∀ l ∈ fixedLines, P l) (himports : ∀ i ∈ imports, P (.code 0 i.line))
    (hnames : ∀ v ∈ views, P (.code 0 ("export namespace " ++ v.name ++ " \x7b"))
      ∧ P (.code 2 ("class " ++ v.name ++ " \x7b")))
    (hcalls : ∀ v ∈ views, ∀ c ∈ v.calls,
      ∀ l ∈ c.aliasLines ++ c.staticLine :: (c.unaryLines ++ c.batchLines), P l) :
    ∀ l ∈ file.moduleLines imports views, P l := by
  simp only [fixedLines, List.forall_mem_append, List.forall_mem_cons] at hfixed hcalls
  obtain ⟨⟨⟨htransport, henvelopes⟩, hbase⟩, hblank, hclose, hend, hclient, hname, -⟩ := hfixed
  have htypes : ∀ v ∈ views, ∀ l ∈ v.aliases.flatten ++ v.classLines, P l := by
    intro v hv
    simp only [ServiceCalls.aliases, ServiceCalls.classLines, ServiceCalls.statics,
      ← List.flatMap_def, List.forall_mem_append, List.forall_mem_flatMap, List.forall_mem_cons,
      List.forall_mem_map]
    exact ⟨fun c hc => (hcalls v hv c hc).1, ⟨⟨(hnames v hv).2, hname, List.forall_mem_nil _⟩,
      fun c hc => (hcalls v hv c hc).2.1⟩, hend, hblank, List.forall_mem_nil _⟩
  have hclients : ∀ v ∈ views, ∀ l ∈ v.clientLines, P l := by
    intro v hv
    simp only [ServiceCalls.clientLines, List.cons_append, List.forall_mem_append,
      List.forall_mem_flatMap, List.forall_mem_cons]
    refine ⟨hclient, ⟨hbase, fun c hc => ?_⟩, hend, hblank, List.forall_mem_nil _⟩
    exact (hcalls v hv c (List.mem_of_mem_filter hc)).2.2
  cases views with
  | nil => exact List.forall_mem_append.mpr ⟨hhead, List.forall_mem_nil _⟩
  | cons first rest =>
      have hfirst := (hnames first List.mem_cons_self).1
      simp only [File.moduleLines, List.forall_mem_append, List.forall_mem_cons,
        List.forall_mem_map]
      exact ⟨hhead, ⟨⟨⟨⟨⟨himports, List.forall_mem_map.mp htransport⟩, hblank, hfirst,
        List.forall_mem_nil _⟩, henvelopes⟩, List.forall_mem_flatMap.mpr htypes⟩,
        List.forall_mem_flatMap.mpr hclients⟩, hclose, List.forall_mem_nil _⟩

theorem isImport_moduleLines (file : File) (views : List ServiceCalls) :
    ∀ l ∈ file.moduleLines [] views, l.isImport = false := by
  refine forall_mem_moduleLines file.isImport_headLines (by decide) (List.forall_mem_nil _)
    (fun v _ => ⟨?_, Line.isImport_indented (by decide) _⟩) fun v _ c _ => ?_
  · rewrite [String.append_assoc]
    exact Line.isImport_code 0 rfl (by decide)
  · simp only [Call.aliasLines, Call.staticLine, Call.unaryLines, Call.batchLines,
      List.forall_mem_append, List.forall_mem_cons]
    simp (disch := decide) only [Line.isImport_indented, true_and]
    decide

/-- The imports of a service module stand behind its head, if it has services, and nowhere else. -/
theorem moduleLines_eq (file : File) (imports : List Import) (views : List ServiceCalls) :
    ∃ kept rest, kept ⊆ imports ∧ (∀ l ∈ rest, l.isImport = false) ∧
      file.moduleLines imports views
        = file.headLines ++ (kept.map fun i => .code 0 i.line) ++ rest := by
  cases views with
  | nil =>
      refine ⟨[], [], List.nil_subset _, List.forall_mem_nil _, ?_⟩
      simp only [File.moduleLines, List.map_nil, List.append_nil]
  | cons first rest =>
      -- the rest is the same without imports, and then all of the module
      have hnone := isImport_moduleLines file (first :: rest)
      simp only [File.moduleLines, List.map_nil, List.nil_append] at hnone
      refine ⟨imports, _, List.Subset.refl _, (List.forall_mem_append.mp hnone).2, ?_⟩
      simp only [File.moduleLines, List.append_assoc]

theorem oneLine_fixedLines : ∀ l ∈ fixedLines, '\n' ∉ l.body := by
  have henvelopes : ∀ l ∈ envelopeLines, '\n' ∉ l.body := by
    simp only [envelopeLines, List.forall_mem_cons, Line.body_code_iff]
    simp (disch := decide) only [Text.oneLine_of_bytes, true_and]
    decide
  have hbase : ∀ l ∈ clientBaseLines, '\n' ∉ l.body := by
    simp only [clientBaseLines, List.forall_mem_cons, Line.body_code_iff, Text.oneLine_append]
    simp (disch := decide) only [Text.oneLine_of_bytes, true_and]
    decide
  simp only [fixedLines, transportImports, List.map_cons, List.map_nil, List.forall_mem_append,
    List.forall_mem_cons, Line.body_code_iff]
  simp (disch := decide) only [Text.oneLine_of_bytes, true_and]
  exact ⟨⟨⟨List.forall_mem_nil _, henvelopes⟩, hbase⟩, List.not_mem_nil, List.forall_mem_nil _⟩

theorem oneLine_call {c : Call} (h : ∀ t ∈ c.texts, OneLine t) :
    ∀ l ∈ c.aliasLines ++ c.staticLine :: (c.unaryLines ++ c.batchLines), '\n' ∉ l.body := by
  simp only [Call.texts, List.forall_mem_cons] at h
  obtain ⟨hname, hservice, hstub, hrequest, hresponse, -⟩ := h
  simp only [Call.aliasLines, Call.staticLine, Call.unaryLines, Call.batchLines,
    List.forall_mem_append, List.forall_mem_cons, Line.body_code_iff, Text.oneLine_append, hname,
    hservice, hstub, hrequest, hresponse, and_true, true_and]
  simp (disch := decide) only [Text.oneLine_of_bytes, true_and]
  decide

theorem oneLine_moduleLines (hname : OneLine file.name) (hpackage : OneLine file.package)
    (himports : ∀ i ∈ imports, OneLine i.line) (hviews : ∀ v ∈ views, ∀ t ∈ v.texts, OneLine t) :
    ∀ l ∈ file.moduleLines imports views, '\n' ∉ l.body := by
  refine forall_mem_moduleLines ?_ oneLine_fixedLines (fun i hi => Line.body_code (himports i hi))
    (fun v hv => ?_) fun v hv c hc => ?_
  · simp only [File.headLines, List.forall_mem_cons, Line.body_code_iff, Text.oneLine_append, hname,
      hpackage, and_true]
    decide
  · have hservice := hviews v hv v.name List.mem_cons_self
    simp only [Line.body_code_iff, Text.oneLine_append, hservice, and_true]
    decide
  · exact oneLine_call fun t ht =>
      hviews v hv t (List.mem_cons_of_mem _ (List.mem_flatMap.mpr ⟨c, hc, ht⟩))

/-- A service module opens with imports of its file's own messages and of dependencies.  If names
hold no line breaks, it has no others. -/
theorem imports_text {files : List File} {t : String}
    (h : (text (Index.ofFiles files) wellKnown file).result = .ok t) (name : String) :
    ∃ imports, GeneratedFile.OpensWith ⟨name, t⟩ file imports ∧
      (∀ i ∈ imports, i = .ofHost file.name ∨
        ∃ d ∈ file.dependencies, i = .ofDependency file.name wellKnown d) ∧
      ((∀ g ∈ files, ∀ name ∈ g.names, OneLine name) → (∀ name ∈ file.names, OneLine name) →
        (∀ path ∈ wellKnown.values, OneLine path) →
        Text.importLines t = imports.map Import.line) := by
  obtain ⟨views, hviews⟩ := File.exists_resolvesTo (succeeds_text.mp ⟨t, h⟩)
  obtain rfl : Line.render (file.moduleLines (file.importsOf wellKnown (file.needed views)) views)
      = t := Except.ok.inj ((text_eq_ok hviews).symm.trans h)
  obtain ⟨imports, rest, hsubset, hrest, hlines⟩ :=
    moduleLines_eq file (file.importsOf wellKnown (file.needed views)) views
  refine ⟨imports, ?_, ?_, ?_⟩
  · exact GeneratedFile.opensWith_of_lines (congrArg Line.render hlines)
      fun l hl => hrest l (List.mem_of_mem_head? hl)
  · intro i hi
    rcases List.mem_cons.mp (hsubset hi) with rfl | hi
    · exact .inl rfl
    · obtain ⟨d, hd, rfl⟩ := List.mem_map.mp hi
      exact .inr ⟨d, List.mem_of_mem_filter hd, rfl⟩
  · intro hfiles hfile hwell
    have hschema : ∀ name ∈ file.schemaNames, OneLine name :=
      fun name hname => hfile name (List.mem_append_left _ hname)
    obtain ⟨hname, hpackage, hdependencies, -, -, -⟩ := File.forall_mem_schemaNames.mp hschema
    have hix := Index.namesLack_ofFiles newline_mem_marks
      fun g hg name hname => hfiles g hg name (List.mem_append_left _ hname)
    refine File.importLines_of_lines hlines (oneLine_moduleLines hname hpackage ?_ ?_) hrest
    · rw [File.importsOf, List.forall_mem_cons, List.forall_mem_map]
      refine ⟨Import.lacks_ofHost newline_mem_marks hname, fun d hd => ?_⟩
      exact Import.lacks_ofDependency newline_mem_marks hwell
        (hdependencies d (List.mem_of_mem_filter hd))
    · intro v hv
      obtain ⟨s, hs, hservice⟩ := exists_of_forall₂ hviews.flip hv
      refine Service.ResolvesTo.lacks newline_mem_marks hix hservice fun name hname => ?_
      exact hfile name (List.mem_append_right _ (List.mem_flatMap.mpr ⟨s, hs, hname⟩))

end ServiceModule

end RpcStubs
