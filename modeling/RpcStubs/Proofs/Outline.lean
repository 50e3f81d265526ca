/-
# Reading a text back by the nesting of its blocks

A generated text opens a block with `export class N {` or `export enum N {` and
closes it with `}`, each on a line of its own.  `Text.outline?` reads these
lines and nothing else: it keeps the paths of the blocks that are open, and
gives the path of every block in the order of the opening lines.  A text whose
blocks do not match has no outline.

The reader knows nothing of declarations.  `Contributes` is what connects the
two: a list of lines adds some headings to the outline, whatever is open around
it and whatever follows.  It composes along a list of lines, so each kind of
declaration needs one lemma, and classes an induction on their nesting.

Which lines open and close blocks depends on no property of the names in them:
all other lines end in a semicolon or a comma, or start a comment.  Only the
step from the text back to its lines asks that no line holds a line break.
-/
import RpcStubs.MessageModule
import RpcStubs.Proofs.Pieces

namespace RpcStubs

/-! ## The reader -/

/-- The kinds of blocks. -/
inductive BlockKind where
  | ofClass
  | ofEnum
deriving DecidableEq, Repr

/-- How the opening line of a block starts. -/
def BlockKind.keyword : BlockKind → String
  | .ofClass => "export class "
  | .ofEnum => "export enum "

/-- A block with its dotted path. -/
structure Heading where
  kind : BlockKind
  path : String
deriving DecidableEq, Repr

/-- What a line does to the nesting of blocks. -/
inductive Mark where
  | opens (kind : BlockKind) (name : String)
  | closes
  | other
deriving DecidableEq, Repr

namespace Text

/-- What stands between a beginning and an ending, if the text has both. -/
def between? (opening closing cs : List Char) : Option (List Char) :=
  if opening.isPrefixOf cs then beforeSuffix? closing (cs.drop opening.length) else none

/-- What a line does, wherever it is indented to. -/
def mark (line : List Char) : Mark :=
  let text := line.dropWhile (· == ' ')
  let name? (kind : BlockKind) := between? kind.keyword.toList " \x7b".toList text
  if text = "\x7d".toList then .closes
  else match name? .ofClass, name? .ofEnum with
    | some name, _ => .opens .ofClass (String.ofList name)
    | none, some name => .opens .ofEnum (String.ofList name)
    | none, none => .other

/-- The path of a name inside the innermost of the open blocks. -/
def nest (opened : List String) (name : String) : String :=
  match opened with
  | [] => name
  | path :: _ => path ++ "." ++ name

/-- The headings of the blocks that are opened from here on.  All blocks have to be closed at the
end, the innermost open one first. -/
def outlineFrom (opened : List String) : List Mark → Option (List Heading)
  | [] => if opened = [] then some [] else none
  | .other :: ms => outlineFrom opened ms
  | .opens kind name :: ms =>
    let path := nest opened name
    (outlineFrom (path :: opened) ms).map (⟨kind, path⟩ :: ·)
  | .closes :: ms =>
    match opened with
    | [] => none
    | _ :: outer => outlineFrom outer ms

/-- The headings of a text, in order. -/
def outline? (text : String) : Option (List Heading) :=
  outlineFrom [] ((pieces '\n' text.toList).map mark)

end Text

/-- The paths of the blocks of a kind, in order. -/
def BlockKind.paths (kind : BlockKind) (outline : List Heading) : List String :=
  (outline.filter (·.kind = kind)).map (·.path)

open Text (between? mark nest outlineFrom outline?)

/-! ## Lines of a text -/

namespace Text

theorem between?_eq_some {opening closing cs name : List Char} :
    between? opening closing cs = some name ↔ cs = opening ++ name ++ closing := by
  unfold between?
  constructor
  · intro h
    split at h
    next hp =>
      obtain ⟨a, rfl⟩ := List.isPrefixOf_iff_prefix.mp hp
      rw [List.drop_left, beforeSuffix?_eq_some] at h
      rw [h, List.append_assoc]
    next => cases h
  · rintro rfl
    rw [List.append_assoc, if_pos (List.isPrefixOf_iff_prefix.mpr ⟨_, rfl⟩), List.drop_left,
      beforeSuffix?_eq_some]

/-- A line does something to the nesting only if it is a closing brace or an opening line. -/
theorem mark_eq_other {line : List Char}
    (hclose : line.dropWhile (· == ' ') ≠ "\x7d".toList)
    (hopen : ∀ (kind : BlockKind) (name : List Char),
      line.dropWhile (· == ' ') ≠ kind.keyword.toList ++ name ++ " \x7b".toList) :
    mark line = .other := by
  have hnone : ∀ kind : BlockKind,
      between? kind.keyword.toList " \x7b".toList (line.dropWhile (· == ' ')) = none := by
    intro kind
    refine Option.eq_none_iff_forall_ne_some.mpr fun name h => ?_
    exact hopen kind name (between?_eq_some.mp h)
  simp only [mark, if_neg hclose, hnone]

theorem mark_spaces (n : Nat) (cs : List Char) :
    mark (List.replicate n ' ' ++ cs) = mark cs := by
  have h : (List.replicate n ' ' ++ cs).dropWhile (· == ' ') = cs.dropWhile (· == ' ') := by
    induction n with
    | zero => rfl
    | succ n ih => exact ih
  simp only [mark, h]

theorem mark_of_last {c : Char} (cs : List Char) (hspace : c ≠ ' ') (hopen : c ≠ '\x7b')
    (hclose : c ≠ '\x7d') : mark (cs ++ [c]) = .other := by
  have hlast : ∃ ds, (cs ++ [c]).dropWhile (· == ' ') = ds ++ [c] := by
    rw [List.dropWhile_append]
    split
    next => exact ⟨[], by simp [hspace]⟩
    next => exact ⟨_, rfl⟩
  obtain ⟨ds, hds⟩ := hlast
  refine mark_eq_other ?_ ?_
  · intro h
    have := congrArg List.getLast? (hds.symm.trans h)
    simp [hclose] at this
  · intro kind name h
    have := congrArg List.getLast? (hds.symm.trans h)
    simp [hopen] at this

theorem mark_comment (cs : List Char) : mark ('/' :: cs) = .other := by
  refine mark_eq_other (fun h => ?_) fun kind name h => ?_
  · cases h
  · cases kind <;> cases h

theorem mark_nil : mark [] = .other := rfl

theorem mark_close : mark "\x7d".toList = .closes := rfl

theorem mark_open (kind : BlockKind) (name : String) :
    mark (kind.keyword ++ name ++ " \x7b").toList = .opens kind name := by
  rw [String.toList_append, String.toList_append]
  have hstart : ∀ cs : List Char,
      (kind.keyword.toList ++ cs).dropWhile (· == ' ') = kind.keyword.toList ++ cs := by
    intro cs
    cases kind <;> rfl
  have hclose : kind.keyword.toList ++ name.toList ++ " \x7b".toList ≠ "\x7d".toList := by
    intro h
    cases kind <;> cases h
  have hname := between?_eq_some.mpr
    (Eq.refl (kind.keyword.toList ++ name.toList ++ " \x7b".toList))
  rw [List.append_assoc] at hclose hname ⊢
  simp only [mark, hstart, if_neg hclose]
  cases kind with
  | ofClass => simp only [hname, String.ofList_toList]
  | ofEnum =>
      have hother : between? BlockKind.ofClass.keyword.toList " \x7b".toList
          (BlockKind.ofEnum.keyword.toList ++ (name.toList ++ " \x7b".toList)) = none := by
        refine Option.eq_none_iff_forall_ne_some.mpr fun n h => ?_
        cases between?_eq_some.mp h
      simp only [hname, hother, String.ofList_toList]

end Text

namespace Line

/-- The characters of a line before its end. -/
def body : Line → List Char
  | .blank => []
  | .code column text => List.replicate column ' ' ++ text.toList

/-- What a line does to the nesting of blocks. -/
def mark (l : Line) : Mark := Text.mark l.body

theorem chars_eq (l : Line) : l.chars = l.body ++ ['\n'] := by
  cases l <;> rfl

theorem mark_code (column : Nat) (text : String) :
    (code column text).mark = Text.mark text.toList :=
  Text.mark_spaces column text.toList

/-- Cutting a text at its line breaks gives its lines back, if there are no others. -/
theorem pieces_render {ls : List Line} (h : ∀ l ∈ ls, '\n' ∉ l.body) :
    Text.pieces '\n' (render ls).toList = ls.map body ++ [[]] := by
  rw [toList_render]
  induction ls with
  | nil => rfl
  | cons l ls ih =>
      rw [List.forall_mem_cons] at h
      rw [List.flatMap_cons, chars_eq, List.append_assoc, List.singleton_append,
        Text.pieces_append_separator h.1, ih h.2]
      rfl

end Line

/-! ## What lines add to an outline -/

/-- Lines add headings to an outline when these blocks are open, whatever follows. -/
def Contributes (opened : List String) (ls : List Line) (hs : List Heading) : Prop :=
  ∀ rest : List Mark,
    outlineFrom opened (ls.map Line.mark ++ rest) = (outlineFrom opened rest).map (hs ++ ·)

namespace Contributes

variable {opened : List String} {ls ls₁ ls₂ : List Line} {hs hs₁ hs₂ : List Heading}

theorem nil : Contributes opened [] [] := by
  intro rest
  simp

theorem append (h₁ : Contributes opened ls₁ hs₁) (h₂ : Contributes opened ls₂ hs₂) :
    Contributes opened (ls₁ ++ ls₂) (hs₁ ++ hs₂) := by
  intro rest
  rw [List.map_append, List.append_assoc, h₁, h₂, Option.map_map]
  refine congrArg (fun f => Option.map f _) (funext fun hs => ?_)
  exact (List.append_assoc hs₁ hs₂ hs).symm

theorem cons_other {l : Line} (hl : l.mark = .other) (h : Contributes opened ls hs) :
    Contributes opened (l :: ls) hs := by
  intro rest
  rw [List.map_cons, hl]
  exact h rest

theorem of_forall_other (h : ∀ l ∈ ls, l.mark = .other) : Contributes opened ls [] := by
  induction ls with
  | nil => exact nil
  | cons l ls ih =>
      rw [List.forall_mem_cons] at h
      exact cons_other h.1 (ih h.2)

theorem flatMap {α : Type} {xs : List α} {f : α → List Line} {g : α → List Heading}
    (h : ∀ x ∈ xs, Contributes opened (f x) (g x)) :
    Contributes opened (xs.flatMap f) (xs.flatMap g) := by
  induction xs with
  | nil => exact nil
  | cons x xs ih =>
      rw [List.forall_mem_cons] at h
      rw [List.flatMap_cons, List.flatMap_cons]
      exact h.1.append (ih h.2)

theorem block {first last : Line} {kind : BlockKind} {name : String}
    (hfirst : first.mark = .opens kind name) (hlast : last.mark = .closes)
    (h : Contributes (nest opened name :: opened) ls hs) :
    Contributes opened (first :: ls ++ [last]) (⟨kind, nest opened name⟩ :: hs) := by
  intro rest
  have hinner : outlineFrom (nest opened name :: opened) (.closes :: rest)
      = outlineFrom opened rest := rfl
  rw [List.cons_append, List.map_cons, hfirst, List.map_append, List.map_singleton, hlast,
    List.cons_append, outlineFrom, List.append_assoc, List.singleton_append, h, hinner,
    Option.map_map]
  rfl

/-- What the lines add is the outline of their text, if they stand alone. -/
theorem outline?_render (h : Contributes [] ls hs) (hone : ∀ l ∈ ls, '\n' ∉ l.body) :
    outline? (Line.render ls) = some hs := by
  have hend := h [Text.mark []]
  rw [outline?, Line.pieces_render hone, List.map_append, List.map_map]
  refine hend.trans ?_
  rw [Text.mark_nil]
  exact congrArg some (List.append_nil hs)

end Contributes

/-! ## Declarations -/

section Declarations

variable (opened : List String) (level : Int)

theorem mark_plain_open (kind : BlockKind) (name : String) :
    ((atLevel level).plain (kind.keyword ++ name ++ " \x7b")).mark = .opens kind name :=
  (Line.mark_code _ _).trans (Text.mark_open kind name)

theorem mark_plain_close : ((atLevel level).plain "\x7d").mark = .closes :=
  (Line.mark_code _ _).trans Text.mark_close

theorem mark_code_of_last {column : Nat} {text last : String}
    (h : last = ";" ∨ last = "," ∨ last = "\";") :
    (Line.code column (text ++ last)).mark = .other := by
  rw [Line.mark_code, String.toList_append]
  rcases h with rfl | rfl | rfl
  · exact Text.mark_of_last text.toList (by decide) (by decide) (by decide)
  · exact Text.mark_of_last text.toList (by decide) (by decide) (by decide)
  · rw [show "\";".toList = ['"'] ++ [';'] from rfl, ← List.append_assoc]
    exact Text.mark_of_last (text.toList ++ ['"']) (by decide) (by decide) (by decide)

theorem mark_code_comment {column : Nat} {start text : String} {cs : List Char}
    (h : start.toList = '/' :: cs) : (Line.code column (start ++ text)).mark = .other := by
  rw [Line.mark_code, String.toList_append, h]
  exact Text.mark_comment (cs ++ text.toList)

theorem EnumDecl.contributes (e : EnumDecl) :
    Contributes opened (e.lines level) [⟨.ofEnum, nest opened e.name⟩] := by
  refine .cons_other rfl (.block (mark_plain_open level .ofEnum e.name) (mark_plain_close level) ?_)
  refine .of_forall_other fun l hl => ?_
  obtain ⟨v, -, rfl⟩ := List.mem_map.mp hl
  exact mark_code_of_last (.inr (.inl rfl))

theorem ConstantDecl.contributes (c : ConstantDecl) : Contributes opened (c.lines level) [] :=
  .cons_other rfl (.cons_other (mark_code_of_last (.inl rfl)) .nil)

theorem Member.contributes (members : List Member) :
    Contributes opened (members.map fun m => (atLevel level).inner m.declaration) [] := by
  refine .of_forall_other fun l hl => ?_
  obtain ⟨m, -, rfl⟩ := List.mem_map.mp hl
  exact mark_code_of_last (.inl rfl)

end Declarations

namespace ClassDecl

mutual

/-- The headings of a class and of what is declared in it. -/
def headings (opened : List String) : ClassDecl → List Heading
  | ⟨name, _, classes, enums, _⟩ =>
    let path := nest opened name
    ⟨.ofClass, path⟩ :: headingsAll (path :: opened) classes
      ++ enums.map fun e => ⟨.ofEnum, nest (path :: opened) e.name⟩

/-- The headings of a list of classes. -/
def headingsAll (opened : List String) : List ClassDecl → List Heading
  | [] => []
  | c :: cs => c.headings opened ++ headingsAll opened cs

end

theorem contributes_enums (opened : List String) (level : Int) (enums : List EnumDecl) :
    Contributes opened (enums.flatMap (·.lines level))
      (enums.map fun e => ⟨.ofEnum, nest opened e.name⟩) := by
  rw [List.map_eq_flatMap]
  exact .flatMap fun e _ => e.contributes opened level

theorem contributes_constants (opened : List String) (level : Int)
    (constants : List ConstantDecl) :
    Contributes opened (constants.flatMap (·.lines level)) [] := by
  have h := @Contributes.flatMap opened _ constants (·.lines level) (fun _ => [])
    fun c _ => c.contributes opened level
  rwa [List.flatMap_eq_nil_iff.mpr fun _ _ => rfl] at h

mutual

/-- The lines of a class add its headings.  The blocks in it are read with its own path open. -/
theorem contributes (opened : List String) (level : Int) :
    ∀ c : ClassDecl, Contributes opened (c.lines level) (c.headings opened)
  | ⟨name, members, classes, enums, constants⟩ => by
      rw [lines, headings]
      have hmembers := Member.contributes (nest opened name :: opened) level members
      have hclasses := contributesAll (nest opened name :: opened) (level + 1) classes
      have henums := contributes_enums (nest opened name :: opened) (level + 1) enums
      have hconstants := contributes_constants (nest opened name :: opened) (level + 1) constants
      have hbody := ((hmembers.append hclasses).append henums).append hconstants
      rw [List.nil_append, List.append_nil] at hbody
      exact .block (mark_plain_open level .ofClass name) (mark_plain_close level) hbody

theorem contributesAll (opened : List String) (level : Int) :
    ∀ cs : List ClassDecl, Contributes opened (linesAll level cs) (headingsAll opened cs)
  | [] => by
      rw [linesAll, headingsAll]
      exact .nil
  | c :: cs => by
      rw [linesAll, headingsAll]
      exact (contributes opened level c).append (contributesAll opened level cs)

end

theorem headingsAll_eq_flatMap (opened : List String) (cs : List ClassDecl) :
    headingsAll opened cs = cs.flatMap (headings opened) := by
  induction cs with
  | nil => rw [headingsAll, List.flatMap_nil]
  | cons c cs ih => rw [headingsAll, ih, List.flatMap_cons]

end ClassDecl

namespace MessageModule

/-- The headings of a module. -/
def headings (m : MessageModule) : List Heading :=
  (m.enums.map fun e => ⟨.ofEnum, e.name⟩) ++ ClassDecl.headingsAll [] m.classes

theorem contributes (m : MessageModule) : Contributes [] m.lines m.headings := by
  have hheader : Contributes [] [(atLevel 0).plain ("// package: " ++ m.package),
      (atLevel 0).plain ("// file: " ++ m.file), .blank] [] :=
    .cons_other (mark_code_comment rfl) (.cons_other (mark_code_comment rfl) (.cons_other rfl .nil))
  have himports : Contributes [] (m.imports.map fun i => (atLevel 0).plain i.line) [] := by
    refine .of_forall_other fun l hl => ?_
    obtain ⟨i, -, rfl⟩ := List.mem_map.mp hl
    exact mark_code_of_last (.inr (.inr rfl))
  have hgap : Contributes [] (if m.imports.isEmpty then [] else [.blank]) [] := by
    split
    next => exact .nil
    next => exact .cons_other rfl .nil
  have hclasses : Contributes [] (m.classes.flatMap fun c => .blank :: c.lines 0)
      (ClassDecl.headingsAll [] m.classes) := by
    rw [ClassDecl.headingsAll_eq_flatMap]
    exact .flatMap fun c _ => .cons_other rfl (c.contributes [] 0)
  have h := ((((hheader.append himports).append hgap).append
    (ClassDecl.contributes_enums [] 0 m.enums)).append hclasses).append
    (ClassDecl.contributes_constants [] 0 m.constants)
  simpa [headings, lines, nest] using h

end MessageModule

end RpcStubs
