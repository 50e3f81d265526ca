/-
# Generated modules are well bracketed

A word is balanced if its brackets match: `Balanced` builds such words from the
inside out, and `readBracket` reads any word from left to right with the
brackets that are due.  The two agree (`balanced_iff_read`), and a word may lose
all its other characters on the way (`balanced_filter_iff`).  So for a text it
is enough to look at the brackets in it, line by line.

A name without brackets leaves no trace there.  What is left of a declaration is
the same for all of its kind, and a block is a pair of braces around what stands
in it.  A stub is the exception: its lines open and close brackets across each
other, and only all of them together are balanced.
-/
import RpcStubs.Proofs.Marks
import RpcStubs.Proofs.ModuleLayout

namespace RpcStubs

namespace Text

/-! ## Balanced words -/

/-- The brackets that open, each with the one that closes it. -/
def bracketPairs : List (Char × Char) := [('(', ')'), ('[', ']'), ('\x7b', '\x7d')]

/-- A word whose brackets match: each one that opens is closed by its own, with a balanced word
between the two. -/
inductive Balanced : List Char → Prop
  | nil : Balanced []
  | plain {c : Char} {w : List Char} : c ∉ brackets → Balanced w → Balanced (c :: w)
  | pair {opening closing : Char} {v w : List Char} : (opening, closing) ∈ bracketPairs →
      Balanced v → Balanced w → Balanced (opening :: (v ++ closing :: w))

theorem Balanced.append {v w : List Char} (hv : Balanced v) (hw : Balanced w) :
    Balanced (v ++ w) := by
  induction hv with
  | nil => exact hw
  | plain hc _ ih => exact .plain hc ih
  | pair hpair hinner _ _ ih =>
      rw [List.cons_append, List.append_assoc, List.cons_append]
      exact .pair hpair hinner ih

theorem Balanced.flatMap {α : Type} {f : α → List Char} {xs : List α}
    (h : ∀ x ∈ xs, Balanced (f x)) : Balanced (xs.flatMap f) := by
  induction xs with
  | nil => exact .nil
  | cons x xs ih =>
      rw [List.forall_mem_cons] at h
      exact h.1.append (ih h.2)

theorem Balanced.braced {w : List Char} (h : Balanced w) : Balanced ('\x7b' :: (w ++ ['\x7d'])) :=
  .pair (by decide) h .nil

/-! ## Reading brackets from left to right -/

/-- One more character is read, where `due` are the brackets that must still close, the next one
first.  A bracket that closes something else cannot be read. -/
def readBracket (due : List Char) (c : Char) : Option (List Char) :=
  match bracketPairs.lookup c with
  | some closing => some (closing :: due)
  | none =>
    if c ∈ brackets then
      match due with
      | [] => none
      | next :: rest => if next = c then some rest else none
    else some due

/-- The brackets that are due after a word, if it can be read. -/
def readBrackets (due w : List Char) : Option (List Char) := w.foldlM readBracket due

variable {due after : List Char} {c : Char}

theorem readBracket_plain (hc : c ∉ brackets) (due : List Char) : readBracket due c = some due := by
  have hlookup : bracketPairs.lookup c = none := by
    refine List.lookup_eq_none_iff.mpr fun p hp => ?_
    have hopens : ∀ p ∈ bracketPairs, p.1 ∈ brackets := List.all_iff_forall_prop.mp (by decide)
    exact bne_iff_ne.mpr fun heq => hc (heq ▸ hopens p hp)
  unfold readBracket
  rw [hlookup]
  exact if_neg hc

theorem readBracket_pair {opening closing : Char} (h : (opening, closing) ∈ bracketPairs)
    (due : List Char) : readBracket due opening = some (closing :: due) ∧
      readBracket (closing :: due) closing = some due := by
  simp only [bracketPairs, List.mem_cons, Prod.mk.injEq, List.not_mem_nil, or_false] at h
  rcases h with ⟨rfl, rfl⟩ | ⟨rfl, rfl⟩ | ⟨rfl, rfl⟩ <;> exact ⟨rfl, rfl⟩

theorem readBracket_cases (h : readBracket due c = some after) :
    (c ∉ brackets ∧ after = due) ∨
      (∃ closing, (c, closing) ∈ bracketPairs ∧ after = closing :: due) ∨
      due = c :: after := by
  unfold readBracket at h
  split at h
  next closing hlookup =>
    obtain ⟨before, rest, hpairs, -⟩ := List.lookup_eq_some_iff.mp hlookup
    refine .inr (.inl ⟨closing, ?_, (Option.some.inj h).symm⟩)
    rw [hpairs]
    simp
  next =>
    split at h
    next =>
      split at h
      next => cases h
      next next rest =>
        split at h
        next heq =>
          subst heq
          exact .inr (.inr (by rw [Option.some.inj h]))
        next => cases h
    next hc => exact .inl ⟨hc, (Option.some.inj h).symm⟩

theorem readBrackets_append (due v w : List Char) :
    readBrackets due (v ++ w) = readBrackets due v >>= fun after => readBrackets after w :=
  List.foldlM_append

theorem readBrackets_cons (due w : List Char) (c : Char) :
    readBrackets due (c :: w) = readBracket due c >>= fun after => readBrackets after w :=
  List.foldlM_cons

theorem Balanced.readBrackets_eq {w : List Char} (h : Balanced w) :
    ∀ due, readBrackets due w = some due := by
  induction h with
  | nil => exact fun due => rfl
  | plain hc _ ih =>
      intro due
      rw [readBrackets_cons, readBracket_plain hc]
      exact ih due
  | @pair opening closing v w hpair _ _ ihv ihw =>
      intro due
      obtain ⟨hopen, hclose⟩ := readBracket_pair hpair due
      rw [readBrackets_cons, hopen]
      show readBrackets (closing :: due) (v ++ closing :: w) = some due
      rw [readBrackets_append, ihv]
      show readBrackets (closing :: due) (closing :: w) = some due
      rw [readBrackets_cons, hclose]
      exact ihw due

/-- A word that closes what is due: a balanced word before each bracket that is due, and one at the
end. -/
inductive Closes : List Char → List Char → Prop
  | done {w : List Char} : Balanced w → Closes [] w
  | next {c : Char} {due v w : List Char} :
      Balanced v → Closes due w → Closes (c :: due) (v ++ c :: w)

theorem Closes.prepend {v w : List Char} (hv : Balanced v) (hw : Closes due w) :
    Closes due (v ++ w) := by
  cases hw with
  | done hw => exact .done (hv.append hw)
  | next hinner hrest =>
      rw [← List.append_assoc]
      exact .next (hv.append hinner) hrest

theorem closes_of_readBrackets {w : List Char} (h : readBrackets due w = some []) :
    Closes due w := by
  induction w generalizing due with
  | nil =>
      cases h
      exact .done .nil
  | cons c w ih =>
      rw [readBrackets_cons] at h
      obtain ⟨after, hstep, hrest⟩ := Option.bind_eq_some_iff.mp h
      rcases readBracket_cases hstep with ⟨hc, rfl⟩ | ⟨closing, hpair, rfl⟩ | rfl
      · exact (ih hrest).prepend (.plain hc .nil)
      · cases ih hrest with
        | @next _ _ v w hinner hafter =>
            have hblock : Balanced (c :: (v ++ [closing])) := .pair hpair hinner .nil
            have hall := hafter.prepend hblock
            rwa [List.cons_append, List.append_assoc, List.singleton_append] at hall
      · exact .next .nil (ih hrest)

/-- A word is balanced exactly if it can be read with nothing due, and leaves nothing due. -/
theorem balanced_iff_read {w : List Char} : Balanced w ↔ readBrackets [] w = some [] := by
  refine ⟨fun h => h.readBrackets_eq [], fun h => ?_⟩
  cases closes_of_readBrackets h with
  | done hw => exact hw

instance (w : List Char) : Decidable (Balanced w) := decidable_of_iff _ balanced_iff_read.symm

theorem readBrackets_filter (due w : List Char) :
    readBrackets due (w.filter (· ∈ brackets)) = readBrackets due w := by
  induction w generalizing due with
  | nil => rfl
  | cons c w ih =>
      by_cases hc : c ∈ brackets
      · rw [List.filter_cons_of_pos (by simpa using hc), readBrackets_cons, readBrackets_cons]
        exact congrArg _ (funext ih)
      · rw [List.filter_cons_of_neg (by simpa using hc), readBrackets_cons, readBracket_plain hc,
          ih]
        rfl

theorem balanced_filter_iff {w : List Char} : Balanced (w.filter (· ∈ brackets)) ↔ Balanced w := by
  rw [balanced_iff_read, readBrackets_filter, balanced_iff_read]

/-! ## The brackets in a text -/

/-- The brackets in a text, from left to right. -/
def bracketsIn (s : String) : List Char := s.toList.filter (· ∈ brackets)

/-- A text without brackets. -/
def BracketFree (s : String) : Prop := ∀ x ∈ brackets, Lacks x s

instance (s : String) : Decidable (BracketFree s) :=
  decidable_of_iff ((brackets.all fun x => Lacks x s) = true) List.all_iff_forall_prop

theorem bracketsIn_append (s t : String) : bracketsIn (s ++ t) = bracketsIn s ++ bracketsIn t := by
  rw [bracketsIn, String.toList_append, List.filter_append]
  rfl

theorem BracketFree.bracketsIn_eq {s : String} (h : BracketFree s) : bracketsIn s = [] :=
  List.filter_eq_nil_iff.mpr fun c hc hbracket => h c (of_decide_eq_true hbracket) hc

theorem brackets_subset_marks : brackets ⊆ marks := List.subset_cons_self _ _

/-! The brackets of a literal are found among its bytes.  A text holds these as they are, whereas
its characters would have to be decoded, with more work for each the further behind it stands. -/

/-- The bracket that a byte stands for. -/
def bracketOfByte? (b : UInt8) : Option Char := brackets.find? (·.toNat == b.toNat)

theorem le_of_mem_utf8EncodeChar {c : Char} (hc : 128 ≤ c.toNat) :
    ∀ b ∈ String.utf8EncodeChar c, 128 ≤ b.toNat := by
  have hwide : ¬ c.val.toNat ≤ 127 := Nat.not_le.mpr hc
  intro b hb
  unfold String.utf8EncodeChar at hb
  simp only [if_neg hwide] at hb
  -- two, three or four bytes
  split at hb
  next =>
    simp only [List.mem_cons, List.not_mem_nil, or_false] at hb
    rcases hb with rfl | rfl <;> rw [UInt8.toNat_ofNat'] <;> omega
  next =>
    split at hb
    next =>
      simp only [List.mem_cons, List.not_mem_nil, or_false] at hb
      rcases hb with rfl | rfl | rfl <;> rw [UInt8.toNat_ofNat'] <;> omega
    next =>
      simp only [List.mem_cons, List.not_mem_nil, or_false] at hb
      rcases hb with rfl | rfl | rfl | rfl <;> rw [UInt8.toNat_ofNat'] <;> omega

/-- A bracket is one byte, and no byte of another character looks like one. -/
theorem filterMap_utf8EncodeChar (c : Char) :
    (String.utf8EncodeChar c).filterMap bracketOfByte? = [c].filter (· ∈ brackets) := by
  by_cases hascii : c.toNat < 128
  · have htried : ∀ n : Fin 128, (String.utf8EncodeChar (Char.ofNat n)).filterMap bracketOfByte?
        = [Char.ofNat n].filter (· ∈ brackets) := by decide
    have hc := htried ⟨c.toNat, hascii⟩
    rwa [Char.ofNat_toNat] at hc
  · have hsmall : ∀ y ∈ brackets, y.toNat < 128 := List.all_iff_forall_prop.mp (by decide)
    have hc : c ∉ brackets := fun hc => hascii (hsmall c hc)
    rw [List.filter_cons_of_neg (by simpa using hc), List.filter_nil, List.filterMap_eq_nil_iff]
    intro b hb
    refine List.find?_eq_none.mpr fun y hy => ?_
    have hlarge := le_of_mem_utf8EncodeChar (Nat.not_lt.mp hascii) b hb
    have hcode := hsmall y hy
    rw [beq_iff_eq]
    omega

theorem bracketsIn_eq_bytes (s : String) :
    bracketsIn s = s.toByteArray.data.toList.filterMap bracketOfByte? := by
  rw [toList_bytes, bracketsIn, List.filterMap_flatMap]
  simp only [filterMap_utf8EncodeChar]
  induction s.toList with
  | nil => rfl
  | cons c cs ih => rw [List.flatMap_cons, ← ih, ← List.filter_append, List.singleton_append]

end Text

open Text (Balanced BracketFree Lacks bracketsIn bracketsIn_append bracketsIn_eq_bytes
  brackets_subset_marks)

namespace Line

/-- The brackets in a list of lines. -/
def brackets (lines : List Line) : List Char :=
  lines.flatMap fun
    | .blank => []
    | .code _ text => bracketsIn text

theorem brackets_nil : brackets [] = [] := by
  rw [brackets, List.flatMap_nil]

theorem brackets_blank (lines : List Line) : brackets (.blank :: lines) = brackets lines := by
  rw [brackets, List.flatMap_cons, ← brackets, List.nil_append]

theorem brackets_code (column : Nat) (text : String) (lines : List Line) :
    brackets (.code column text :: lines) = bracketsIn text ++ brackets lines := by
  rw [brackets, List.flatMap_cons, ← brackets]

theorem brackets_append (ls ms : List Line) : brackets (ls ++ ms) = brackets ls ++ brackets ms := by
  rw [brackets, List.flatMap_append, ← brackets, ← brackets]

theorem brackets_flatMap {α : Type} (xs : List α) (f : α → List Line) :
    brackets (xs.flatMap f) = xs.flatMap fun a => brackets (f a) :=
  List.flatMap_assoc

theorem brackets_map_eq_nil {α : Type} {xs : List α} {f : α → String} (column : Nat)
    (h : ∀ a ∈ xs, bracketsIn (f a) = []) :
    brackets (xs.map fun a => .code column (f a)) = [] := by
  induction xs with
  | nil => rfl
  | cons a xs ih =>
      rw [List.forall_mem_cons] at h
      rw [List.map_cons, brackets_code, h.1, ih h.2, List.nil_append]

theorem filter_chars (lines : List Line) :
    (lines.flatMap chars).filter (· ∈ Text.brackets) = brackets lines := by
  induction lines with
  | nil => rfl
  | cons l lines ih =>
      rw [List.flatMap_cons, List.filter_append, ih]
      cases l with
      | blank => rfl
      | code column text =>
          have hspaces : (List.replicate column ' ').filter (· ∈ Text.brackets) = [] :=
            List.filter_eq_nil_iff.mpr fun c hc => by
              rw [List.eq_of_mem_replicate hc]
              decide
          have hbreak : ['\n'].filter (· ∈ Text.brackets) = [] := rfl
          rw [chars, List.filter_append, List.filter_append, hspaces, hbreak, List.nil_append,
            List.append_nil]
          rfl

theorem balanced_render {lines : List Line} :
    Balanced (render lines).toList ↔ Balanced (brackets lines) := by
  rw [toList_render, ← Text.balanced_filter_iff, filter_chars]

end Line

/-! ## Message modules -/

namespace EnumDecl

theorem brackets_lines {e : EnumDecl} (h : ∀ t ∈ e.texts, BracketFree t) (level : Int) :
    Line.brackets (e.lines level) = ['\x7b', '\x7d'] := by
  rw [texts, List.forall_mem_cons, List.forall_mem_map] at h
  have hvalues : ∀ v ∈ e.values, bracketsIn (v.1 ++ " = " ++ toString v.2 ++ ",") = [] := by
    intro v hv
    have hnumber : BracketFree (toString v.2) :=
      fun x hx => Text.lacks_toString (brackets_subset_marks hx) v.2
    simp only [bracketsIn_append, (h.2 v hv).bracketsIn_eq, hnumber.bracketsIn_eq]
    rfl
  simp only [lines, Pen.plain, Pen.inner, List.cons_append, Line.brackets_blank, Line.brackets_code,
    Line.brackets_append, Line.brackets_nil, Line.brackets_map_eq_nil _ hvalues, bracketsIn_append,
    h.1.bracketsIn_eq]
  rfl

end EnumDecl

theorem ConstantDecl.brackets_lines {c : ConstantDecl} (h : ∀ t ∈ c.texts, BracketFree t)
    (level : Int) : Line.brackets (c.lines level) = [] := by
  rw [texts, List.forall_mem_cons, List.forall_mem_singleton] at h
  simp only [lines, Pen.plain, Line.brackets_blank, Line.brackets_code, Line.brackets_nil,
    bracketsIn_append, h.1.bracketsIn_eq, h.2.bracketsIn_eq]
  rfl

section Declarations

open Line

theorem balanced_enums {enums : List EnumDecl} (h : ∀ e ∈ enums, ∀ t ∈ e.texts, BracketFree t)
    (level : Int) : Balanced (brackets (enums.flatMap (·.lines level))) := by
  rw [brackets_flatMap]
  refine .flatMap fun e he => ?_
  rw [EnumDecl.brackets_lines (h e he)]
  exact .braced .nil

theorem balanced_constants {constants : List ConstantDecl}
    (h : ∀ c ∈ constants, ∀ t ∈ c.texts, BracketFree t) (level : Int) :
    Balanced (brackets (constants.flatMap (·.lines level))) := by
  rw [brackets_flatMap]
  refine .flatMap fun c hc => ?_
  rw [ConstantDecl.brackets_lines (h c hc)]
  exact .nil

mutual

/-- By induction on the nesting of classes: a class is a pair of braces around what is in it. -/
theorem ClassDecl.balanced_lines :
    ∀ c : ClassDecl, (∀ t ∈ c.texts, BracketFree t) →
      ∀ level : Int, Balanced (brackets (c.lines level))
  | ⟨name, members, classes, enums, constants⟩ => by
      simp only [texts, List.forall_mem_cons, List.forall_mem_append, List.forall_mem_map,
        List.forall_mem_flatMap]
      rintro ⟨hname, ⟨⟨hmembers, hclasses⟩, henums⟩, hconstants⟩ level
      have hdeclarations := brackets_map_eq_nil (Pen.levelColumn (atLevel level).level + 4)
        fun m hm => (hmembers m hm).bracketsIn_eq
      have hopening : bracketsIn ("export class " ++ name ++ " \x7b") = ['\x7b'] := by
        simp only [bracketsIn_append, hname.bracketsIn_eq]
        rfl
      have hclosing : bracketsIn "\x7d" = ['\x7d'] := rfl
      have hinner := ((balanced_linesAll classes hclasses (level + 1)).append
        (balanced_enums henums (level + 1))).append (balanced_constants hconstants (level + 1))
      simp only [lines, Pen.plain, Pen.inner, List.cons_append, brackets_code, brackets_append,
        brackets_nil, hdeclarations, hopening, hclosing, List.nil_append, List.append_nil]
      exact hinner.braced

theorem ClassDecl.balanced_linesAll :
    ∀ cs : List ClassDecl, (∀ t ∈ textsAll cs, BracketFree t) →
      ∀ level : Int, Balanced (brackets (linesAll level cs))
  | [] => by
      intro _ level
      rw [linesAll]
      exact .nil
  | c :: cs => by
      rw [textsAll, List.forall_mem_append]
      rintro ⟨hc, hcs⟩ level
      rw [linesAll, brackets_append]
      exact (balanced_lines c hc level).append (balanced_linesAll cs hcs level)

end

theorem MessageModule.balanced_lines {m : MessageModule} (h : ∀ t ∈ m.texts, BracketFree t) :
    Balanced (brackets m.lines) := by
  simp only [texts, ClassDecl.textsAll_eq, List.forall_mem_cons, List.forall_mem_append,
    List.forall_mem_map, List.forall_mem_flatMap] at h
  obtain ⟨hpackage, hfile, ⟨⟨himports, henums⟩, hclasses⟩, hconstants⟩ := h
  have hcomments :
      bracketsIn ("// package: " ++ m.package) ++ bracketsIn ("// file: " ++ m.file) = [] := by
    simp only [bracketsIn_append, hpackage.bracketsIn_eq, hfile.bracketsIn_eq]
    rfl
  have hlines := brackets_map_eq_nil (Pen.levelColumn (atLevel 0).level)
    fun i hi => (himports i hi).bracketsIn_eq
  have hgap : brackets (if m.imports.isEmpty then [] else [.blank]) = [] := by
    split <;> rfl
  have hblocks : Balanced (brackets (m.classes.flatMap fun c => .blank :: c.lines 0)) := by
    rw [brackets_flatMap]
    exact .flatMap fun c hc => ClassDecl.balanced_lines c (hclasses c hc) 0
  simp only [lines, Pen.plain, brackets_append, brackets_code, brackets_blank, brackets_nil,
    List.append_nil, hcomments, hlines, hgap, List.nil_append]
  exact ((balanced_enums henums 0).append hblocks).append (balanced_constants hconstants 0)

end Declarations

/-! ## Service modules -/

section Services

open Line

namespace Call

variable {c : Call} (h : ∀ t ∈ c.texts, BracketFree t)
include h

theorem bracketsIn_texts :
    bracketsIn c.name = [] ∧ bracketsIn c.service = [] ∧ bracketsIn c.stub = [] ∧
      bracketsIn c.request.text = [] ∧ bracketsIn c.response.text = [] := by
  have hnil : ∀ t ∈ c.texts, bracketsIn t = [] := fun t ht => (h t ht).bracketsIn_eq
  simpa only [texts, List.forall_mem_cons, List.not_mem_nil, false_imp_iff, implies_true, and_true]
    using hnil

theorem balanced_aliasLines : Balanced (brackets c.aliasLines) := by
  obtain ⟨hname, hservice, -, hrequest, hresponse⟩ := bracketsIn_texts h
  simp only [aliasLines, brackets_code, brackets_blank, brackets_nil, bracketsIn_append, hname,
    hservice, hrequest, hresponse]
  simp only [bracketsIn_eq_bytes]
  decide

theorem bracketsIn_static :
    bracketsIn ("static readonly " ++ c.name ++ ": " ++ (c.service ++ c.name) ++ ";") = [] := by
  obtain ⟨hname, hservice, -, -, -⟩ := bracketsIn_texts h
  simp only [bracketsIn_append, hname, hservice]
  rfl

/-- The parameters of a stub are closed on the line that opens its body. -/
theorem balanced_unaryLines : Balanced (brackets c.unaryLines) := by
  obtain ⟨hname, hservice, hstub, hrequest, hresponse⟩ := bracketsIn_texts h
  simp only [unaryLines, brackets_code, brackets_blank, brackets_nil, bracketsIn_append, hname,
    hservice, hstub, hrequest, hresponse]
  simp only [bracketsIn_eq_bytes]
  decide

theorem balanced_batchLines : Balanced (brackets c.batchLines) := by
  obtain ⟨hname, hservice, hstub, hrequest, hresponse⟩ := bracketsIn_texts h
  simp only [batchLines, brackets_code, brackets_blank, brackets_nil, bracketsIn_append, hname,
    hservice, hstub, hrequest, hresponse]
  simp only [bracketsIn_eq_bytes]
  decide

end Call

theorem balanced_clientBaseLines : Balanced (brackets clientBaseLines) := by
  simp only [clientBaseLines, brackets_code, brackets_blank, brackets_nil, bracketsIn_append]
  simp only [bracketsIn_eq_bytes]
  decide +kernel

theorem balanced_envelopeLines : Balanced (brackets envelopeLines) := by
  simp only [envelopeLines, brackets_code, brackets_blank, brackets_nil, bracketsIn_eq_bytes]
  decide

theorem balanced_transportImports :
    Balanced (brackets (ServiceModule.transportImports.map (.code 0 ·))) := by
  simp only [ServiceModule.transportImports, List.map_cons, List.map_nil, brackets_code,
    brackets_nil, bracketsIn_eq_bytes]
  decide

namespace ServiceCalls

variable {v : ServiceCalls} (h : ∀ t ∈ v.texts, BracketFree t)
include h

theorem balanced_typeLines : Balanced (brackets (v.aliases.flatten ++ v.classLines)) := by
  rw [texts, List.forall_mem_cons, List.forall_mem_flatMap] at h
  have haliases : Balanced (brackets v.aliases.flatten) := by
    rw [aliases, ← List.flatMap_def, brackets_flatMap]
    exact .flatMap fun c hc => Call.balanced_aliasLines (h.2 c hc)
  have hstatics : brackets v.statics = [] :=
    brackets_map_eq_nil 4 fun c hc => Call.bracketsIn_static (h.2 c hc)
  have hopening : bracketsIn ("class " ++ v.name ++ " \x7b") = ['\x7b'] := by
    simp only [bracketsIn_append, h.1.bracketsIn_eq]
    rfl
  rw [brackets_append]
  refine haliases.append ?_
  simp only [classLines, List.cons_append, List.nil_append, brackets_code, brackets_append,
    brackets_blank, brackets_nil, hopening, hstatics]
  decide

theorem balanced_clientLines : Balanced (brackets v.clientLines) := by
  rw [texts, List.forall_mem_cons, List.forall_mem_flatMap] at h
  have hstubs : Balanced (brackets
      ((v.calls.filter (·.isUnary)).flatMap fun c => c.unaryLines ++ c.batchLines)) := by
    rw [brackets_flatMap]
    refine .flatMap fun c hc => ?_
    have hcall := h.2 c (List.mem_of_mem_filter hc)
    rw [brackets_append]
    exact (Call.balanced_unaryLines hcall).append (Call.balanced_batchLines hcall)
  have hopening : bracketsIn "export class Client \x7b" = ['\x7b'] := rfl
  have hclosing : bracketsIn "\x7d" = ['\x7d'] := rfl
  simp only [clientLines, List.cons_append, brackets_code, brackets_append, brackets_blank,
    brackets_nil, hopening, hclosing, List.append_nil, List.nil_append]
  exact (balanced_clientBaseLines.append hstubs).braced

end ServiceCalls

theorem File.balanced_moduleLines {file : File} {imports : List Import} {views : List ServiceCalls}
    (hname : BracketFree file.name) (hpackage : BracketFree file.package)
    (himports : ∀ i ∈ imports, BracketFree i.line)
    (hviews : ∀ v ∈ views, ∀ t ∈ v.texts, BracketFree t) :
    Balanced (brackets (file.moduleLines imports views)) := by
  have hhead : brackets file.headLines = [] := by
    simp only [headLines, brackets_code, brackets_blank, brackets_nil, bracketsIn_append,
      hname.bracketsIn_eq, hpackage.bracketsIn_eq]
    rfl
  unfold moduleLines
  rw [brackets_append, hhead, List.nil_append]
  cases views with
  | nil => exact .nil
  | cons first rest =>
      have hlines := brackets_map_eq_nil 0 fun i hi => (himports i hi).bracketsIn_eq
      have hfirst := hviews first List.mem_cons_self first.name List.mem_cons_self
      have hopening : bracketsIn ("export namespace " ++ first.name ++ " \x7b") = ['\x7b'] := by
        simp only [bracketsIn_append, hfirst.bracketsIn_eq]
        rfl
      have hclosing : bracketsIn "\x7d" = ['\x7d'] := rfl
      have htypes : Balanced
          (brackets ((first :: rest).flatMap fun v => v.aliases.flatten ++ v.classLines)) := by
        rw [brackets_flatMap]
        exact .flatMap fun v hv => ServiceCalls.balanced_typeLines (hviews v hv)
      have hclients : Balanced (brackets ((first :: rest).flatMap ServiceCalls.clientLines)) := by
        rw [brackets_flatMap]
        exact .flatMap fun v hv => ServiceCalls.balanced_clientLines (hviews v hv)
      have hinner := (balanced_envelopeLines.append htypes).append hclients
      simp only [brackets_append, brackets_code, brackets_blank, brackets_nil, hlines, hopening,
        hclosing, List.nil_append, List.append_nil, List.append_assoc, List.cons_append] at hinner ⊢
      refine balanced_transportImports.append ?_
      have hbraced := hinner.braced
      simpa only [List.append_assoc] using hbraced

end Services

/-! ## Texts -/

section Modules

variable {files : List File} {file : File} {wellKnown : Table String}
  (hfiles : ∀ g ∈ files, ∀ name ∈ g.names, BracketFree name)
  (hfile : ∀ name ∈ file.names, BracketFree name)
  (hwell : ∀ path ∈ wellKnown.values, BracketFree path)

theorem File.lacks_of_bracketFree {g : File} (h : ∀ name ∈ g.names, BracketFree name) {x : Char}
    (hx : x ∈ Text.brackets) :
    (∀ name ∈ g.schemaNames, Lacks x name) ∧ ∀ s ∈ g.services, ∀ name ∈ s.names, Lacks x name := by
  rw [names, List.forall_mem_append, List.forall_mem_flatMap] at h
  exact ⟨fun name hname => h.1 name hname x hx, fun s hs name hname => h.2 s hs name hname x hx⟩

include hfiles hfile hwell

theorem MessageModule.balanced_text {m : MessageModule}
    (h : (ofFile (Index.ofFiles files) wellKnown file).result = .ok m) :
    Balanced m.text.toList := by
  refine Line.balanced_render.mpr (balanced_lines fun t ht x hx => ?_)
  exact lacks_texts (brackets_subset_marks hx)
    (fun g hg => (File.lacks_of_bracketFree (hfiles g hg) hx).1)
    (File.lacks_of_bracketFree hfile hx).1 (fun path hpath => hwell path hpath x hx) h t ht

theorem ServiceModule.balanced_text {text : String}
    (h : (ServiceModule.text (Index.ofFiles files) wellKnown file).result = .ok text) :
    Balanced text.toList := by
  obtain ⟨views, hviews⟩ := File.exists_resolvesTo (succeeds_text.mp ⟨text, h⟩)
  obtain rfl :
      Line.render (file.moduleLines (file.importsOf wellKnown (file.needed views)) views) = text :=
    Except.ok.inj ((text_eq_ok hviews).symm.trans h)
  have hnames : ∀ name ∈ file.schemaNames, BracketFree name :=
    fun name hname => hfile name (List.mem_append_left _ hname)
  obtain ⟨hname, hpackage, hdependencies, -, -, -⟩ := File.forall_mem_schemaNames.mp hnames
  refine Line.balanced_render.mpr (File.balanced_moduleLines hname hpackage ?_ ?_)
  · rw [File.importsOf, List.forall_mem_cons, List.forall_mem_map]
    refine ⟨fun x hx => Import.lacks_ofHost (brackets_subset_marks hx) (hname x hx), ?_⟩
    intro d hd x hx
    have hdependency := hdependencies d (List.mem_of_mem_filter hd)
    exact Import.lacks_ofDependency (brackets_subset_marks hx)
      (fun path hpath => hwell path hpath x hx)
      (hdependency x hx)
  · intro v hv t ht x hx
    obtain ⟨s, hs, hservice⟩ := exists_of_forall₂ hviews.flip hv
    have hix := Index.namesLack_ofFiles (brackets_subset_marks hx)
      fun g hg => (File.lacks_of_bracketFree (hfiles g hg) hx).1
    exact Service.ResolvesTo.lacks (brackets_subset_marks hx) hix hservice
      ((File.lacks_of_bracketFree hfile hx).2 s hs) t ht

end Modules

/-- If no name of a schema set, of a file and of the table of well-known files holds a bracket, then
the message module and the service module of the file are balanced whenever they are generated. -/
theorem Generation.modules_well_bracketed (files : List File) (file : File)
    (wellKnown : Table String)
    (hfiles : ∀ g ∈ files, ∀ name ∈ g.names, BracketFree name)
    (hfile : ∀ name ∈ file.names, BracketFree name)
    (hwell : ∀ path ∈ wellKnown.values, BracketFree path) :
    (∀ m, (MessageModule.ofFile (Index.ofFiles files) wellKnown file).result = .ok m →
      Balanced m.text.toList) ∧
    ∀ text, (ServiceModule.text (Index.ofFiles files) wellKnown file).result = .ok text →
      Balanced text.toList :=
  ⟨fun _ => MessageModule.balanced_text hfiles hfile hwell,
    fun _ => ServiceModule.balanced_text hfiles hfile hwell⟩

/-! Two files whose names bring angle brackets, a quote and a line break along, but no bracket. -/

namespace Ferry

def tides : File where
  name := "tides.proto"
  package := "sea"
  messages := [{ name := "Tide", fields := [{ name := "height<m>" }] }]

def crossings : File where
  name := "ferry/crossings.proto"
  package := "ferry"
  dependencies := ["tides.proto", "google/protobuf/empty.proto"]
  messages :=
    [{ name := "Crossing"
       fields :=
        [{ name := "delete", number := 1, oneofIndex := some 0 },
         { name := "tides", number := 2, label := .repeated, kind := .message
           typeName := ".sea.Tide" }]
       nested :=
         [{ name := "Deck", enums := [{ name := "Side", values := [{ name := "PORT\n\"" }] }] }]
       oneofs := ["berth_ß"]
       extensions := [{ name := "pier_no", kind := .message, typeName := ".sea.Tide" }] }]
  services :=
    [{ name := "Quay"
       methods :=
        [{ name := "Delete", inputType := ".ferry.Crossing", outputType := ".sea.Tide" },
         { name := "Watch", inputType := ".sea.Tide", outputType := ".sea.Tide"
           serverStreaming := true }] },
     { name := "Lock" }]

def schemaSet : List File := [tides, crossings]

theorem exists_messages :
    ∃ m, (MessageModule.ofFile (Index.ofFiles schemaSet) WellKnown.default crossings).result
      = .ok m :=
  ⟨_, rfl⟩

theorem exists_services :
    ∃ text, (ServiceModule.text (Index.ofFiles schemaSet) WellKnown.default crossings).result
      = .ok text :=
  ⟨_, rfl⟩

end Ferry

theorem Generation.modules_well_bracketed_ferry :
    (∃ m, (MessageModule.ofFile (Index.ofFiles Ferry.schemaSet) WellKnown.default
        Ferry.crossings).result = .ok m ∧ Balanced m.text.toList) ∧
      ∃ text, (ServiceModule.text (Index.ofFiles Ferry.schemaSet) WellKnown.default
        Ferry.crossings).result = .ok text ∧ Balanced text.toList := by
  have hfiles : ∀ g ∈ Ferry.schemaSet, ∀ name ∈ g.names, BracketFree name := by decide
  have hwell : ∀ path ∈ WellKnown.default.values, BracketFree path := fun path hpath x hx =>
    Text.lacks_wellKnown (brackets_subset_marks hx)
      (Text.lacks_literal (brackets_subset_marks hx) (by decide)) path hpath
  obtain ⟨hmessages, hservices⟩ := modules_well_bracketed Ferry.schemaSet Ferry.crossings
    WellKnown.default hfiles (hfiles _ (List.mem_cons_of_mem _ List.mem_cons_self)) hwell
  obtain ⟨m, hm⟩ := Ferry.exists_messages
  obtain ⟨text, htext⟩ := Ferry.exists_services
  exact ⟨⟨m, hm, hmessages m hm⟩, text, htext, hservices text htext⟩

end RpcStubs
