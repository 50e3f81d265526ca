/-
# A writer carries nothing from one layout to the next

A writer lasts through a session, and so do its sheet and its pen.  A layout
that fails leaves both in the middle: lines on the sheet, and the pen inside of
scopes that were never closed.  That the next layout does not see them has two
reasons.

  * A layout starts on a new sheet.
  * A scope moves the pen back however it is left, so that the pen is back at
    the margin also behind a failure (`Writer.carryOut_eq`).

The rest is an induction on the steps of the session.  No step but building the
index anew changes the index, and the file changes by edits alone, so that a
layout at any point is the layout of the edited file by a writer of its own.
-/
import Mathlib.Data.List.Induction
import RpcStubs.Proofs.Scripts
import RpcStubs.Service.Session

namespace RpcStubs

/-! ## Scripts that are carried out -/

namespace Writer

/-- Carrying out a script adds the lines that a run of it writes, stops where the run stops, and
leaves the pen where it was. -/
theorem carryOut_eq (w : Writer) (s : Script) :
    w.carryOut s = (⟨w.pen, w.written ++ (s.run w.pen).lines⟩, s.failure) := by
  induction s generalizing w with
  | done => simp [carryOut, Script.run, Script.failure]
  | fail e => simp [carryOut, Script.run, Script.failure]
  | report event rest ih => exact ih w
  | line text rest ih =>
      rw [carryOut, ih]
      simp [line, Script.run, Script.failure]
  | blank rest ih =>
      rw [carryOut, ih]
      simp [blank, Script.run, Script.failure]
  | indented body rest ihb ihr =>
      simp only [carryOut, ihb, Script.run, Script.failure, Script.run_failure]
      cases body.failure with
      | some e => simp [enter, leave]
      | none => simp [enter, leave, ihr, Script.run_pen]
  | block opening closing body rest ihb ihr =>
      simp only [carryOut, ihb, Script.run, Script.failure, Script.run_failure]
      cases body.failure with
      | some e => simp [enter, leave, line]
      | none => simp [enter, leave, line, ihr, Script.run_pen]

theorem dump_eq (w : Writer) (s : Script) :
    w.dump s = (⟨{}, (s.run {}).lines⟩, (s.run {}).text.result) := by
  unfold dump Script.Outcome.text
  rw [carryOut_eq, Script.run_failure]
  cases s.failure with
  | some e => rfl
  | none => simp [reset]

end Writer

/-! ## Steps -/

namespace Session

/-- The change that a step makes to the file, if it is one. -/
def Step.change? : Step → Option Edit
  | .edit change => some change
  | _ => none

/-- The file after the changes among some steps. -/
def fileAfter (file : File) (steps : List Step) : File :=
  (steps.filterMap Step.change?).foldl File.edit file

/-- The session after some steps. -/
def afterSteps (s : Session) (steps : List Step) : Session :=
  steps.foldl (fun s step => (s.step step).1) s

theorem answer_dump (s : Session) :
    (s.step .dump).2 = .text <$> (ServiceModule.text s.index s.wellKnown s.file).result := by
  show Answer.text <$> (s.writer.dump _).2 = _
  rw [Writer.dump_eq]
  rfl

/-- What holds of a session after some steps: the pen is at the margin, nothing that the types of
methods are looked up in has changed, and the file has changed as the steps say. -/
structure Follows (start now : Session) (steps : List Step) : Prop where
  pen : now.writer.pen = {}
  index : now.index = start.index
  wellKnown : now.wellKnown = start.wellKnown
  file : now.file = fileAfter start.file steps

theorem fileAfter_concat (file : File) (steps : List Step) (step : Step) :
    fileAfter file (steps ++ [step])
      = step.change?.elim (fileAfter file steps) (fileAfter file steps).edit := by
  unfold fileAfter
  rw [List.filterMap_append, List.foldl_append]
  cases hchange : step.change? with
  | none => simp [hchange]
  | some change => simp [hchange]

theorem Follows.unchanged {start now next : Session} {steps : List Step}
    (h : Follows start now steps)
    {step : Step} (hchange : step.change? = none) (hpen : next.writer.pen = {})
    (hnext : { next with writer := now.writer } = now) : Follows start next (steps ++ [step]) := by
  have hsame : next = { now with writer := next.writer } := by
    rw [← hnext]
  rw [hsame]
  refine ⟨hpen, h.index, h.wellKnown, ?_⟩
  rw [fileAfter_concat, hchange]
  exact h.file

/-- One step more, whichever it is. -/
theorem Follows.step {start now : Session} {steps : List Step} (h : Follows start now steps)
    {step : Step} (hstep : step ≠ .rebuild) :
    Follows start (now.step step).1 (steps ++ [step]) := by
  cases step with
  | dump =>
      refine h.unchanged rfl ?_ rfl
      show (now.writer.dump _).1.pen = {}
      rw [Writer.dump_eq]
  | imports => exact h.unchanged rfl h.pen rfl
  | header => exact h.unchanged rfl h.pen rfl
  | services => exact h.unchanged rfl h.pen rfl
  | uses token => exact h.unchanged rfl h.pen rfl
  | edit change =>
      refine ⟨h.pen, h.index, h.wellKnown, ?_⟩
      show now.file.edit change = _
      rw [fileAfter_concat, h.file]
      rfl
  | rebuild => exact absurd rfl hstep

/-- A session that starts with a new writer, after any number of steps.  The induction is on the
steps from the last one on. -/
theorem follows_afterSteps {start : Session} (hnew : start.writer = {}) {steps : List Step}
    (hsteps : ∀ step ∈ steps, step ≠ .rebuild) : Follows start (start.afterSteps steps) steps := by
  induction steps using List.reverseRecOn with
  | nil => exact ⟨by rw [afterSteps, List.foldl_nil, hnew], rfl, rfl, rfl⟩
  | append_singleton steps step ih =>
      have hnow := ih fun s hs => hsteps s (List.mem_append_left _ hs)
      have hstep := hsteps step (List.mem_append_right _ (List.mem_singleton.mpr rfl))
      rw [afterSteps, List.foldl_append]
      exact hnow.step hstep

/-- Whatever was done before, a layout gives or refuses what a new writer gives or refuses for the
file as it stands, and the pen is at the margin again. -/
theorem dump_ignores_history (start : Session) (hnew : start.writer = {}) (steps : List Step)
    (hsteps : ∀ step ∈ steps, step ≠ .rebuild) :
    (start.afterSteps steps).writer.pen.depth = 0 ∧
    (start.afterSteps steps).file = fileAfter start.file steps ∧
    ((start.afterSteps steps).step .dump).2
      = ({ start with file := fileAfter start.file steps }.step .dump).2 ∧
    ((start.afterSteps steps).step .dump).2
      = .text <$> (ServiceModule.text start.index start.wellKnown
          (fileAfter start.file steps)).result := by
  have hnow := follows_afterSteps hnew hsteps
  have hanswer : ((start.afterSteps steps).step .dump).2
      = .text <$> (ServiceModule.text start.index start.wellKnown
          (fileAfter start.file steps)).result := by
    rw [answer_dump, hnow.index, hnow.wellKnown, hnow.file]
  refine ⟨?_, hnow.file, ?_, hanswer⟩
  · rw [hnow.pen]
  · rw [hanswer, answer_dump]

/-! A method whose types are nowhere to be found makes the layout fail inside the namespace of the
module.  Without it, the layout goes through. -/

namespace Tally

def start : Session where
  before := []
  file := { name := "tally.proto", services := [{ name := "Tally" }] }
  after := []
  index := .ofFiles []
  wellKnown := .ofList []

def failing : List Step :=
  [.edit (.addMethod 0 { name := "Count", inputType := ".Votes", outputType := ".Votes" }), .dump]

def steps : List Step := failing ++ [.edit (.removeMethod 0 0)]

end Tally

theorem dump_ignores_history_tally :
    ((Tally.start.afterSteps (Tally.failing.take 1)).step .dump).2
      = .error (.invalid (.missingMessage "Votes")) ∧
    (Tally.start.afterSteps Tally.failing).writer.written ≠ [] ∧
    (Tally.start.afterSteps Tally.failing).writer.pen.depth = 0 ∧
    fileAfter Tally.start.file Tally.steps = Tally.start.file ∧
    ((Tally.start.afterSteps Tally.steps).step .dump).2 = (Tally.start.step .dump).2 := by
  have hsteps : ∀ step ∈ Tally.steps, step ≠ .rebuild := by
    intro step hstep
    simp only [Tally.steps, Tally.failing, List.cons_append, List.nil_append, List.mem_cons,
      List.not_mem_nil, or_false] at hstep
    rcases hstep with rfl | rfl | rfl <;> nofun
  have hfailing := dump_ignores_history Tally.start rfl Tally.failing
    fun step hstep => hsteps step (List.mem_append_left _ hstep)
  have hmethods := dump_ignores_history Tally.start rfl Tally.steps hsteps
  exact ⟨rfl, nofun, hfailing.1, rfl, hmethods.2.2.1⟩

end Session

end RpcStubs
