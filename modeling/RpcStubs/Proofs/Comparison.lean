/-
# Comparing computations

Two questions are asked of the whole of generation below: does it still give
the same if the schema set around a file changes, and can it run into a map
entry that refers to itself?  Both come down to the types that are resolved,
and both have to be carried through everything that is built on them.

A `Comparison` is a relation between computations that each way of building one
respects, a `ScriptComparison` one that has a relation between scripts beside
it.  What is built on resolved types is then carried over once, for every
comparison.

Two kinds are used, both given by the failures that are not wanted (`bad`):

  * `sameUnless bad`: unless the first computation fails badly, the second is
    the very same, reports included;
  * `avoiding bad`: the first computation does not fail badly, and the second
    does not matter.
-/
import RpcStubs.Proofs.Scripts

namespace RpcStubs

variable {α β : Type} {bad : Failure → Prop}

/-! ## Failures that are not wanted -/

/-- A computation fails in none of the ways that are not wanted. -/
def Traced.Avoids (bad : Failure → Prop) (x : Traced α) : Prop :=
  ∀ failure, bad failure → x.result ≠ .error failure

/-- A computation comes to an end: with a value, or with a stated cause. -/
def Traced.Ends (x : Traced α) : Prop := x.Avoids (· = .cyclic)

namespace Traced

variable {x y : Traced α} {f g : α → Traced β}

theorem ends_iff : x.Ends ↔ x.result ≠ .error .cyclic :=
  ⟨fun h => h .cyclic rfl, fun h _ hbad => hbad ▸ h⟩

theorem exists_of_ends (h : x.Ends) :
    ∃ outcome : Except GenerationError α, x.result = outcome.mapError .invalid := by
  cases hx : x.result with
  | ok a => exact ⟨.ok a, rfl⟩
  | error failure =>
      cases failure with
      | invalid e => exact ⟨.error e, rfl⟩
      | cyclic => exact absurd hx (ends_iff.mp h)

theorem avoids_of_ok {a : α} (h : x.result = .ok a) : x.Avoids bad := by
  intro failure _ he
  rw [h] at he
  cases he

theorem avoids_refuse {e : GenerationError} (h : ¬ bad (.invalid e)) :
    (refuse e : Traced α).Avoids bad := by
  rintro failure hbad he
  cases he
  exact h hbad

theorem check_ne_cyclic {c : Except GenerationError α} : (check c).result ≠ .error .cyclic := by
  intro h
  cases c with
  | error e => cases h
  | ok a => cases h

/-- A computation has a value exactly if it avoids every failure. -/
theorem avoids_true : x.Avoids (fun _ => True) ↔ x.Succeeds := by
  constructor
  · intro h
    cases hx : x.result with
    | error failure => exact absurd hx (h failure trivial)
    | ok a => exact ⟨a, hx⟩
  · rintro ⟨a, ha⟩
    exact avoids_of_ok ha

theorem result_bind_eq_error {failure : Failure} :
    (x >>= f).result = .error failure ↔
      x.result = .error failure ∨ ∃ a, x.result = .ok a ∧ (f a).result = .error failure := by
  rw [result_bind]
  cases x.result with
  | error e =>
      constructor
      · intro h
        cases h
        exact .inl rfl
      · rintro (h | ⟨a, h, -⟩)
        · cases h
          rfl
        · cases h
  | ok a =>
      constructor
      · intro h
        exact .inr ⟨a, rfl, h⟩
      · rintro (h | ⟨a, h, hf⟩)
        · cases h
        · cases h
          exact hf

theorem avoids_bind :
    (x >>= f).Avoids bad ↔ x.Avoids bad ∧ ∀ a, x.result = .ok a → (f a).Avoids bad := by
  constructor
  · intro h
    refine ⟨?_, ?_⟩
    · intro failure hbad he
      exact h failure hbad (result_bind_eq_error.mpr (.inl he))
    · intro a ha failure hbad he
      exact h failure hbad (result_bind_eq_error.mpr (.inr ⟨a, ha, he⟩))
  · rintro ⟨hx, hf⟩ failure hbad he
    rcases result_bind_eq_error.mp he with he | ⟨a, ha, he⟩
    · exact hx failure hbad he
    · exact hf a ha failure hbad he

theorem bind_congr_of_ok (h : ∀ a, x.result = .ok a → f a = g a) : x >>= f = x >>= g := by
  show andThen x f = andThen x g
  unfold andThen
  cases hx : x.result with
  | error e => rfl
  | ok a =>
      show Traced.mk _ _ = Traced.mk _ _
      rw [h a hx]

end Traced

namespace Script

variable {s t : Script}

/-- A script fails in none of the ways that are not wanted. -/
def Avoids (bad : Failure → Prop) (s : Script) : Prop :=
  ∀ failure, bad failure → s.failure ≠ some failure

theorem avoids_of_failure_eq_none (h : s.failure = none) : s.Avoids bad := by
  intro failure _ he
  rw [h] at he
  cases he

theorem avoids_append (hs : s.Avoids bad) (ht : t.Avoids bad) : (s ++ t).Avoids bad := by
  intro failure hbad he
  rw [failure_append, Option.or_eq_some_iff] at he
  rcases he with he | ⟨-, he⟩
  · exact hs failure hbad he
  · exact ht failure hbad he

theorem avoids_within {opening closing : String} (hs : s.Avoids bad) :
    (within opening closing s).Avoids bad := by
  intro failure hbad he
  rw [failure_within] at he
  exact hs failure hbad he

theorem avoids_given {x : Traced α} {f : α → Script} (hx : x.Avoids bad)
    (hf : ∀ a, (f a).Avoids bad) : (given x f).Avoids bad := by
  intro failure hbad he
  unfold given at he
  rw [failure_foldr_report] at he
  cases hresult : x.result with
  | error e =>
      rw [hresult] at he
      cases he
      exact hx _ hbad hresult
  | ok a =>
      rw [hresult] at he
      exact hf a failure hbad he

theorem avoids_text_run {pen : Pen} (hs : s.Avoids bad) : (s.run pen).text.Avoids bad := by
  intro failure hbad he
  unfold Outcome.text at he
  rw [run_failure] at he
  cases hfailure : s.failure with
  | none =>
      rw [hfailure] at he
      cases he
  | some e =>
      rw [hfailure] at he
      cases he
      exact hs _ hbad hfailure

end Script

/-! ## Comparisons of computations -/

/-- A relation between computations that every way of building one respects. -/
structure Comparison where
  /-- The relation. -/
  Rel {α : Type} : Traced α → Traced α → Prop
  pure {α : Type} (a : α) : Rel (Pure.pure a : Traced α) (Pure.pure a)
  report (e : Event) : Rel (Traced.report e) (Traced.report e)
  refuse {α : Type} (e : GenerationError) : Rel (Traced.refuse e : Traced α) (Traced.refuse e)
  bind {α β : Type} {x y : Traced α} {f g : α → Traced β} :
    Rel x y → (∀ a, x.result = .ok a → Rel (f a) (g a)) → Rel (x >>= f) (y >>= g)

namespace Comparison

/-- Unless the first fails badly, the second is the same. -/
def sameUnless (bad : Failure → Prop) : Comparison where
  Rel x y := x.Avoids bad → y = x
  pure _ _ := rfl
  report _ _ := rfl
  refuse _ _ := rfl
  bind := by
    intro α β x y f g hxy hfg h
    obtain ⟨hx, hf⟩ := Traced.avoids_bind.mp h
    rw [hxy hx]
    exact Traced.bind_congr_of_ok fun a ha => hfg a ha (hf a ha)

variable (C : Comparison)

theorem check (x : Except GenerationError α) : C.Rel (Traced.check x) (Traced.check x) := by
  cases x with
  | error e => exact C.refuse e
  | ok a => exact C.pure a

theorem mapM {f g : α → Traced β} {as : List α} (h : ∀ a ∈ as, C.Rel (f a) (g a)) :
    C.Rel (as.mapM f) (as.mapM g) := by
  induction as with
  | nil => exact C.pure []
  | cons a as ih =>
      rw [List.forall_mem_cons] at h
      rw [List.mapM_cons, List.mapM_cons]
      exact C.bind h.1 fun b _ => C.bind (ih h.2) fun bs _ => C.pure (b :: bs)

end Comparison

/-! ## Comparisons of scripts -/

/-- A comparison, with a relation between scripts that fits it. -/
structure ScriptComparison extends Comparison where
  /-- The relation between scripts. -/
  RelScript : Script → Script → Prop
  plain {s : Script} : s.failure = none → RelScript s s
  append {s s' t t' : Script} : RelScript s s' → RelScript t t' → RelScript (s ++ t) (s' ++ t')
  within {opening closing : String} {s s' : Script} :
    RelScript s s' → RelScript (Script.within opening closing s) (Script.within opening closing s')
  given {α : Type} {x y : Traced α} {f g : α → Script} :
    Rel x y → (∀ a, RelScript (f a) (g a)) → RelScript (Script.given x f) (Script.given y g)
  text {s s' : Script} {pen : Pen} : RelScript s s' → Rel (s.run pen).text (s'.run pen).text

namespace ScriptComparison

/-- If the first has a value, the second is the same. -/
def sameOnSuccess : ScriptComparison where
  toComparison := .sameUnless fun _ => True
  RelScript s t := s.failure = none → t = s
  plain _ _ := rfl
  append := by
    intro s s' t t' hs ht h
    rw [Script.failure_append, Option.or_eq_none_iff] at h
    rw [hs h.1, ht h.2]
  within := by
    intro opening closing s s' hs h
    rw [Script.failure_within] at h
    rw [hs h]
  given := by
    intro α x y f g hxy hfg h
    obtain ⟨a, ha, hf⟩ := Script.failure_given_eq_none.mp h
    rw [hxy (Traced.avoids_of_ok ha), Script.given, Script.given, ha]
    exact congrArg (x.events.foldr Script.report) (hfg a hf)
  text := by
    intro s s' pen hs h
    rw [hs ((Script.succeeds_text_run s pen).mp (Traced.avoids_true.mp h))]

/-- The first does not fail badly.  A stated cause is not bad. -/
def avoiding (bad : Failure → Prop) (hcause : ∀ e, ¬ bad (.invalid e)) : ScriptComparison where
  Rel x _ := x.Avoids bad
  RelScript s _ := s.Avoids bad
  pure _ := Traced.avoids_of_ok rfl
  report _ := Traced.avoids_of_ok rfl
  refuse e := Traced.avoids_refuse (hcause e)
  bind hx hf := Traced.avoids_bind.mpr ⟨hx, hf⟩
  plain h := Script.avoids_of_failure_eq_none h
  append hs ht := Script.avoids_append hs ht
  within hs := Script.avoids_within hs
  given hx hf := Script.avoids_given hx hf
  text hs := Script.avoids_text_run hs

theorem invalid_ne_cyclic (e : GenerationError) : ¬ Failure.invalid e = .cyclic := by
  intro h
  cases h

/-- The first comes to an end. -/
def ending : ScriptComparison := avoiding (· = .cyclic) invalid_ne_cyclic

variable (C : ScriptComparison)

theorem join {f g : α → Script} {as : List α} (h : ∀ a ∈ as, C.RelScript (f a) (g a)) :
    C.RelScript (Script.join (as.map f)) (Script.join (as.map g)) := by
  induction as with
  | nil => exact C.plain rfl
  | cons a as ih =>
      rw [List.forall_mem_cons] at h
      exact C.append h.1 (ih h.2)

end ScriptComparison

end RpcStubs
