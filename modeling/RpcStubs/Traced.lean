/-
Computations that report events and may fail.

The events reported before a failure are kept.  `result` sends the monad's operations to those
of `Except Failure`, so that a statement about values never has to speak of events.
-/
import RpcStubs.Error
import RpcStubs.Event

namespace RpcStubs

/-- The events that a computation reports, and what comes of it. -/
@[ext]
structure Traced (α : Type) where
  events : List Event
  result : Except Failure α

namespace Traced

variable {α β γ : Type}

/-- Go on with the value of a computation, if it has one. -/
def andThen (x : Traced α) (f : α → Traced β) : Traced β :=
  match x.result with
  | .ok a => let y := f a; ⟨x.events ++ y.events, y.result⟩
  | .error e => ⟨x.events, .error e⟩

instance : Monad Traced where
  pure a := ⟨[], .ok a⟩
  bind := andThen

def report (e : Event) : Traced Unit := ⟨[e], .ok ()⟩

def fail (f : Failure) : Traced α := ⟨[], .error f⟩

/-- Fail for a cause. -/
def refuse (e : GenerationError) : Traced α := fail (.invalid e)

/-- A check that reports nothing. -/
def check (x : Except GenerationError α) : Traced α :=
  match x with
  | .ok a => pure a
  | .error e => refuse e

@[simp]
theorem result_pure (a : α) : (pure a : Traced α).result = .ok a := rfl

@[simp]
theorem events_pure (a : α) : (pure a : Traced α).events = [] := rfl

@[simp]
theorem result_bind (x : Traced α) (f : α → Traced β) :
    (x >>= f).result = x.result >>= fun a => (f a).result := by
  show (andThen x f).result = _
  unfold andThen
  cases x.result <;> rfl

@[simp]
theorem result_report (e : Event) : (report e).result = .ok () := rfl

@[simp]
theorem result_fail (f : Failure) : (fail f : Traced α).result = .error f := rfl

@[simp]
theorem result_refuse (e : GenerationError) : (refuse e : Traced α).result = .error (.invalid e) :=
  rfl

instance : LawfulMonad Traced :=
  LawfulMonad.mk' Traced
    (fun x => by
      show andThen x _ = x
      unfold andThen
      cases h : x.result <;> ext1 <;> simp [h])
    (fun a f => by
      show andThen _ f = f a
      rfl)
    (fun x f g => by
      show andThen (andThen x f) g = andThen x fun a => andThen (f a) g
      unfold andThen
      cases x.result with
      | error e => rfl
      | ok a => cases h : (f a).result <;> simp [h])

@[simp]
theorem result_map (f : α → β) (x : Traced α) : (f <$> x).result = f <$> x.result := by
  rw [← bind_pure_comp, result_bind]
  cases x.result <;> rfl

@[simp]
theorem result_mapM (f : α → Traced β) (as : List α) :
    (as.mapM f).result = as.mapM fun a => (f a).result := by
  induction as with
  | nil => rfl
  | cons a as ih => simp [List.mapM_cons, ih]

end Traced

end RpcStubs
