/-
# When a computation has a value

Generation is one long computation with many places where it can stop.  What
the later modules say about the whole is assembled from the laws here, one per
way of building a computation.  Each comes in two forms: which value there is
(`result_bind_eq_ok`, `result_mapM_eq_ok`), and whether there is one at all
(`succeeds_bind`, `succeeds_mapM`).

None speaks of events, which have no influence on what comes of a computation.
-/
import Mathlib.Data.List.Forall2
import RpcStubs.Traced

namespace RpcStubs

namespace Traced

variable {α β : Type}

/-- A computation has a value. -/
def Succeeds (x : Traced α) : Prop := ∃ a, x.result = .ok a

theorem result_bind_eq_ok {x : Traced α} {f : α → Traced β} {b : β} :
    (x >>= f).result = .ok b ↔ ∃ a, x.result = .ok a ∧ (f a).result = .ok b := by
  rw [result_bind]
  cases x.result with
  | error e => exact ⟨fun h => (nomatch h), fun ⟨_, h, _⟩ => (nomatch h)⟩
  | ok a =>
      constructor
      · intro h
        exact ⟨a, rfl, h⟩
      · rintro ⟨_, ha, hb⟩
        cases ha
        exact hb

theorem succeeds_bind {x : Traced α} {f : α → Traced β} :
    (x >>= f).Succeeds ↔ ∃ a, x.result = .ok a ∧ (f a).Succeeds := by
  constructor
  · rintro ⟨b, hb⟩
    obtain ⟨a, ha, hf⟩ := result_bind_eq_ok.mp hb
    exact ⟨a, ha, b, hf⟩
  · rintro ⟨a, ha, b, hb⟩
    exact ⟨b, result_bind_eq_ok.mpr ⟨a, ha, hb⟩⟩

@[simp]
theorem succeeds_pure (a : α) : (pure a : Traced α).Succeeds := ⟨a, rfl⟩

@[simp]
theorem not_succeeds_fail (e : Failure) : ¬ (fail e : Traced α).Succeeds :=
  fun ⟨_, h⟩ => nomatch h

@[simp]
theorem not_succeeds_refuse (e : GenerationError) : ¬ (refuse e : Traced α).Succeeds :=
  not_succeeds_fail _

theorem not_succeeds_iff {x : Traced α} : ¬ x.Succeeds ↔ ∃ e, x.result = .error e := by
  unfold Succeeds
  cases x.result with
  | ok a => exact ⟨fun h => absurd ⟨a, rfl⟩ h, fun ⟨_, h⟩ => (nomatch h)⟩
  | error e => exact ⟨fun _ => ⟨e, rfl⟩, fun _ ⟨_, h⟩ => (nomatch h)⟩

theorem succeeds_bind_of_forall {x : Traced α} {f : α → Traced β}
    (hf : ∀ a, (f a).Succeeds) : (x >>= f).Succeeds ↔ x.Succeeds := by
  rw [succeeds_bind]
  exact ⟨fun ⟨a, ha, _⟩ => ⟨a, ha⟩, fun ⟨a, ha⟩ => ⟨a, ha, hf a⟩⟩

theorem succeeds_bind_const {x : Traced α} {y : Traced β} :
    (x >>= fun _ => y).Succeeds ↔ x.Succeeds ∧ y.Succeeds := by
  rw [succeeds_bind]
  exact ⟨fun ⟨a, ha, hy⟩ => ⟨⟨a, ha⟩, hy⟩, fun ⟨⟨a, ha⟩, hy⟩ => ⟨a, ha, hy⟩⟩

theorem result_check_eq_ok {x : Except GenerationError α} {a : α} :
    (check x).result = .ok a ↔ x = .ok a := by
  cases x with
  | error e => exact ⟨fun h => (nomatch h), fun h => (nomatch h)⟩
  | ok b =>
      constructor
      · intro h
        cases h
        rfl
      · intro h
        cases h
        rfl

theorem result_mapM_eq_ok {f : α → Traced β} {as : List α} {bs : List β} :
    (as.mapM f).result = .ok bs ↔ List.Forall₂ (fun a b => (f a).result = .ok b) as bs := by
  induction as generalizing bs with
  | nil =>
      constructor
      · intro h
        cases h
        exact .nil
      · intro h
        cases h
        rfl
  | cons a as ih =>
      rw [List.mapM_cons, result_bind_eq_ok]
      constructor
      · rintro ⟨b, hb, h⟩
        obtain ⟨cs, hcs, h⟩ := result_bind_eq_ok.mp h
        cases h
        exact .cons hb (ih.mp hcs)
      · intro h
        cases h with
        | cons hb hbs => exact ⟨_, hb, result_bind_eq_ok.mpr ⟨_, ih.mpr hbs, rfl⟩⟩

theorem succeeds_mapM {f : α → Traced β} {as : List α} :
    (as.mapM f).Succeeds ↔ ∀ a ∈ as, (f a).Succeeds := by
  induction as with
  | nil => exact ⟨fun _ _ h => absurd h List.not_mem_nil, fun _ => succeeds_pure []⟩
  | cons a as ih =>
      have hrest : ∀ b : β, (as.mapM f >>= fun bs => pure (b :: bs) : Traced _).Succeeds
          ↔ ∀ a ∈ as, (f a).Succeeds := fun b =>
        (succeeds_bind_of_forall fun bs => succeeds_pure (b :: bs)).trans ih
      rw [List.mapM_cons, succeeds_bind, List.forall_mem_cons]
      constructor
      · rintro ⟨b, hb, h⟩
        exact ⟨⟨b, hb⟩, (hrest b).mp h⟩
      · rintro ⟨⟨b, hb⟩, h⟩
        exact ⟨b, hb, (hrest b).mpr h⟩

end Traced

theorem exists_of_forall₂ {α β : Type} {R : α → β → Prop} {as : List α} {bs : List β}
    (h : List.Forall₂ R as bs) {a : α} (ha : a ∈ as) : ∃ b ∈ bs, R a b := by
  induction h with
  | nil => cases ha
  | cons hab _ ih =>
      rcases List.mem_cons.mp ha with rfl | ha
      · exact ⟨_, List.mem_cons_self, hab⟩
      · obtain ⟨b, hb, hr⟩ := ih ha
        exact ⟨b, List.mem_cons_of_mem _ hb, hr⟩

theorem getElem?_of_forall₂ {α β : Type} {R : α → β → Prop} {as : List α} {bs : List β}
    (h : List.Forall₂ R as bs) {i : Nat} {b : β} (hb : bs[i]? = some b) :
    ∃ a, as[i]? = some a ∧ R a b := by
  induction h generalizing i with
  | nil => cases hb
  | @cons a _ _ _ hab _ ih =>
      cases i with
      | zero =>
          cases hb
          exact ⟨a, rfl, hab⟩
      | succ i => exact ih hb

theorem map_eq_of_forall₂ {α β γ : Type} {R : α → β → Prop} {as : List α} {bs : List β} {f : α → γ}
    {g : β → γ} (h : List.Forall₂ R as bs) (hfg : ∀ a b, R a b → f a = g b) :
    as.map f = bs.map g := by
  induction h with
  | nil => rfl
  | cons hab _ ih => rw [List.map_cons, List.map_cons, hfg _ _ hab, ih]

end RpcStubs
