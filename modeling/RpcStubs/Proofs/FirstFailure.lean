/-
# A service module fails with the first method that cannot be resolved

The types of a method are resolved again and again: once for every dependency,
in a search that stops at the first method that needs it, then for the aliases
of its service, and then for its stubs.  Any of these can meet a method that
cannot be resolved, and which one meets it first depends on the dependencies.

It makes no difference.  Each of them goes through the methods from the front,
so that what it fails with, if it fails, is the failure of the first method that
has one (`File.failure?`).  The search for a dependency may stop before it gets
there (`avoids_methodsUse`), but the aliases leave out no method, and they are
always written.  So the whole fails exactly as the list of methods does
(`ServiceModule.failure_script`), whatever the dependencies are.
-/
import RpcStubs.Proofs.Comparison
import RpcStubs.Proofs.WellFormed

namespace RpcStubs

variable {α β : Type} {ix : Index} {file : File} {wellKnown : Table String}

/-! ## Failures of computations -/

namespace Traced

variable {x : Traced α} {f : α → Traced β} {later : Option Failure}

/-- The failure of a computation, if it has no value. -/
def failure? (x : Traced α) : Option Failure :=
  match x.result with
  | .ok _ => none
  | .error e => some e

theorem failure?_eq_some {e : Failure} : x.failure? = some e ↔ x.result = .error e := by
  unfold failure?
  cases x.result with
  | ok a => exact ⟨fun h => (nomatch h), fun h => (nomatch h)⟩
  | error e' =>
      constructor
      · intro h
        cases h
        rfl
      · intro h
        cases h
        rfl

theorem failure?_eq_none : x.failure? = none ↔ x.Succeeds := by
  unfold failure? Succeeds
  cases x.result with
  | ok a => exact ⟨fun _ => ⟨a, rfl⟩, fun _ => rfl⟩
  | error e =>
      constructor
      · intro h
        cases h
      · rintro ⟨a, ha⟩
        cases ha

theorem failure?_bind (h : ∀ a, (f a).failure? = later) :
    (x >>= f).failure? = x.failure?.or later := by
  unfold failure? at h ⊢
  rw [result_bind]
  cases x.result with
  | error e => rfl
  | ok a => exact h a

theorem failure?_bind_of_forall (h : ∀ a, (f a).failure? = none) :
    (x >>= f).failure? = x.failure? :=
  (failure?_bind h).trans Option.or_none

theorem failure?_mapM (f : α → Traced β) (as : List α) :
    (as.mapM f).failure? = as.findSome? fun a => (f a).failure? := by
  induction as with
  | nil => rfl
  | cons a as ih =>
      rw [List.mapM_cons, failure?_bind fun b => (failure?_bind_of_forall fun _ => rfl).trans ih,
        List.findSome?_cons]
      cases (f a).failure? <;> rfl

theorem avoids_mapM {bad : Failure → Prop} {as : List α} (h : ∀ a ∈ as, (f a).Avoids bad) :
    (as.mapM f).Avoids bad := by
  induction as with
  | nil => exact avoids_of_ok rfl
  | cons a as ih =>
      rw [List.forall_mem_cons] at h
      rw [List.mapM_cons]
      refine avoids_bind.mpr ⟨h.1, ?_⟩
      intro b _
      exact avoids_bind.mpr ⟨ih h.2, fun bs _ => avoids_of_ok rfl⟩

/-- A computation that can fail in one way only may as well not be made before something that
fails in that way. -/
theorem failure?_or_of_avoids (h : x.Avoids fun e => later ≠ some e) :
    x.failure?.or later = later := by
  cases hx : x.failure? with
  | none => rfl
  | some e =>
      by_contra hne
      exact h e (fun heq => hne heq.symm) (failure?_eq_some.mp hx)

end Traced

theorem Script.failure_given {x : Traced α} {f : α → Script} {later : Option Failure}
    (h : ∀ a, (f a).failure = later) : (given x f).failure = x.failure?.or later := by
  unfold given Traced.failure?
  rw [failure_foldr_report]
  cases x.result with
  | error e => rfl
  | ok a => exact h a

/-! ## Failures of methods -/

/-- The failure of a method's types. -/
def Method.failure? (ix : Index) (m : Method) : Option Failure := (m.types ix).failure?

/-- The failure of the first method of a service that has one. -/
def Service.failure? (ix : Index) (s : Service) : Option Failure :=
  s.methods.findSome? (·.failure? ix)

/-- The failure of the first method of a file that has one, service by service. -/
def File.failure? (ix : Index) (file : File) : Option Failure :=
  file.services.findSome? (·.failure? ix)

namespace Method

variable {m : Method}

theorem failure?_eq (ix : Index) (m : Method) :
    m.failure? ix = (ix.valueType "" ⟨.message, TypeName.bare m.inputType⟩).failure?.or
      (ix.valueType "" ⟨.message, TypeName.bare m.outputType⟩).failure? := by
  refine Traced.failure?_bind fun request => ?_
  exact Traced.failure?_bind_of_forall fun _ => rfl

theorem failure?_eq_none : m.failure? ix = none ↔ m.Sound ix :=
  Traced.failure?_eq_none.trans succeeds_types

theorem failure?_call (ix : Index) (service : String) (m : Method) :
    (m.call ix service).failure? = m.failure? ix :=
  Traced.failure?_bind_of_forall fun _ => rfl

/-- A method fails with the failure of its request's type, or, if that can be resolved, with the
failure of its response's. -/
def FailsWith (ix : Index) (m : Method) (e : Failure) : Prop :=
  (ix.valueType "" ⟨.message, TypeName.bare m.inputType⟩).result = .error e ∨
  (ix.Resolvable ⟨.message, TypeName.bare m.inputType⟩ ∧
    (ix.valueType "" ⟨.message, TypeName.bare m.outputType⟩).result = .error e)

theorem failure?_eq_some {e : Failure} : m.failure? ix = some e ↔ m.FailsWith ix e := by
  unfold FailsWith
  rw [failure?_eq, Option.or_eq_some_iff, Traced.failure?_eq_some, Traced.failure?_eq_some,
    Traced.failure?_eq_none, Index.succeeds_valueType]

end Method

theorem Service.failure?_calls (ix : Index) (s : Service) :
    (s.calls ix).failure? = s.failure? ix := by
  unfold calls failure?
  rw [Traced.failure?_mapM]
  simp only [Method.failure?_call]

namespace File

/-- Looking through the services one by one is looking through the list of all methods. -/
theorem failure?_eq (ix : Index) (file : File) :
    file.failure? ix = file.methods.findSome? (·.failure? ix) := by
  unfold failure? methods
  induction file.services with
  | nil => rfl
  | cons s services ih =>
      have hs : s.methods.findSome? (·.failure? ix) = s.failure? ix := rfl
      rw [List.flatMap_cons, List.findSome?_append, ← ih, List.findSome?_cons, hs]
      cases s.failure? ix <;> rfl

/-- The search for a namespace fails, if at all, with the first failure among the methods.  It may
find what it looks for before. -/
theorem avoids_methodsUse (ix : Index) (token : String) (ms : List Method) :
    (methodsUse ix token ms).Avoids fun e => ms.findSome? (·.failure? ix) ≠ some e := by
  induction ms with
  | nil => exact Traced.avoids_of_ok rfl
  | cons m ms ih =>
      intro e hbad he
      rcases Traced.result_bind_eq_error.mp he with htypes | ⟨types, htypes, hrest⟩
      · have hm : m.failure? ix = some e := Traced.failure?_eq_some.mpr htypes
        exact hbad (by rw [List.findSome?_cons, hm])
      · have hm : m.failure? ix = none := Traced.failure?_eq_none.mpr ⟨types, htypes⟩
        rw [List.findSome?_cons, hm] at hbad
        dsimp only at hrest
        split at hrest
        · cases hrest
        · exact ih e hbad hrest

theorem avoids_serviceImports (ix : Index) (wellKnown : Table String) (file : File) :
    (file.serviceImports ix wellKnown).Avoids fun e => file.failure? ix ≠ some e := by
  refine Traced.avoids_bind.mpr ⟨?_, fun used _ => Traced.avoids_of_ok rfl⟩
  refine Traced.avoids_mapM fun dependency _ => ?_
  refine Traced.avoids_bind.mpr ⟨?_, ?_⟩
  · rw [failure?_eq]
    exact avoids_methodsUse ix _ file.methods
  · intro used _
    cases used with
    | true => exact Traced.avoids_of_ok rfl
    | false => exact Traced.avoids_of_ok (a := none) rfl

end File

/-! ## Failures of service modules -/

namespace ServiceModule

open Script

theorem failure_client_eq (ix : Index) (s : Service) : (client ix s).failure = s.failure? ix := by
  have hbase : clientBase.failure = none := rfl
  unfold client
  rw [failure_append, failure_braced, failure_append, hbase, failure_gap, Option.none_or,
    Option.or_none, failure_given fun calls => failure_stubs s.name calls, Option.or_none,
    Service.failure?_calls]

/-- The namespace of a module fails with the first method that has a failure: in the aliases, before
any client is written. -/
theorem failure_body_eq (ix : Index) (first : Service) (services : List Service) :
    (body ix first services).failure = services.findSome? (·.failure? ix) := by
  have henvelopes : envelopes.failure = none := rfl
  have htypes : ∀ s : Service,
      (given (s.calls ix) (serviceTypes s.name)).failure = s.failure? ix := by
    intro s
    rw [failure_given fun calls => failure_serviceTypes s.name calls, Option.or_none,
      Service.failure?_calls]
  unfold body
  rw [failure_braced, failure_append, failure_append, henvelopes, Option.none_or, failure_join,
    failure_join, List.findSome?_map, List.findSome?_map]
  simp only [Function.comp_def, htypes, failure_client_eq, Option.or_self]

theorem failure_script (ix : Index) (wellKnown : Table String) (file : File) :
    (script ix wellKnown file).failure = file.failure? ix := by
  have hheader : (header file).failure = none := rfl
  unfold script
  split
  next hnone => rw [hheader, File.failure?, hnone, List.findSome?_nil]
  next first rest hsome =>
      have hrest : ∀ imports : List Import,
          (lines (imports.map Import.line ++ transportImports) ++ gap
            ++ body ix first file.services).failure = file.failure? ix := by
        intro imports
        rw [failure_append, failure_append, failure_lines, failure_gap, failure_body_eq]
        rfl
      rw [failure_append, hheader, Option.none_or, failure_given hrest]
      exact Traced.failure?_or_of_avoids (File.avoids_serviceImports ix wellKnown file)

theorem text_eq_error {e : Failure} :
    (text ix wellKnown file).result = .error e ↔ file.failure? ix = some e := by
  rw [← failure_script ix wellKnown file, ← run_failure _ {}]
  unfold text run Outcome.text
  cases ((script ix wellKnown file).run {}).failure with
  | none => exact ⟨fun h => (nomatch h), fun h => (nomatch h)⟩
  | some e' =>
      constructor
      · intro h
        cases h
        rfl
      · intro h
        cases h
        rfl

end ServiceModule

/-- A failure is that of the first method of a file which cannot be resolved: all services before
the method's are in order, and so are the methods before it in its own. -/
def File.FirstFailure (ix : Index) (file : File) (e : Failure) : Prop :=
  ∃ (earlier : List Service) (s : Service) (later : List Service),
    file.services = earlier ++ s :: later ∧ (∀ t ∈ earlier, ∀ n ∈ t.methods, n.Sound ix) ∧
    ∃ (before : List Method) (m : Method) (after : List Method),
      s.methods = before ++ m :: after ∧ (∀ n ∈ before, n.Sound ix) ∧ m.FailsWith ix e

theorem File.failure?_eq_some {e : Failure} :
    file.failure? ix = some e ↔ file.FirstFailure ix e := by
  have hservice : ∀ s : Service, s.failure? ix = none ↔ ∀ n ∈ s.methods, n.Sound ix := by
    intro s
    unfold Service.failure?
    simp only [List.findSome?_eq_none_iff, Method.failure?_eq_none]
  unfold failure?
  rw [List.findSome?_eq_some_iff]
  constructor
  · rintro ⟨earlier, s, later, hservices, hs, hearlier⟩
    obtain ⟨before, m, after, hmethods, hm, hbefore⟩ := List.findSome?_eq_some_iff.mp hs
    refine ⟨earlier, s, later, hservices, fun t ht => (hservice t).mp (hearlier t ht), ?_⟩
    exact ⟨before, m, after, hmethods, fun n hn => Method.failure?_eq_none.mp (hbefore n hn),
      Method.failure?_eq_some.mp hm⟩
  · rintro ⟨earlier, s, later, hservices, hearlier, before, m, after, hmethods, hbefore, hm⟩
    refine ⟨earlier, s, later, hservices, ?_, fun t ht => (hservice t).mpr (hearlier t ht)⟩
    exact List.findSome?_eq_some_iff.mpr ⟨before, m, after, hmethods,
      Method.failure?_eq_some.mpr hm, fun n hn => Method.failure?_eq_none.mpr (hbefore n hn)⟩

/-- The service module of a file exists unless some method has a type that cannot be resolved.  What
it fails with then is the failure of the first such method, of its request's type before its
response's, and no list of dependencies changes that. -/
theorem ServiceModule.fails_with_first_unresolved_method (ix : Index) (wellKnown : Table String)
    (file : File) :
    (file.services = [] → ∃ t, (text ix wellKnown file).result = .ok t) ∧
    ((∃ e, (text ix wellKnown file).result = .error e) ↔
      ∃ s ∈ file.services, ∃ m ∈ s.methods,
        ¬ ix.Resolvable ⟨.message, TypeName.bare m.inputType⟩ ∨
        ¬ ix.Resolvable ⟨.message, TypeName.bare m.outputType⟩) ∧
    (∀ e, (text ix wellKnown file).result = .error e ↔ file.FirstFailure ix e) ∧
    (∀ (dependencies : List String) (e : Failure),
      (text ix wellKnown { file with dependencies }).result = .error e ↔
        (text ix wellKnown file).result = .error e) := by
  refine ⟨?_, ?_, ?_, ?_⟩
  · intro hnone
    refine succeeds_text.mpr fun s hs => ?_
    rw [hnone] at hs
    cases hs
  · rw [← Traced.not_succeeds_iff, succeeds_text]
    constructor
    · intro h
      by_contra hnone
      refine h fun s hs m hm => ⟨?_, ?_⟩
      · by_contra hin
        exact hnone ⟨s, hs, m, hm, .inl hin⟩
      · by_contra hout
        exact hnone ⟨s, hs, m, hm, .inr hout⟩
    · rintro ⟨s, hs, m, hm, hin | hout⟩ hsound
      · exact hin (hsound s hs m hm).input
      · exact hout (hsound s hs m hm).output
  · intro e
    exact text_eq_error.trans File.failure?_eq_some
  · intro dependencies e
    have hsame : ({ file with dependencies } : File).failure? ix = file.failure? ix := rfl
    rw [text_eq_error, text_eq_error, hsame]

/-! The second of three methods returns what is nowhere to be found, and the third takes it. -/

namespace Courier

def index : Index := .ofFiles [{ name := "courier.proto", messages := [{ name := "Parcel" }] }]

def schema : File where
  name := "courier.proto"
  messages := [{ name := "Parcel" }]
  services := [
    { name := "Desk",
      methods := [{ name := "Take", inputType := ".Parcel", outputType := ".Parcel" }] },
    { name := "Route", methods := [
      { name := "Track", inputType := ".Parcel", outputType := ".Trace" },
      { name := "Lose", inputType := ".Ghost", outputType := ".Parcel" }] }]

theorem resolvable_parcel : index.Resolvable ⟨.message, TypeName.bare ".Parcel"⟩ :=
  .message rfl (show index.messages.find? (TypeName.bare ".Parcel")
    = some ⟨"", "courier.proto", false, none⟩ from rfl) rfl

theorem firstFailure : schema.FirstFailure index (.invalid (.missingMessage "Trace")) := by
  refine ⟨[_], _, [], rfl, ?_, [], _, [_], rfl, fun n hn => (nomatch hn),
    .inr ⟨resolvable_parcel, rfl⟩⟩
  intro t ht n hn
  rw [List.mem_singleton.mp ht] at hn
  rw [List.mem_singleton.mp hn]
  exact ⟨resolvable_parcel, resolvable_parcel⟩

end Courier

theorem ServiceModule.fails_with_first_unresolved_method_courier :
    (∀ dependencies, (text Courier.index {} { Courier.schema with dependencies }).result
      = .error (.invalid (.missingMessage "Trace"))) ∧
    ∃ t, (text Courier.index {} { Courier.schema with services := [] }).result = .ok t := by
  obtain ⟨-, -, hfirst, hsame⟩ := fails_with_first_unresolved_method Courier.index {} Courier.schema
  refine ⟨?_, (fails_with_first_unresolved_method _ _ _).1 rfl⟩
  intro dependencies
  exact (hsame dependencies _).mpr ((hfirst _).mpr Courier.firstFailure)

end RpcStubs
