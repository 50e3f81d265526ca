/-
# From types to modules

Everything that is generated is built on resolved types, and nothing else in it
depends on the index.  So if the types of two indexes compare, the modules of
every file do.  This module says so, one statement for each function on the
way, for any comparison (`RpcStubs.Proofs.Comparison`).

A change of one of these functions touches the one statement about it here; the
results on larger schema sets and on cyclic failures are not touched.
-/
import RpcStubs.Generation
import RpcStubs.Proofs.Comparison
import RpcStubs.Proofs.Emitted
import RpcStubs.Proofs.ServiceImports
import RpcStubs.Proofs.WellFormed

namespace RpcStubs

namespace Index

/-- The types of two indexes compare, in whatever file they are used. -/
def Compares (C : Comparison) (ix ix' : Index) : Prop :=
  ∀ (here : String) (type : TypeRef), C.Rel (ix.valueType here type) (ix'.valueType here type)

namespace Compares

/-! ## Messages -/

variable {C : Comparison} {ix ix' : Index}

theorem elementType (h : Compares C ix ix') (file : File) (f : Field) :
    C.Rel (f.elementType ix file) (f.elementType ix' file) := by
  refine C.bind (C.check _) fun o _ => ?_
  cases o with
  | none => exact h file.name f.typeRef
  | some p => exact C.pure _

theorem member (h : Compares C ix ix') (file : File) (f : Field) :
    C.Rel (f.member ix file) (f.member ix' file) := by
  refine C.bind (h.elementType file f) fun t _ => ?_
  split
  next => exact C.pure _
  next =>
    split
    next => exact C.pure _
    next => exact C.pure _

theorem declareExtension (h : Compares C ix ix') (file : File) (f : Field) :
    C.Rel (f.declareExtension ix file) (f.declareExtension ix' file) :=
  C.bind (h file.name f.typeRef) fun _ _ => C.pure _

mutual

theorem declare (h : Compares C ix ix') (file : File) :
    ∀ m : Message, C.Rel (m.declare ix file) (m.declare ix' file)
  | ⟨name, fields, nested, enums, oneofs, extensions, isMapEntry⟩ => by
      rw [Message.declare_eq, Message.declare_eq]
      split
      next => exact C.pure none
      next =>
        refine C.bind (C.mapM fun f _ => h.member file f) fun members _ => ?_
        refine C.bind (declareAll h file nested) fun classes _ => ?_
        refine C.bind (C.check _) fun groups _ => ?_
        exact C.bind (C.mapM fun f _ => h.declareExtension file f) fun constants _ => C.pure _

theorem declareAll (h : Compares C ix ix') (file : File) :
    ∀ ms : List Message, C.Rel (Message.declareAll ix file ms) (Message.declareAll ix' file ms)
  | [] => by
      rw [Message.declareAll, Message.declareAll]
      exact C.pure []
  | m :: ms => by
      rw [Message.declareAll_cons, Message.declareAll_cons]
      refine C.bind (declare h file m) fun c _ => ?_
      exact C.bind (declareAll h file ms) fun cs _ => C.pure _

end

theorem messageModule (h : Compares C ix ix') (wellKnown : Table String) (file : File) :
    C.Rel (MessageModule.ofFile ix wellKnown file) (MessageModule.ofFile ix' wellKnown file) := by
  refine C.bind (h.declareAll file file.messages) fun classes _ => ?_
  refine C.bind (C.mapM fun f _ => h.declareExtension file f) fun constants _ => ?_
  exact C.bind (C.report _) fun _ _ => C.pure _

/-! ## Methods -/

theorem types (h : Compares C ix ix') (m : Method) : C.Rel (m.types ix) (m.types ix') := by
  refine C.bind (h "" _) fun request _ => ?_
  exact C.bind (h "" _) fun response _ => C.pure _

theorem calls (h : Compares C ix ix') (s : Service) : C.Rel (s.calls ix) (s.calls ix') :=
  C.mapM fun m _ => C.bind (h.types m) fun _ _ => C.pure _

theorem methodsUse (h : Compares C ix ix') (token : String) (ms : List Method) :
    C.Rel (File.methodsUse ix token ms) (File.methodsUse ix' token ms) := by
  induction ms with
  | nil => exact C.pure false
  | cons m ms ih =>
      rw [File.methodsUse_cons, File.methodsUse_cons]
      refine C.bind (h.types m) fun types _ => ?_
      split
      next => exact C.pure true
      next => exact ih

theorem serviceImports (h : Compares C ix ix') (wellKnown : Table String) (file : File) :
    C.Rel (file.serviceImports ix wellKnown) (file.serviceImports ix' wellKnown) := by
  refine C.bind (C.mapM fun dependency _ => ?_) fun used _ => C.pure _
  refine C.bind (h.methodsUse _ _) fun used _ => ?_
  cases used with
  | true => exact C.pure _
  | false => exact C.bind (C.report _) fun _ _ => C.pure none

/-! ## Modules -/

section Scripts

open Script ServiceModule

variable {C : ScriptComparison} (h : Compares C.toComparison ix ix')

include h

theorem client (s : Service) : C.RelScript (client ix s) (client ix' s) := by
  refine C.append (C.within (C.append (C.plain rfl) ?_)) (C.plain rfl)
  exact C.given (h.calls s) fun calls => C.plain (failure_stubs s.name calls)

theorem body (first : Service) (services : List Service) :
    C.RelScript (body ix first services) (body ix' first services) := by
  refine C.within (C.append (C.append (C.plain rfl) ?_) ?_)
  · refine C.join fun s _ => C.given (h.calls s) fun calls => ?_
    exact C.plain (failure_serviceTypes s.name calls)
  · exact C.join fun s _ => h.client s

theorem serviceText (wellKnown : Table String) (file : File) :
    C.Rel (text ix wellKnown file) (text ix' wellKnown file) := by
  refine C.text ?_
  unfold script
  split
  next => exact C.plain rfl
  next first rest _ =>
    refine C.append (C.plain rfl) (C.given (h.serviceImports wellKnown file) fun imports => ?_)
    refine C.append (C.plain ?_) (h.body first file.services)
    rw [failure_append, failure_lines, failure_gap]
    rfl

theorem modules (settings : Settings) (file : File) :
    C.Rel (Generation.modules ix settings file) (Generation.modules ix' settings file) := by
  have hservice : ∀ stem, C.Rel (Generation.serviceFile ix settings.wellKnown stem file)
      (Generation.serviceFile ix' settings.wellKnown stem file) :=
    fun stem => C.bind (h.serviceText _ file) fun _ _ => C.pure _
  have hmessage : ∀ stem, C.Rel (Generation.messageFile ix settings.wellKnown stem file)
      (Generation.messageFile ix' settings.wellKnown stem file) :=
    fun stem => C.bind (h.messageModule _ file) fun _ _ => C.pure _
  unfold Generation.modules
  cases settings.emitMessages with
  | true => exact C.bind (hmessage _) fun m _ => C.bind (hservice _) fun s _ => C.pure _
  | false => exact C.bind (hservice _) fun s _ => C.pure _

end Scripts

end Compares

end Index

end RpcStubs
