/-
# A response holds everything or nothing

A request is answered in one of two ways: with all the files that generation
gives, or with the wording of an error and no file, however many modules were
complete when the error was met.  The wording is never empty, as an empty error
would be taken for success.

There is a third outcome, which is no answer: generation runs into a map entry
that refers to itself.  What is generated only asks for types, so that this
cannot happen if no map entry of the schema set is reachable from itself
(`Generation.ends_generate`).  The argument is that of
`RpcStubs.Proofs.Cycles` at each type, carried through to the modules by
`RpcStubs.Proofs.Pipeline`.
-/
import RpcStubs.Proofs.Cycles
import RpcStubs.Proofs.Pipeline
import RpcStubs.Request

namespace RpcStubs

open Relation

theorem append_ne_empty {s : String} (h : s ≠ "") (t : String) : s ++ t ≠ "" :=
  fun happend => h (String.append_eq_empty_iff.mp happend).1

/-- Every error has a wording: each begins with words of its own. -/
theorem GenerationError.message_ne_empty (e : GenerationError) : e.message ≠ "" := by
  cases e with
  | missingMessage name => exact append_ne_empty (by decide) _
  | missingEnum name => exact append_ne_empty (by decide) _
  | malformedMapEntry name => exact append_ne_empty (append_ne_empty (by decide) _) _
  | unsupportedKind code => exact append_ne_empty (by decide) _
  | unknownJsType code field =>
      exact append_ne_empty
        (append_ne_empty (append_ne_empty (append_ne_empty (by decide) _) _) _) _
  | misplacedJsType field => exact append_ne_empty (append_ne_empty (by decide) _) _
  | undeclaredOneof message field index =>
      refine append_ne_empty (append_ne_empty (append_ne_empty ?_ _) _) _
      exact append_ne_empty (append_ne_empty (by decide) _) _
  | invalidBoolean key value =>
      exact append_ne_empty (append_ne_empty (append_ne_empty (by decide) _) _) _
  | missingPackage => exact (by decide : "'wkt_package' needs a value" ≠ "")
  | unknownParameter key => exact append_ne_empty (append_ne_empty (by decide) _) _
  | fileNotFound name => exact append_ne_empty (by decide) _

/-! ## Generation that ends -/

namespace Generation

variable {names : List String} {files : List File} {settings : Settings}

theorem compares_ending {ix : Index} (h : ∀ name, ¬ TransGen ix.LeadsTo name name) :
    Index.Compares ScriptComparison.ending.toComparison ix ix :=
  fun _ _ => Index.ends_valueType fun _ _ other _ => h other

/-- Generation ends if no map entry of the schema set is reachable from itself. -/
theorem ends_generate
    (h : ∀ name, ¬ TransGen (Index.ofFiles (filesInForce files)).LeadsTo name name) :
    (generate names files settings).Ends := by
  rw [← values_filesByName] at h
  have hrequested : ∀ name, (requested (filesByName files) (.ofFiles (filesByName files).values)
      settings name).Ends := by
    intro name
    unfold requested
    split
    next file _ => exact (compares_ending h).modules settings file
    next => exact Traced.avoids_refuse nofun
  have hgenerate : ScriptComparison.ending.Rel (generate names files settings)
      (generate names files settings) := by
    refine Comparison.bind _ (Comparison.report _ _) fun _ _ => ?_
    refine Comparison.bind _ (Comparison.mapM _ fun name _ => ?_) fun modules _ =>
      Comparison.pure _ _
    exact hrequested name
  exact hgenerate

end Generation

/-! ## Requests -/

namespace Request

variable {r : Request} {given : Option Settings}

/-- The settings of a request are those given, or else those of its parameter. -/
def InForce (r : Request) (given : Option Settings) (settings : Settings) : Prop :=
  given = some settings ∨ given = none ∧ Settings.ofParameter r.parameter = .ok settings

/-- An error is met while the parameter is read, or else by generation. -/
def Meets (r : Request) (given : Option Settings) (e : GenerationError) : Prop :=
  given = none ∧ Settings.ofParameter r.parameter = .error e ∨
    ∃ settings, r.InForce given settings ∧
      (Generation.generate r.names r.files settings).result = .error (.invalid e)

theorem generate_cases (r : Request) (given : Option Settings) :
    (∃ settings, r.InForce given settings ∧
      (r.generate given).result = (Generation.generate r.names r.files settings).result) ∨
    ∃ e, given = none ∧ Settings.ofParameter r.parameter = .error e ∧
      (r.generate given).result = .error (.invalid e) := by
  unfold generate
  cases given with
  | some settings => exact .inl ⟨settings, .inl rfl, rfl⟩
  | none =>
      cases hparameter : Settings.ofParameter r.parameter with
      | ok settings => exact .inl ⟨settings, .inr ⟨rfl, hparameter⟩, rfl⟩
      | error e => exact .inr ⟨e, rfl, rfl, rfl⟩

theorem result_process (r : Request) (given : Option Settings) :
    (r.process given).result = match (r.generate given).result with
      | .ok files => .ok { error := none, features := 1, files }
      | .error (.invalid e) => .ok { error := some e.message, features := 1, files := [] }
      | .error .cyclic => .error .cyclic := by
  unfold process
  dsimp only
  cases (r.generate given).result with
  | ok files => rfl
  | error failure =>
      cases failure with
      | invalid e => rfl
      | cyclic => rfl

/-- A request is answered with everything that is generated and no error, or with the wording of the
error that is met, which is not empty, and no file.  The features are set in both cases.  It is not
answered only if generation runs into a map entry that refers to itself, and never if no map entry
of the schema set is reachable from itself. -/
theorem process_all_or_nothing (r : Request) (given : Option Settings) :
    ((∃ settings files, r.InForce given settings ∧
        (Generation.generate r.names r.files settings).result = .ok files ∧
        (r.process given).result = .ok { error := none, features := 1, files }) ∨
      (∃ e, r.Meets given e ∧ e.message ≠ "" ∧
        (r.process given).result = .ok { error := some e.message, features := 1, files := [] }) ∨
      (∃ settings, r.InForce given settings ∧
        (Generation.generate r.names r.files settings).result = .error .cyclic ∧
        (r.process given).result = .error .cyclic)) ∧
    ((∀ name, ¬ TransGen (Index.ofFiles (Generation.filesInForce r.files)).LeadsTo name name) →
      ∃ response, (r.process given).result = .ok response) := by
  rw [result_process]
  rcases generate_cases r given with ⟨settings, hsettings, hgenerate⟩ | ⟨e, hgiven, he, hgenerate⟩
  · rw [hgenerate]
    cases hresult : (Generation.generate r.names r.files settings).result with
    | ok files => exact ⟨.inl ⟨settings, files, hsettings, hresult, rfl⟩, fun _ => ⟨_, rfl⟩⟩
    | error failure =>
        cases failure with
        | invalid e =>
            refine ⟨.inr (.inl ⟨e, .inr ⟨settings, hsettings, hresult⟩, ?_, rfl⟩),
              fun _ => ⟨_, rfl⟩⟩
            exact e.message_ne_empty
        | cyclic =>
            refine ⟨.inr (.inr ⟨settings, hsettings, hresult, rfl⟩), fun hacyclic => ?_⟩
            exact absurd hresult (Traced.ends_iff.mp (Generation.ends_generate hacyclic))
  · rw [hgenerate]
    exact ⟨.inr (.inl ⟨e, .inl ⟨hgiven, he⟩, e.message_ne_empty, rfl⟩), fun _ => ⟨_, rfl⟩⟩

/-! ## An instance

Two files are asked for.  The first can be generated; the second refers to a message that is not
defined, and holds a map. -/

namespace Shipment

def order : File where
  name := "shop/order.proto"
  package := "shop"
  messages := [{
    name := "Order"
    fields := [{ name := "id", number := 1, kind := .scalar .string }] }]

def weightsEntry : Message where
  name := "WeightsEntry"
  fields := [{ name := "key", number := 1, kind := .scalar .string },
    { name := "value", number := 2, kind := .message, typeName := ".shop.Order" }]
  isMapEntry := true

def shipment : File where
  name := "shop/shipment.proto"
  package := "shop"
  messages := [{
    name := "Shipment"
    fields := [{ name := "target", number := 1, kind := .message, typeName := ".shop.Address" },
      { name := "weights", number := 2, kind := .message, label := .repeated,
        typeName := ".shop.Shipment.WeightsEntry" }]
    nested := [weightsEntry] }]

def request : Request where
  names := ["shop/order.proto", "shop/shipment.proto"]
  parameter := "wkt_package=@acme/protobuf"
  files := [order, shipment]

theorem not_leadsTo {name other : String} :
    ¬ (Index.ofFiles (Generation.filesInForce request.files)).LeadsTo name other := by
  have hentries : ∀ p ∈ (Index.ofFiles (Generation.filesInForce request.files)).messages.entries,
      p.2.isMapEntry = true →
        p.2.mapTypes = some ⟨⟨.scalar .string, ""⟩, ⟨.message, "shop.Order"⟩⟩ := by
    decide
  have horder : (Index.ofFiles (Generation.filesInForce request.files)).messages.find? "shop.Order"
      = some ⟨"shop", "shop/order.proto", false, none⟩ := by
    decide
  rintro ⟨e, types, he, hentry, htypes, hnext⟩
  rw [hentries _ (Table.mem_entries_of_find? he) hentry] at htypes
  cases htypes
  rcases hnext with ⟨hkind, -⟩ | ⟨-, rfl, e', he', hentry'⟩
  · cases hkind
  · rw [horder] at he'
    cases he'
    cases hentry'

end Shipment

theorem process_all_or_nothing_shipment :
    (∀ name, ¬ TransGen (Index.ofFiles (Generation.filesInForce Shipment.request.files)).LeadsTo
      name name) ∧
    (∃ files, (Generation.generate ["shop/order.proto"] Shipment.request.files {}).result
      = .ok files) ∧
    ∃ response, (Shipment.request.process none).result = .ok response ∧ response.files = [] ∧
      response.error = some "No message export for: shop.Address" := by
  have hacyclic : ∀ name, ¬ TransGen (Index.ofFiles
      (Generation.filesInForce Shipment.request.files)).LeadsTo name name := by
    intro name hcycle
    obtain ⟨next, hstep, -⟩ := TransGen.head'_iff.mp hcycle
    exact Shipment.not_leadsTo hstep
  have hgenerate : ∀ settings, Shipment.request.InForce none settings →
      (Generation.generate Shipment.request.names Shipment.request.files settings).result
        = .error (.invalid (.missingMessage "shop.Address")) := by
    rintro settings (hsettings | ⟨-, hsettings⟩)
    · cases hsettings
    · have hparameter : Settings.ofParameter Shipment.request.parameter
          = .ok (({} : Settings).withPackage "@acme/protobuf") := rfl
      rw [hparameter] at hsettings
      cases hsettings
      rfl
  refine ⟨hacyclic, ⟨_, rfl⟩, ?_⟩
  obtain ⟨houtcome, hanswered⟩ := process_all_or_nothing Shipment.request none
  rcases houtcome with ⟨settings, files, hsettings, hfiles, -⟩ | ⟨e, hmeets, -, hresponse⟩ |
    ⟨settings, -, -, hcyclic⟩
  · rw [hgenerate settings hsettings] at hfiles
    cases hfiles
  · refine ⟨_, hresponse, rfl, ?_⟩
    rcases hmeets with ⟨-, hparameter⟩ | ⟨settings, hsettings, he⟩
    · cases hparameter
    · rw [hgenerate settings hsettings] at he
      cases he
      rfl
  · obtain ⟨response, hresponse⟩ := hanswered hacyclic
    rw [hcyclic] at hresponse
    cases hresponse

end Request

end RpcStubs
