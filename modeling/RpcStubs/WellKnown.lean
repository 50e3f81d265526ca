/-
The schema files whose generated modules come ready-made in a package.
-/
import RpcStubs.SchemaPath

namespace RpcStubs.WellKnown

/-- The well-known schema files, without their ending. -/
def stems : List String :=
  ["google/protobuf/compiler/plugin", "google/protobuf/any", "google/protobuf/api",
   "google/protobuf/descriptor", "google/protobuf/duration", "google/protobuf/empty",
   "google/protobuf/field_mask", "google/protobuf/source_context", "google/protobuf/struct",
   "google/protobuf/timestamp", "google/protobuf/type", "google/protobuf/wrappers"]

/-- Where each well-known file is imported from, given the package that holds them. -/
def table (package : String) : Table String :=
  ⟨stems.map fun stem => (stem ++ ".proto", package ++ "/" ++ stem ++ SchemaPath.generatedEnding)⟩

/-- The package that holds the well-known files unless another is named. -/
def defaultPackage : String := "google-protobuf"

def default : Table String := table defaultPackage

end RpcStubs.WellKnown
