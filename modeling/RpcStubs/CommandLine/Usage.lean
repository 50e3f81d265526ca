/-
What the command line says about itself.
-/
import RpcStubs.CommandLine.Arguments

namespace RpcStubs.CommandLine

def programName : String := "ts-jsonrpc-generator"

/-- How the program is called. -/
def usage : String :=
  "usage: ts-jsonrpc-generator [-h] -d DESCRIPTOR_SET [-f FILES [FILES ...]]\n"
  ++ "                            [-o OUTPUT_DIR] [--no-messages]\n"
  ++ "                            [--wkt-package WKT_PACKAGE] [-v]\n"

/-- What the program does and what its options mean. -/
def help : String :=
  usage
  ++ "\nGenerate TypeScript types and JSON-RPC clients for protobuf schemas.\n"
  ++ "\noptions:\n"
  ++ "  -h, --help            show this help message and exit\n"
  ++ "  -d DESCRIPTOR_SET, --descriptor-set DESCRIPTOR_SET\n"
  ++ "                        serialized FileDescriptorSet that contains the schemas\n"
  ++ "                        and all their imports.\n"
  ++ "  -f FILES [FILES ...], --files FILES [FILES ...]\n"
  ++ "                        schema files to generate code for; defaults to every\n"
  ++ "                        file in the set except well-known types.\n"
  ++ "  -o OUTPUT_DIR, --output-dir OUTPUT_DIR\n"
  ++ "                        directory to write all generated outputs; defaults to\n"
  ++ "                        the working directory.\n"
  ++ "  --no-messages         only generate the *_service.ts modules.\n"
  ++ "  --wkt-package WKT_PACKAGE\n"
  ++ "                        runtime package that provides the well-known types\n"
  ++ "                        (default: google-protobuf).\n"
  ++ "  -v, --verbose         enable debug logging.\n"

/-- What is said when the arguments are refused. -/
def refusal (e : UsageError) : String :=
  usage ++ programName ++ ": error: " ++ e.message ++ "\n"

end RpcStubs.CommandLine
