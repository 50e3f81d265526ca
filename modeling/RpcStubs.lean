import RpcStubs.Main
import RpcStubs.Proofs.ServiceImports
import RpcStubs.Proofs.WellFormed
import RpcStubs.Service.Session
import RpcStubs.Proofs.References
import RpcStubs.Proofs.OneLine
import RpcStubs.Proofs.Agreement
import RpcStubs.Proofs.Comparison
import RpcStubs.Proofs.Cycles
import RpcStubs.Proofs.Declarations
import RpcStubs.Proofs.Pipeline
import RpcStubs.Proofs.Responses
import RpcStubs.Proofs.SchemaSets
import RpcStubs.Proofs.Pieces
import RpcStubs.Proofs.Parameters
import RpcStubs.Proofs.Written
import RpcStubs.Proofs.Hosts
import RpcStubs.Proofs.Arguments
import RpcStubs.Proofs.ImportPaths
import RpcStubs.Proofs.ImportLines
import RpcStubs.Proofs.Linking
import RpcStubs.Proofs.Sessions
import RpcStubs.Proofs.ClientMembers
import RpcStubs.Proofs.Extensions
import RpcStubs.Proofs.FirstFailure
import RpcStubs.Proofs.ModuleLayout
import RpcStubs.Proofs.ModuleNames
import RpcStubs.Proofs.Streaming
import RpcStubs.Proofs.OneofGroups
import RpcStubs.Proofs.MemberShapes
import RpcStubs.Proofs.Unambiguous
import RpcStubs.Proofs.Indentation
import RpcStubs.Proofs.Records
import RpcStubs.Proofs.Containment
import RpcStubs.Proofs.Brackets
import RpcStubs.Proofs.Tokens
import RpcStubs.Proofs.CamelCase
import RpcStubs.Proofs.Points
import RpcStubs.Proofs.Strokes
import RpcStubs.Proofs.Scopes
