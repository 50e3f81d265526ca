/-
The module of a schema file's services.

Calls are posted as JSON-RPC envelopes and answered through observables.  Inside one namespace
the module declares the envelopes, then for each service an alias per method and a class that
names them, then for each service a client with a stub and a batch stub per method.  The
transport has no streaming, so a streaming method has no stub.
-/
import RpcStubs.Layout.Script
import RpcStubs.Service.Imports

namespace RpcStubs.ServiceModule

open Script

/-- What the transport itself needs. -/
def transportImports : List String :=
  ["import \x7bHttpClient\x7d from \"@angular/common/http\";",
   "import \x7bObservable, throwError\x7d from \"rxjs\";",
   "import \x7bcatchError, map\x7d from \"rxjs/operators\";"]

/-- The last parameter of every stub. -/
def optionsParameter : String := "options?: \x7b[key: string]: string\x7d"

/-- Where requests are posted. -/
def endpoint : String := "\x60$\x7bthis.serviceHost\x7d/rpc\x60"

/-- The envelopes of requests and responses. -/
def envelopes : Script :=
  braced "class JsonRPCRequest \x7b" (lines
    ["public jsonrpc: string;", "public id: string;", "public method: string;",
     "public params: any;"])
  ++ gap
  ++ braced "type JsonRPCResponse = \x7b" (lines
    ["readonly result: any;", "readonly id: string;", "readonly jsonrpc: string;"])
  ++ gap

/-- The alias of a method: the service's name and the method's. -/
def aliasName (c : Call) : String := c.service ++ c.name

/-- The alias of a method, declared. -/
def aliasBlock (c : Call) : Script :=
  within ("type " ++ aliasName c ++ " = \x7b") "\x7d;" (lines
    ["readonly methodName: string;",
     "readonly service: typeof " ++ c.service ++ ";",
     "readonly requestType: typeof " ++ c.request.text ++ ";",
     "readonly responseType: typeof " ++ c.response.text ++ ";"])
  ++ gap

/-- The line that names a method's alias in the class of its service. -/
def aliasLine (c : Call) : String :=
  "static readonly " ++ c.name ++ ": " ++ aliasName c ++ ";"

/-- The aliases of a service and the class that names them. -/
def serviceTypes (name : String) (calls : List Call) : Script :=
  join (calls.map aliasBlock)
  ++ braced ("class " ++ name ++ " \x7b")
    (lines ("static readonly serviceName: string;" :: calls.map aliasLine))
  ++ gap

def envelope (c : Call) (params : String) : String :=
  "<JsonRPCRequest>\x7b\"id\": \"1\", \"method\": \"" ++ c.service ++ "." ++ c.name
    ++ "\", \"params\": " ++ params ++ ", \"jsonrpc\": \"2.0\"\x7d"

def unaryStub (c : Call) : Script :=
  lines [c.stub ++ "("]
  ++ indent (lines
    ["requestMessage: " ++ c.request.text ++ ",",
     optionsParameter ++ "): Observable<" ++ c.response.text ++ "> \x7b",
     "let rpcRequest = " ++ envelope c "requestMessage" ++ ";",
     "return this.call<" ++ c.response.text ++ ">(" ++ endpoint ++ ", rpcRequest, options);"])
  ++ lines ["\x7d"]
  ++ gap

/-- The stub that calls a method for many requests at once. -/
def batchStub (c : Call) : Script :=
  lines [c.stub ++ "Batch("]
  ++ indent (lines
    ["requestMessages: " ++ c.request.text ++ "[],",
     optionsParameter ++ "): Observable<" ++ c.response.text ++ "[]> \x7b",
     "let rpcRequests = requestMessages.map((r) => \x7breturn " ++ envelope c "r" ++ ";\x7d);",
     "return this.callBatch<" ++ c.response.text ++ "[]>(" ++ endpoint
       ++ ", rpcRequests, options);"])
  ++ lines ["\x7d"]
  ++ gap

/-- The stubs of a method, if it does not stream. -/
def stubs (service : String) (c : Call) : Script :=
  if c.isUnary then unaryStub c ++ batchStub c
  else .report (.skippedMethod service c.name) .done

/-- What every client has: its host, and how one request and how many are posted. -/
def clientBase : Script :=
  lines ["private serviceHost: string;"]
  ++ gap
  ++ braced "constructor(serviceHost: string, private http: HttpClient) \x7b"
    (lines ["this.serviceHost = serviceHost;"])
  ++ gap
  ++ braced ("call<T>(url: string, request: any, " ++ optionsParameter ++ "): Observable<T> \x7b")
    (lines
      ["return this.http.post<JsonRPCResponse>(url, request, options)"
        ++ ".pipe(map(response => \x7b return response.result; \x7d), "
        ++ "catchError(error => \x7b return throwError(error); \x7d));"])
  ++ gap
  ++ braced
    ("callBatch<T>(url: string, request: any, " ++ optionsParameter ++ "): Observable<T> \x7b")
    (lines
      ["// @ts-ignore",
       "return this.http.post<JsonRPCResponse[]>(url, request, options)"
        ++ ".pipe(map(response => "
        ++ "\x7b return response.map((r) => \x7b return <T>r.result; \x7d) \x7d), "
        ++ "catchError(error => \x7b return throwError(error); \x7d));"])
  ++ gap

def client (ix : Index) (s : Service) : Script :=
  braced "export class Client \x7b"
    (clientBase ++ given (s.calls ix) fun calls => join (calls.map (stubs s.name)))
  ++ gap

def header (file : File) : Script :=
  lines ["// package: " ++ file.package, "// file: " ++ file.name] ++ gap

/-- The namespace of a module, named for its first service. -/
def body (ix : Index) (first : Service) (services : List Service) : Script :=
  braced ("export namespace " ++ first.name ++ " \x7b")
    (envelopes
      ++ join (services.map fun s => given (s.calls ix) (serviceTypes s.name))
      ++ join (services.map (client ix)))

/-- The module of a file's services.  A file without services has the head only. -/
def script (ix : Index) (wellKnown : Table String) (file : File) : Script :=
  match file.services with
  | [] => header file
  | first :: _ =>
    header file
    ++ given (file.serviceImports ix wellKnown) fun imports =>
      lines (imports.map Import.line ++ transportImports)
      ++ gap
      ++ body ix first file.services

/-- The module laid out with a fresh pen. -/
def run (ix : Index) (wellKnown : Table String) (file : File) : Outcome :=
  (script ix wellKnown file).run {}

def text (ix : Index) (wellKnown : Table String) (file : File) : Traced String :=
  (run ix wellKnown file).text

end RpcStubs.ServiceModule
