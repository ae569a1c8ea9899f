import Bindings.Emission.Chunk
import Bindings.Emission.Imports
import Bindings.Go.NameScope
import Bindings.Text.Split

/-! Source files that are the same for every protocol, apart from the import root. -/

set_option autoImplicit false

namespace Bindings.Emission

open Go (NameScope SourceFile)

def fixedSource (names lines : List String) : Go.Item :=
  ⟨.verbatim names (Text.joinLines lines ++ "\n"), false⟩

def opErrorSource : Go.Item :=
  fixedSource ["OpError"]
    ["// OpError represents an error returned by a domain operation. It records",
     "// the domain and operation that failed along with the underlying error.",
     "type OpError struct \x7b",
     "\tDomain string // Domain name.",
     "\tOp     string // Operation name, an event receive is \"<Event> Recv\".",
     "\tErr    error  // Underlying error, from the transport or the JSON decoder.",
     "\x7d",
     "",
     "func (e *OpError) Error() string \x7b",
     "\treturn fmt.Sprintf(\"cdp.%s: %s: %s\", e.Domain, e.Op, e.Err.Error())",
     "\x7d",
     "",
     "// Cause returns the underlying error.",
     "func (e *OpError) Cause() error \x7b",
     "\treturn e.Err",
     "\x7d",
     "",
     "// Unwrap returns the underlying error.",
     "func (e *OpError) Unwrap() error \x7b",
     "\treturn e.Err",
     "\x7d"]

def opErrorFile : SourceFile where
  path := "protocol/internal/error.go"
  package := "internal"
  doc := ["Package internal holds definitions shared by the generated domain packages."]
  imports := [Imports.fmt.path]
  items := [opErrorSource]

def errorCauseSource : Go.Item :=
  fixedSource ["ErrorCause"]
    ["// ErrorCause returns the innermost cause of err by repeatedly unwrapping",
     "// it. Errors returned by domain methods wrap the transport or decoding",
     "// error with the domain and operation name; ErrorCause recovers the",
     "// original.",
     "func ErrorCause(err error) error \x7b",
     "\tfor err != nil \x7b",
     "\t\tcause := errors.Unwrap(err)",
     "\t\tif cause == nil \x7b",
     "\t\t\treturn err",
     "\t\t\x7d",
     "\t\terr = cause",
     "\t\x7d",
     "\treturn err",
     "\x7d"]

def errorsFile (scope : NameScope) : Except Error (NameScope × SourceFile) := do
  let scope ← scope.declare "ErrorCause"
  return (scope,
    { path := "cdp_errors.go", package := "cdp", imports := [Imports.errors.path],
      items := [errorCauseSource] })

def transportSource : Go.Item :=
  fixedSource ["Transport", "NewTransport", "codec", "pipe"]
    ["// Transport is an in-memory rpcc transport for testing generated domain",
     "// clients. Every request is answered with an empty result, or with the",
     "// error set by SetError. Events are injected with Emit.",
     "type Transport struct \x7b",
     "\tConn *rpcc.Conn",
     "",
     "\tmu        sync.Mutex",
     "\terr       *rpcc.ResponseError",
     "\tout       chan *rpcc.Response",
     "\tdone      chan struct\x7b\x7d",
     "\tcloseOnce sync.Once",
     "\x7d",
     "",
     "// NewTransport dials a connection backed by the in-memory transport. The",
     "// test fails immediately if the connection cannot be created.",
     "func NewTransport(t testing.TB) *Transport \x7b",
     "\tt.Helper()",
     "",
     "\ttr := &Transport\x7b",
     "\t\tout:  make(chan *rpcc.Response, 16),",
     "\t\tdone: make(chan struct\x7b\x7d),",
     "\t\x7d",
     "\tconn, err := rpcc.DialContext(context.Background(), \"testutil\",",
     "\t\trpcc.WithDialer(func(ctx context.Context, addr string) (io.ReadWriteCloser, error) \x7b",
     "\t\t\treturn pipe\x7btr: tr\x7d, nil",
     "\t\t\x7d),",
     "\t\trpcc.WithCodec(func(conn io.ReadWriter) rpcc.Codec \x7b",
     "\t\t\treturn &codec\x7btr: tr\x7d",
     "\t\t\x7d),",
     "\t)",
     "\tif err != nil \x7b",
     "\t\tt.Fatal(err)",
     "\t\x7d",
     "\ttr.Conn = conn",
     "\treturn tr",
     "\x7d",
     "",
     "// SetError makes every following request fail with err. A nil err",
     "// restores empty results.",
     "func (tr *Transport) SetError(err *rpcc.ResponseError) \x7b",
     "\ttr.mu.Lock()",
     "\tdefer tr.mu.Unlock()",
     "\ttr.err = err",
     "\x7d",
     "",
     "// Emit delivers an event with the raw JSON payload to subscribers of method.",
     "func (tr *Transport) Emit(method string, payload []byte) error \x7b",
     "\tselect \x7b",
     "\tcase tr.out <- &rpcc.Response\x7bMethod: method, Args: json.RawMessage(payload)\x7d:",
     "\t\treturn nil",
     "\tcase <-tr.done:",
     "\t\treturn io.ErrClosedPipe",
     "\t\x7d",
     "\x7d",
     "",
     "// Close closes the connection and the transport.",
     "func (tr *Transport) Close() error \x7b",
     "\tvar err error",
     "\tif tr.Conn != nil \x7b",
     "\t\terr = tr.Conn.Close()",
     "\t\x7d",
     "\ttr.shutdown()",
     "\treturn err",
     "\x7d",
     "",
     "func (tr *Transport) shutdown() \x7b",
     "\ttr.closeOnce.Do(func() \x7b close(tr.done) \x7d)",
     "\x7d",
     "",
     "type codec struct \x7b",
     "\ttr *Transport",
     "\x7d",
     "",
     "func (c *codec) WriteRequest(req *rpcc.Request) error \x7b",
     "\tc.tr.mu.Lock()",
     "\tresp := &rpcc.Response\x7bID: req.ID, Result: json.RawMessage(`\x7b\x7d`)\x7d",
     "\tif c.tr.err != nil \x7b",
     "\t\tresp.Result = nil",
     "\t\tresp.Error = c.tr.err",
     "\t\x7d",
     "\tc.tr.mu.Unlock()",
     "",
     "\tselect \x7b",
     "\tcase c.tr.out <- resp:",
     "\t\treturn nil",
     "\tcase <-c.tr.done:",
     "\t\treturn io.ErrClosedPipe",
     "\t\x7d",
     "\x7d",
     "",
     "func (c *codec) ReadResponse(resp *rpcc.Response) error \x7b",
     "\tselect \x7b",
     "\tcase r := <-c.tr.out:",
     "\t\t*resp = *r",
     "\t\treturn nil",
     "\tcase <-c.tr.done:",
     "\t\treturn io.EOF",
     "\t\x7d",
     "\x7d",
     "",
     "// pipe satisfies io.ReadWriteCloser for the dialer; all traffic goes",
     "// through the codec.",
     "type pipe struct \x7b",
     "\ttr *Transport",
     "\x7d",
     "",
     "func (p pipe) Read(b []byte) (int, error) \x7b",
     "\t<-p.tr.done",
     "\treturn 0, io.EOF",
     "\x7d",
     "",
     "func (p pipe) Write(b []byte) (int, error) \x7b",
     "\treturn len(b), nil",
     "\x7d",
     "",
     "func (p pipe) Close() error \x7b",
     "\tp.tr.shutdown()",
     "\treturn nil",
     "\x7d"]

def transportFile (root : String) : SourceFile :=
  SourceFile.addImports
    { path := "internal/testutil/transport.go"
      package := "testutil"
      doc := ["Package testutil provides an in-memory rpcc transport for domain tests."]
      items := [transportSource] }
    ["context", "encoding/json", "io", "sync", "testing", (Imports.rpcc root).path]

end Bindings.Emission
