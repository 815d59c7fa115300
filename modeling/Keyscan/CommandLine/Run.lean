import Keyscan.CommandLine.Arguments
import Keyscan.Execution.Advance
import Keyscan.Provider
import Keyscan.Store.Memory

/-!
Running a command: what it writes, and how it ends. Files are read through a function that is given,
so that a run depends on nothing else. Rows that have been written stay written when a later one
fails.
-/

set_option autoImplicit false

namespace Keyscan

/-- Why a command fails. -/
inductive CommandError where
  | config (message : String)
  | io (message : String)
  | data (message : String)
  | query (message : String)
  deriving DecidableEq, Repr

namespace CommandError

/-- The stable code of a failure. -/
def code : CommandError → String
  | .config _ => "AERO_CLI_CONFIG_ERROR"
  | .io _ => "AERO_CLI_IO_ERROR"
  | .data _ => "AERO_CLI_DATA_ERROR"
  | .query _ => "AERO_CLI_QUERY_FAILED"

/-- What failed, without the code. -/
def message : CommandError → String
  | .config message | .io message | .data message | .query message => message

/-- The line that reports a failure. -/
def display (e : CommandError) : String := s!"{e.code}: {e.message}"

/-- A failure to get a configuration. -/
def ofConfig (e : ConfigError) : CommandError := .config e.display

/-- A failure of a query, wherever it arose. -/
def ofQuery (e : QueryError) : CommandError := .query e.display

/-- A failure to write JSON, by its text. -/
def ofJson (message : String) : CommandError := .io s!"JSON error: {message}"

end CommandError

namespace CommandLine

/-- The content of a file, or the text of the failure to read it. -/
abbrev Files := String → Except String String

/-- How a command ends, and what it has written. -/
structure Outcome where
  result : Except CommandError Unit
  output : Output

/-- A command that fails before it writes anything. -/
def Outcome.failed (e : CommandError) : Outcome := ⟨.error e, .empty⟩

/-- One JSON value on a line. -/
def line (j : Json) : String := j.print ++ "\n"

/-- The line that ends the output of a successful command. -/
def response (data : Json) : String := line (.object [("data", data), ("status", .string "ok")])

/-- The configuration in a file. -/
def loadConfig (files : Files) (path : String) : Except CommandError ProviderConfig :=
  match files path with
  | .error reason => .error (.ofConfig (.io path reason))
  | .ok text => (ProviderConfig.ofText text).mapError .ofConfig

/-- The store with the tables in a file. -/
def loadStore (files : Files) (path : String) : Except CommandError MemoryStore :=
  match files path with
  | .error reason => .error (.data s!"{path}: {reason}")
  | .ok text =>
      match Json.read? text with
      | none => .error (.data s!"{path}: the text is not JSON")
      | some j =>
          (MemoryStore.ofJson j.canonical).mapError fun e => .data s!"{path}: {e.message}"

/-- The provider of a configuration. Its diagnostics go to the error output. -/
def openProvider (c : ProviderConfig) : Except CommandError (Provider × Diagnostics) :=
  (Provider.ofConfig c (.start .errorOutput)).mapError .ofQuery

/-- The description of a compiled query. -/
def describe (q : CompiledQuery) : Json :=
  .object
    [ ("bindings", .array (q.materializer.fields.map fun p =>
        .object
          [ ("attribute", .string p.attributeName), ("kind", .string p.kind.name),
            ("nullable", .bool p.nullable), ("property", .string p.property) ])),
      ("entity", .string q.model.entity), ("fingerprint", .string q.fingerprint),
      ("statement", .string q.statement), ("table", .string q.table) ]

/-! ### Commands -/

/-- Compiles a scan and describes what came out. -/
def compile (files : Files) (a : QueryArguments) : Outcome :=
  match loadConfig files a.config >>= openProvider with
  | .error e => .failed e
  | .ok (p, d) =>
      let (compiled, _, d) := p.compile a.expression d
      match compiled with
      | .error e => ⟨.error (.ofQuery e), d.output⟩
      | .ok q => ⟨.ok (), ⟨response (describe q), ""⟩ ++ d.output⟩

/-- Explains a scan; a rejected one is explained too, and is no failure. -/
def explain (files : Files) (a : QueryArguments) : Outcome :=
  match loadConfig files a.config >>= openProvider with
  | .error e => .failed e
  | .ok (p, d) =>
      let (explanation, _, d) := p.explain a.expression d
      ⟨.ok (), ⟨explanation.text ++ "\n", ""⟩ ++ d.output⟩

/-- The last line of a run: how many rows and pages there were, and how to go on. -/
def summary (rows : Nat) (c : Cursor) : Json :=
  .object
    [ ("pages", .nat c.pages), ("resume_token", .optional (c.resumeToken?.map ResumeToken.encode)),
      ("rows", .nat rows), ("state", .string c.state.name) ]

/-- Runs a cursor to its end over a store that is used by nothing else. -/
def runCursor (p : Provider) (c : Cursor) (store : MemoryStore) (d : Diagnostics) : Outcome :=
  let executor : Executor MemoryStore := ⟨MemoryStore.client, p.strategy⟩
  let (items, r) := executor.stream (fun row => .ok row) (fun _ => .never) ⟨c, ⟨store, d⟩⟩
  let rows := items.filterMap Except.toOption
  let written : Output := ⟨String.join (rows.map fun row => line row.toJson), ""⟩
  let notices := r.world.diagnostics.output
  match items.findSome? fun i => match i with | .error e => some e | .ok _ => none with
  | some e => ⟨.error (.ofQuery (.execution e)), written ++ notices⟩
  | none =>
      ⟨.ok (), written ++ ⟨response (summary rows.length r.cursor), ""⟩ ++ notices⟩

/-- Runs a scan over the tables in a file. Configuration and tables are read before the token is. -/
def query (files : Files) (a : QueryArguments) (data : String) (resume : Option String) :
    Outcome :=
  let opened : Except CommandError (MemoryStore × Provider × Diagnostics) := do
    let config ← loadConfig files a.config
    let store ← loadStore files data
    let (p, d) ← openProvider config
    .ok (store, p, d)
  match opened with
  | .error e => .failed e
  | .ok (store, p, d) =>
      match resume.map ResumeToken.decode? with
      | some none => ⟨.error (.data "resume token is not valid"), d.output⟩
      | token =>
          let (cursor, p, d) :=
            match token with
            | some (some t) => p.resume a.expression t d
            | _ => p.cursor a.expression d
          match cursor with
          | .error e => ⟨.error (.ofQuery e), d.output⟩
          | .ok c => runCursor p c store d

/-- Runs a command. -/
def run (files : Files) : Command → Outcome
  | .compile a => compile files a
  | .explain a => explain files a
  | .query a data resume => query files a data resume

end CommandLine

end Keyscan
