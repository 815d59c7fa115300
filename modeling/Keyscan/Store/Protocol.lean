import Keyscan.Record

/-!
The contract between queries and stores: one request asks for one page, and every failure is classed
by the store as transient or fatal.
-/

set_option autoImplicit false

namespace Keyscan

/-- One round trip: the statement, the token of the page before, and the page size asked for. -/
structure StatementRequest where
  statement : String
  nextToken : Option String
  limit : Option Nat
  deriving DecidableEq, Repr

/-- A page of records. The last page has no token; a page with one may be empty. -/
structure Page where
  records : List Record
  nextToken : Option String

/-- The last page. -/
def Page.last (records : List Record) : Page := ⟨records, none⟩

/-- Whether a failed request may succeed when it is sent again. -/
inductive FailureClass where
  | transient
  | fatal
  deriving DecidableEq, Repr

/-- A failed request. -/
structure StoreError where
  failure : FailureClass
  message : String
  /-- How many requests were sent before giving up. -/
  attempts : Nat
  deriving DecidableEq, Repr

namespace StoreError

/-- A failure of one request that may pass. -/
def transient (message : String) : StoreError := ⟨.transient, message, 1⟩

/-- A failure of one request that stays. -/
def fatal (message : String) : StoreError := ⟨.fatal, message, 1⟩

/-- Whether sending the request again may help. -/
def isTransient (e : StoreError) : Bool := e.failure == .transient

/-- The failure after so many requests. -/
def withAttempts (e : StoreError) (attempts : Nat) : StoreError := { e with attempts }

/-- The stable code of a failure. -/
def code (e : StoreError) : String :=
  match e.failure with
  | .transient => "AERO_STORE_TRANSIENT"
  | .fatal => "AERO_STORE_FATAL"

/-- The line that reports a failure. -/
def display (e : StoreError) : String :=
  s!"[ERROR] {e.code}: {e.message}" ++
    if 1 < e.attempts then s!" (after {e.attempts} attempts)" else ""

end StoreError

/-- A store with states `σ`. A request is received at once, and answered when the latency is over; in
between the store may receive and answer others. -/
structure StoreClient (σ : Type) where
  receive : StatementRequest → σ → σ
  /-- The ticks from receiving a request to answering it. -/
  latency : σ → Nat
  answer : StatementRequest → σ → Except StoreError Page × σ
  /-- How many pages and records an enumeration can still bring, at the most. -/
  ahead : σ → Nat

/-- A request received and answered at once. -/
def StoreClient.execute {σ : Type} (client : StoreClient σ) (request : StatementRequest) (s : σ) :
    Except StoreError Page × σ :=
  client.answer request (client.receive request s)

end Keyscan
