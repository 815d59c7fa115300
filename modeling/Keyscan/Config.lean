import Keyscan.Execution.Cursor
import Keyscan.Execution.Strategy
import Keyscan.Json.Selection
import Keyscan.Mapping.Registry
import Keyscan.Mapping.Wire

/-!
Configurations of providers: their JSON form, where every field has a default, and what makes one
valid.
-/

set_option autoImplicit false

namespace Keyscan

/-- Why there is no configuration to be had. -/
inductive ConfigError where
  /-- The file cannot be read. -/
  | io (path reason : String)
  /-- The text is not JSON. -/
  | notJson
  /-- The JSON is no configuration. -/
  | malformed (error : DecodeError)
  /-- The configuration has a value that makes no sense. -/
  | invalid (reason : String)
  deriving DecidableEq, Repr

namespace ConfigError

/-- The stable code of an error. -/
def code : ConfigError → String
  | .io _ _ => "AERO_CONFIG_IO"
  | .notJson | .malformed _ => "AERO_CONFIG_PARSE"
  | .invalid _ => "AERO_CONFIG_INVALID"

/-- What is wrong, without the code. -/
def message : ConfigError → String
  | .io path reason => s!"failed to read config '{path}': {reason}"
  | .notJson => "invalid config JSON: the text is not JSON"
  | .malformed error => "invalid config JSON: " ++ error.message
  | .invalid reason => reason

/-- The line that reports an error. No configuration error can be recovered from. -/
def display (e : ConfigError) : String := s!"[FATAL] {e.code}: {e.message}"

end ConfigError

/-- How failed requests are repeated; delays in milliseconds. -/
structure RetryConfig where
  maxRetries : UInt32
  baseDelay : UInt64
  maxDelay : UInt64
  deriving DecidableEq, Repr

/-- All that a provider can be configured with. -/
structure ProviderConfig where
  defaultPageSize : Option UInt32
  autoPaginate : Bool
  retry : RetryConfig
  logDiagnostics : Bool
  mappings : List EntityMapping
  deriving DecidableEq, Repr

/-! ### JSON form -/

namespace Json

/-- A natural number of 32 bits. -/
def asUInt32 (j : Json) : Except DecodeError UInt32 := (j.asNatural 32).map UInt32.ofNat

/-- A natural number of 64 bits. -/
def asUInt64 (j : Json) : Except DecodeError UInt64 := (j.asNatural 64).map UInt64.ofNat

end Json

namespace RetryConfig

def standard : RetryConfig := ⟨3, 50, 2000⟩

def toJson (r : RetryConfig) : Json :=
  .object
    [ ("max_retries", .nat r.maxRetries.toNat), ("base_delay_ms", .nat r.baseDelay.toNat),
      ("max_delay_ms", .nat r.maxDelay.toNat) ]

def fields : List Json.Field :=
  [ .of "max_retries" false Json.asUInt32, .of "base_delay_ms" false Json.asUInt64,
    .of "max_delay_ms" false Json.asUInt64 ]

def decode (j : Json) : Except DecodeError RetryConfig := do
  let members ← Json.fieldsOf .text "RetryConfig" fields j
  let maxRetries ← Json.fieldOr Json.asUInt32 standard.maxRetries "max_retries" members
  let baseDelay ← Json.fieldOr Json.asUInt64 standard.baseDelay "base_delay_ms" members
  let maxDelay ← Json.fieldOr Json.asUInt64 standard.maxDelay "max_delay_ms" members
  .ok { maxRetries, baseDelay, maxDelay }

/-- The part of a value that decoding looks at. -/
def shape : Json.Shape := .ofFields fields

/-- The delays as configured, the cap raised to the base where it is less. -/
def backoff (r : RetryConfig) : Backoff :=
  .of r.maxRetries.toNat r.baseDelay.toNat r.maxDelay.toNat

end RetryConfig

namespace ProviderConfig

def standard : ProviderConfig := ⟨none, true, .standard, true, []⟩

def toJson (c : ProviderConfig) : Json :=
  .object
    [ ("default_page_size", c.defaultPageSize.elim .null fun n => .nat n.toNat),
      ("auto_paginate", .bool c.autoPaginate), ("retry", c.retry.toJson),
      ("log_diagnostics", .bool c.logDiagnostics),
      ("mappings", .array (c.mappings.map EntityMapping.toJson)) ]

/-- The compact text of the JSON form. -/
def wire (c : ProviderConfig) : String := c.toJson.print

def fields : List Json.Field :=
  [ .of "default_page_size" false (Json.asOptional Json.asUInt32),
    .of "auto_paginate" false Json.asBool,
    .shaped "retry" false RetryConfig.shape RetryConfig.decode,
    .of "log_diagnostics" false Json.asBool,
    .shaped "mappings" false (.list EntityMapping.shape)
      (Json.asList (EntityMapping.decode .text)) ]

def decode (j : Json) : Except DecodeError ProviderConfig := do
  let members ← Json.fieldsOf .text "ProviderConfig" fields j
  let defaultPageSize ←
    Json.fieldOr (Json.asOptional Json.asUInt32) none "default_page_size" members
  let autoPaginate ← Json.fieldOr Json.asBool true "auto_paginate" members
  let retry ← Json.fieldOr RetryConfig.decode .standard "retry" members
  let logDiagnostics ← Json.fieldOr Json.asBool true "log_diagnostics" members
  let mappings ← Json.fieldOr (Json.asList (EntityMapping.decode .text)) [] "mappings" members
  .ok { defaultPageSize, autoPaginate, retry, logDiagnostics, mappings }

/-! ### Validity -/

/-- The declared mappings as a registry. -/
def registry (c : ProviderConfig) : Except ConfigError MappingRegistry :=
  (MappingRegistry.ofList c.mappings).mapError fun e =>
    .invalid ("mapping error: " ++ e.display)

/-- Checks the page size, the delays and the mappings, in this order. -/
def validate (c : ProviderConfig) : Except ConfigError Unit :=
  if c.defaultPageSize = some 0 then .error (.invalid "default_page_size must be > 0")
  else if c.retry.maxDelay < c.retry.baseDelay then
    .error (.invalid
      (s!"retry.max_delay_ms ({c.retry.maxDelay}) must be >= " ++
        s!"retry.base_delay_ms ({c.retry.baseDelay})"))
  else c.registry.map fun _ => ()

/-- The configuration in a text, without regard to its validity. Of a text that is not JSON
throughout, only the part with the fields needs to be. -/
def read (text : String) : Except ConfigError ProviderConfig :=
  match Json.read? text with
  | some j => (decode j).mapError .malformed
  | none =>
      match Json.readSelected? (.ofFields fields) text with
      | some j => (decode j).mapError fun _ => .notJson
      | none => .error .notJson

/-- The valid configuration in a text. -/
def ofText (text : String) : Except ConfigError ProviderConfig := do
  let c ← read text
  c.validate
  .ok c

/-- The settings of enumerations whose query says nothing else. -/
def settings (c : ProviderConfig) : CursorSettings :=
  ⟨c.defaultPageSize.map UInt32.toNat, c.autoPaginate⟩

end ProviderConfig

end Keyscan
