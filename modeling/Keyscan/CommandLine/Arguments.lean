import Keyscan.Number.Literal
import Keyscan.Query.Expression

/-!
Arguments of the command line. They are taken from left to right, and the first fault is reported;
only what is required and missing is found at the end.

A value is judged when the next option comes, or at the end, and not before. So an argument that is
unknown is reported in place of a bad value just before it.
-/

set_option autoImplicit false

namespace Keyscan.CommandLine

/-- What every command takes. -/
structure QueryArguments where
  config : String
  entity : String
  pageSize : Option Nat
  noPaginate : Bool
  deriving DecidableEq, Repr

/-- What the program is asked to do. -/
inductive Command where
  /-- Prints the statement and the bindings of a scan. -/
  | compile (arguments : QueryArguments)
  /-- Prints what a scan compiles to. -/
  | explain (arguments : QueryArguments)
  /-- Runs a scan over the tables in a file. -/
  | query (arguments : QueryArguments) (data : String) (resume : Option String)
  deriving DecidableEq, Repr

/-- The files that a command reads. -/
def Command.paths : Command → List String
  | .compile a | .explain a => [a.config]
  | .query a data _ => [a.config, data]

/-- Why arguments make no command: a fault, or a question that is answered instead. -/
inductive UsageError where
  | help
  | version
  | noArguments
  | invalidCommand
  | missingRequired
  | unknownArgument
  | invalidNumber
  | missingValue
  | unexpectedValue
  | repeated
  deriving DecidableEq, Repr

/-- The scan that the arguments describe. -/
def QueryArguments.expression (a : QueryArguments) : QueryExpression :=
  let scan := QueryExpression.scan a.entity
  let sized := a.pageSize.elim scan scan.withPageSize
  if a.noPaginate then sized.withoutPagination else sized

/-! ### Options -/

/-- The names that a command can have. -/
inductive CommandName where
  | compile
  | explain
  | query
  deriving DecidableEq, Repr

/-- The command with a name, which is matched exactly. -/
def CommandName.ofText? (s : String) : Option CommandName :=
  if s = "compile" then some .compile
  else if s = "explain" then some .explain
  else if s = "query" then some .query
  else none

/-- The options that take a value. -/
inductive ValueOption where
  | config
  | entity
  | pageSize
  | data
  | resume
  deriving DecidableEq, Repr

/-- The option with a name, among those of a command. -/
def ValueOption.ofName? (command : CommandName) (name : String) : Option ValueOption :=
  if name = "config" then some .config
  else if name = "entity" then some .entity
  else if name = "page-size" then some .pageSize
  else if name = "data" ∧ command = .query then some .data
  else if name = "resume" ∧ command = .query then some .resume
  else none

/-- What has been given so far. -/
structure Given where
  config : Option String
  entity : Option String
  pageSize : Option Nat
  noPaginate : Bool
  data : Option String
  resume : Option String
  /-- The last option, whose value is still to come or still to be judged. -/
  pending : Option (ValueOption × Option String)
  deriving DecidableEq, Repr

namespace Given

/-- No option has been given. -/
def nothing : Given := ⟨none, none, none, false, none, none, none⟩

/-- A text that names a file, which cannot be empty. -/
def fileName (value : String) : Except UsageError String :=
  if value = "" then .error .missingValue else .ok value

/-- A natural number of 32 bits. -/
def number (value : String) : Except UsageError Nat :=
  match readInteger (-9223372036854775808) 9223372036854775807 value.toList with
  | .ok n => if 0 ≤ n ∧ n < 4294967296 then .ok n.toNat else .error .invalidNumber
  | .error _ => .error .invalidNumber

/-- Takes the value of an option, which cannot have been given before. -/
def take (g : Given) (option : ValueOption) (value : String) : Except UsageError Given :=
  match option with
  | .config =>
      if g.config.isSome then .error .repeated
      else (fileName value).map fun v => { g with config := some v }
  | .entity => if g.entity.isSome then .error .repeated else .ok { g with entity := some value }
  | .pageSize =>
      if g.pageSize.isSome then .error .repeated
      else (number value).map fun v => { g with pageSize := some v }
  | .data =>
      if g.data.isSome then .error .repeated
      else (fileName value).map fun v => { g with data := some v }
  | .resume => if g.resume.isSome then .error .repeated else .ok { g with resume := some value }

/-- Judges the value of the last option. -/
def settle (g : Given) : Except UsageError Given :=
  match g.pending with
  | none => .ok g
  | some (_, none) => .error .missingValue
  | some (option, some value) => { g with pending := none }.take option value

/-- Takes an argument that is no option: the value of the last one, when that is still to come. -/
def takeValue (g : Given) (value : String) : Except UsageError Given :=
  match g.pending with
  | some (option, none) => .ok { g with pending := some (option, some value) }
  | _ => .error .unknownArgument

/-- Takes an option by the name behind its two hyphens, with a value attached or not. -/
def takeOption (command : CommandName) (g : Given) (name : String) (attached : Option String) :
    Except UsageError Given :=
  match ValueOption.ofName? command name, attached with
  | some option, some value => do
      let g ← g.settle
      g.take option value
  | some option, none => do
      let g ← g.settle
      .ok { g with pending := some (option, none) }
  | none, attached =>
      if name = "no-paginate" ∨ name = "help" then
        if attached.isSome then .error .unexpectedValue
        else do
          let g ← g.settle
          if name = "help" then .error .help
          else if g.noPaginate then .error .repeated
          else .ok { g with noPaginate := true }
      else .error .unknownArgument

/-- The command with all that it requires. -/
def toCommand (command : CommandName) (g : Given) : Except UsageError Command :=
  match g.entity with
  | none => .error .missingRequired
  | some entity =>
      let arguments : QueryArguments :=
        ⟨g.config.getD "./aeroquery.json", entity, g.pageSize, g.noPaginate⟩
      match command, g.data with
      | .compile, _ => .ok (.compile arguments)
      | .explain, _ => .ok (.explain arguments)
      | .query, some data => .ok (.query arguments data g.resume)
      | .query, none => .error .missingRequired

end Given

/-- An argument by its form. -/
inductive Form where
  /-- Two hyphens alone. -/
  | escape
  /-- A name behind two hyphens, with a value attached or not. -/
  | long (name : String) (attached : Option String)
  /-- Letters behind one hyphen. -/
  | short (first : Char)
  | plain
  deriving DecidableEq, Repr

/-- The form of an argument. A lone hyphen is a plain one. -/
def Form.of (argument : String) : Form :=
  match argument.toList with
  | ['-', '-'] => .escape
  | '-' :: '-' :: rest =>
      let name := String.ofList (rest.takeWhile (· != '='))
      match rest.dropWhile (· != '=') with
      | [] => .long name none
      | _ :: value => .long name (some (String.ofList value))
  | '-' :: first :: _ => .short first
  | _ => .plain

/-- Takes the arguments behind a command's name. -/
def takeArguments (command : CommandName) : Given → List String → Except UsageError Given
  | g, [] => g.settle
  | g, argument :: rest =>
      match Form.of argument with
      | .escape => if rest.isEmpty then g.settle else .error .unknownArgument
      | .long name attached => do
          let g ← g.takeOption command name attached
          takeArguments command g rest
      | .short first =>
          if first = 'h' then do
            let _ ← g.settle
            .error .help
          else .error .unknownArgument
      | .plain => do
          let g ← g.takeValue argument
          takeArguments command g rest

/-- The command that asks for help names one command at most. -/
def helpFor : List String → UsageError
  | [] => .help
  | [name] => if (CommandName.ofText? name).isSome ∨ name = "help" then .help else .invalidCommand
  | _ => .invalidCommand

/-- The command that the arguments make. -/
def parse (arguments : List String) : Except UsageError Command :=
  match arguments with
  | [] => .error .noArguments
  | first :: rest =>
      match Form.of first with
      | .escape =>
          match rest with
          | [] => .error .noArguments
          | name :: _ =>
              if (CommandName.ofText? name).isSome ∨ name = "help" then .error .unknownArgument
              else .error .invalidCommand
      | .long name attached =>
          if name = "help" ∨ name = "version" then
            if attached.isSome then .error .unexpectedValue
            else .error (if name = "help" then .help else .version)
          else .error .unknownArgument
      | .short letter =>
          if letter = 'h' then .error .help
          else if letter = 'V' then .error .version
          else .error .unknownArgument
      | .plain =>
          match CommandName.ofText? first with
          | some command => do
              let g ← takeArguments command .nothing rest
              g.toCommand command
          | none => if first = "help" then .error (helpFor rest) else .error .invalidCommand

end Keyscan.CommandLine
