/-!
Query expressions as their writers state them: a scan of one entity with operations applied on top of
each other. Which of them can be carried out is decided in Query.Translation.
-/

set_option autoImplicit false

namespace Keyscan

/-- Options of a query; what is not set is left to others. -/
structure QueryOptions where
  pageSize : Option Nat
  autoPaginate : Option Bool
  deriving DecidableEq, Repr

namespace QueryOptions

/-- No option is set. -/
def unset : QueryOptions := ⟨none, none⟩

/-- Options with others laid over them, which win where they are set. -/
def overlaid (inner outer : QueryOptions) : QueryOptions :=
  ⟨outer.pageSize.or inner.pageSize, outer.autoPaginate.or inner.autoPaginate⟩

end QueryOptions

/-- A scan, or an operation on another expression. -/
inductive QueryExpression where
  | scan (entity : String)
  | filter (source : QueryExpression) (predicate : String)
  | project (source : QueryExpression) (properties : List String)
  | orderBy (source : QueryExpression) (property : String) (descending : Bool)
  | join (source other : QueryExpression) (on : String)
  | groupBy (source : QueryExpression) (key : String)
  | aggregate (source : QueryExpression) (function : String)
  | take (source : QueryExpression) (count : Nat)
  | skip (source : QueryExpression) (count : Nat)
  | distinct (source : QueryExpression)
  | configure (source : QueryExpression) (options : QueryOptions)
  deriving DecidableEq, Repr

namespace QueryExpression

/-- What the outermost operation is called in messages. -/
def constructName : QueryExpression → String
  | .scan _ => "scan"
  | .filter _ _ => "filter"
  | .project _ _ => "projection"
  | .orderBy _ _ _ => "ordering"
  | .join _ _ _ => "join"
  | .groupBy _ _ => "grouping"
  | .aggregate _ _ => "aggregation"
  | .take _ _ => "limit"
  | .skip _ _ => "offset"
  | .distinct _ => "distinct"
  | .configure _ _ => "configure"

/-- The expression that the outermost operation is applied to. Of a join it is the left one. -/
def source? : QueryExpression → Option QueryExpression
  | .scan _ => none
  | .filter source _ | .project source _ | .orderBy source _ _ | .join source _ _
  | .groupBy source _ | .aggregate source _ | .take source _ | .skip source _
  | .distinct source | .configure source _ => some source

/-- The entity that is scanned at the end of the source chain. -/
def rootEntity : QueryExpression → String
  | .scan entity => entity
  | .filter source _ | .project source _ | .orderBy source _ _ | .join source _ _
  | .groupBy source _ | .aggregate source _ | .take source _ | .skip source _
  | .distinct source | .configure source _ => source.rootEntity

/-- The expression as a chain of calls. Options do not show. -/
def display : QueryExpression → String
  | .scan entity => s!"scan({entity})"
  | .filter source predicate => s!"{source.display}.filter({predicate})"
  | .project source properties =>
      source.display ++ ".select(" ++ ", ".intercalate properties ++ ")"
  | .orderBy source property descending =>
      source.display ++ s!".order_by({property} " ++ (if descending then "desc)" else "asc)")
  | .join source other on => s!"{source.display}.join({other.display} on {on})"
  | .groupBy source key => s!"{source.display}.group_by({key})"
  | .aggregate source function => s!"{source.display}.aggregate({function})"
  | .take source count => s!"{source.display}.take({count})"
  | .skip source count => s!"{source.display}.skip({count})"
  | .distinct source => s!"{source.display}.distinct()"
  | .configure source _ => source.display

/-- Overrides the page size. -/
def withPageSize (e : QueryExpression) (size : Nat) : QueryExpression :=
  .configure e ⟨some size, none⟩

/-- Leaves out all pages but the first. -/
def withoutPagination (e : QueryExpression) : QueryExpression :=
  .configure e ⟨none, some false⟩

end QueryExpression

end Keyscan
