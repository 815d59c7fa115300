import Keyscan.Compiled.Basic

/-!
The cache of compiled queries, by the keys of their models. Entries stay for ever.
-/

set_option autoImplicit false

namespace Keyscan

/-- The queries compiled so far, the latest first, and two counters. -/
structure CompiledCache where
  entries : List (String × CompiledQuery)
  compilations : Nat
  hits : Nat

namespace CompiledCache

def empty : CompiledCache := ⟨[], 0, 0⟩

def size (c : CompiledCache) : Nat := c.entries.length

/-- The query under a key. -/
def get? (c : CompiledCache) (key : String) : Option CompiledQuery := c.entries.lookup key

/-- The query under a key, which must have been compiled before. -/
def require (c : CompiledCache) (key : String) : Except CompilerError CompiledQuery :=
  match c.get? key with
  | some q => .ok q
  | none => .error (.notCompiled key)

/-- The answer to a lookup that compiles what is not there: the query, and whether it was there. -/
structure Lookup where
  query : CompiledQuery
  hit : Bool

/-- The query under a model's key, compiled now if there is none yet. -/
def getOrCompile (c : CompiledCache) (m : QueryModel) :
    Except CompilerError Lookup × CompiledCache :=
  match c.get? m.key with
  | some q => (.ok ⟨q, true⟩, { c with hits := c.hits + 1 })
  | none =>
      match CompiledQuery.ofModel m with
      | .error e => (.error e, c)
      | .ok q =>
          (.ok ⟨q, false⟩,
            { c with entries := (m.key, q) :: c.entries, compilations := c.compilations + 1 })

end CompiledCache

end Keyscan
