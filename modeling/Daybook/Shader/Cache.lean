import Daybook.NameMap
import Daybook.Shader.Basic

/-!
# Shader results kept for later

The records of a text under a named shader are worked out once and kept. The cache counts how often
they were found and how often they had to be worked out. A name that no shader has leaves it as it
was.
-/

namespace Daybook.Shader

open Daybook.Pattern

/-- Shaders by name. -/
abbrev Shaders : Type :=
  NameMap Literal

/-- What was asked for: the name of a shader, and a text. -/
structure Request where
  name : String
  input : String
deriving DecidableEq, Repr

/-- Records kept under the requests that led to them, each request once, with the counts of how
often they were found and how often not. -/
structure Cache where
  kept : List (Request × List Record)
  hits : Nat
  misses : Nat
deriving DecidableEq, Repr

namespace Cache

/-- The cache before the first request. -/
def empty : Cache :=
  ⟨[], 0, 0⟩

/-- What is kept under a request. -/
def find? (c : Cache) (r : Request) : Option (List Record) :=
  (c.kept.find? (·.1 == r)).map (·.2)

/-- The number of requests under which something is kept. -/
def size (c : Cache) : Nat :=
  c.kept.length

end Cache

/-- A computation that may ask shaders, and so fills a cache. -/
abbrev Cached (α : Type) : Type :=
  StateM Cache α

/-- The records of a text under a known shader, from the cache if they are kept there. -/
def ask (l : Literal) (r : Request) : Cached (List Record) :=
  fun c =>
    match c.find? r with
    | some records => (records, { c with hits := c.hits + 1 })
    | none =>
      let records := run l r.input
      (records, { c with kept := (r, records) :: c.kept, misses := c.misses + 1 })

/-- The records of a text under the shader of a name, if there is one. -/
def matches? (shaders : Shaders) (name input : String) : Cached (Option (List Record)) :=
  match shaders.get? name with
  | none => pure none
  | some l => some <$> ask l ⟨name, input⟩

/-- A group of one of the records of a text under the shader of a name. -/
def extract? (shaders : Shaders) (name input : String) (index group : Nat) :
    Cached (Option String) := do
  let records ← matches? shaders name input
  return records.bind (fun records => records[index]?.bind (·.group? group))

end Daybook.Shader
