import XmlAudit.Files.Tree

/-!
# Compiled files

Compiling is costly, so what a file was compiled to is kept under the place of the file. Failures
are not kept: the next request compiles again.

* `CompiledCache.keyOf`: the place under which a file is kept.
* `CompiledCache.get`: the compiled form of a file, compiled if it is not kept.
-/

namespace XmlAudit.Artifact

open Files (Path FileTree Component)

/-- What files were compiled to, by their place; a disabled cache keeps nothing. -/
structure CompiledCache (α : Type) where
  disabled : Bool
  kept : List (List Component × α)

namespace CompiledCache

/-- The cache that keeps nothing yet. -/
def empty (disabled : Bool) : CompiledCache α := ⟨disabled, []⟩

/-- The path of the place that a path leads to, or the path itself if it leads nowhere. -/
def keyOf (t : FileTree) (source : Path) : Path :=
  match t.canonical source with
  | .ok p => p
  | .error _ => source

variable (c : CompiledCache α) (t : FileTree) (source : Path)

/-- The compiled form of a file, if it is kept. -/
def find? : Option α := c.kept.lookup (keyOf t source).components

/-- Whether the compiled form of a file is kept. -/
def contains : Bool := (c.find? t source).isSome

/-- How many files are kept in their compiled form. -/
def size : Nat := c.kept.length

/-- The cache with the compiled form of a file, unless it keeps nothing. -/
def keep (a : α) : CompiledCache α :=
  if c.disabled then c else { c with kept := ((keyOf t source).components, a) :: c.kept }

/-- **The compiled form of a file,** with the cache after it; compiling is given the path of its
place. -/
def get (compile : Path → Except ε α) : Except ε α × CompiledCache α :=
  match c.find? t source with
  | some a => (.ok a, c)
  | none =>
    match compile (keyOf t source) with
    | .ok a => (.ok a, c.keep t source a)
    | .error e => (.error e, c)

end CompiledCache

end XmlAudit.Artifact
