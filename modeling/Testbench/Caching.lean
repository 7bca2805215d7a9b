import Testbench.World

/-!
# Caching — the parse cache of a running workspace

The tables of the workspace's cache are kept in the files of its world.

- `Caching.lookUp`, `keep`            : documents;
- `Caching.flush`, `flushRoot`, `evict` : writing tables out.
-/

namespace Testbench
namespace Caching

open Outline (Document)

/-- The document of a key, if it was parsed at the given time. -/
def lookUp (root : Path) (key : String) (modified : Nat) : Act (Option Document) := do
  let w ← get
  let (document, cache) := w.cache.lookup Cache.onFiles w.files root key modified
  set { w with cache := cache }
  pure document

/-- Keep a document that was parsed at the given time. -/
def keep (root : Path) (key : String) (modified : Nat) (document : Document) : Act Unit :=
  modify fun w =>
    { w with cache := w.cache.put Cache.onFiles w.files root key modified document }

/-- Write out every dirty table; tells how many were written. -/
def flush : Act Nat := do
  let w ← get
  let (count, cache, files) := w.cache.flushAll Cache.onFiles w.files
  set { w with cache := cache, files := files }
  pure count

/-- Write out the table of one folder if it is dirty; tells whether it was written. -/
def flushRoot (root : Path) : Act Bool := do
  let w ← get
  let (written, cache, files) := w.cache.flushRoot Cache.onFiles w.files root
  set { w with cache := cache, files := files }
  pure written

/-- Write out the table of one folder and forget it. -/
def evict (root : Path) : Act Unit := modify fun w =>
  let (cache, files) := w.cache.evict Cache.onFiles w.files root
  { w with cache := cache, files := files }

end Caching
end Testbench
