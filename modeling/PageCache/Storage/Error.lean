import PageCache.FileSystem.Error
import PageCache.Key
import PageCache.Page

/-!
# Failures of files of pages
-/

namespace PageCache

/-- Why a file of pages refused a request. -/
inductive BackingError where
  /-- The file has no such page. -/
  | pageNotFound (key : PageKey)
  /-- The bytes for a page are too few or too many. -/
  | badPageSize (page length expected : Nat)
  /-- The file system refused. -/
  | system (cause : FileSystemError)
deriving DecidableEq, Repr

/-- The wording of a failure. -/
def BackingError.message : BackingError → String
  | pageNotFound key => s!"storage error: page {key.page} not found in file {key.file}"
  | badPageSize page length expected =>
    s!"storage error: page {page} has {length} bytes, expected {expected}"
  | system cause => s!"storage IO error: {cause.message}"

/-- The page with the given bytes, or the reason why there is none. -/
def Page.ofBytes (number : Nat) (bytes : Runs) : Except BackingError Page :=
  match PageData.ofRuns? bytes with
  | some data => .ok ⟨number, data⟩
  | none => .error (.badPageSize number bytes.size pageSize)

end PageCache
