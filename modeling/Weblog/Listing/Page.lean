import Weblog.Json.Value
/-!
# Pages

* `PageMeta`: how many items a listing has and which page of it is shown.
* `pageOf`: **one page of a listing**. Pages are counted from 1; a page number or size of 0 counts
  as 1.
* `saturatingMul`: where a page begins; a beginning beyond all numbers of 64 bits is the last one.
-/

namespace Weblog.Listing

/-- How many items a listing has, and which page of it is shown. -/
structure PageMeta where
  total : Nat
  page : Nat
  size : Nat
  pageCount : Nat
  deriving DecidableEq

/-- How many pages of a size the items fill, the last one possibly in part. -/
def pageCount (total size : Nat) : Nat :=
  total / size + if total % size = 0 then 0 else 1

/-- The product of two numbers, or the greatest number if the product is greater. -/
def saturatingMul (a b : UInt64) : UInt64 :=
  if a.toNat * b.toNat < UInt64.size then a * b else .ofNat (UInt64.size - 1)

/-- One page of a listing, and where it lies. -/
def pageOf {α : Type} (items : List α) (page size : UInt64) : List α × PageMeta :=
  let page := max page 1
  let size := max size 1
  let start := saturatingMul (page - 1) size
  ((items.drop start.toNat).take size.toNat,
    ⟨items.length, page.toNat, size.toNat, pageCount items.length size.toNat⟩)

def PageMeta.toJson (m : PageMeta) : Json :=
  .object [
    ("total", .ofNat m.total),
    ("pagina", .ofNat m.page),
    ("limite", .ofNat m.size),
    ("paginasTotal", .ofNat m.pageCount)]

/-- The size of a page unless another one is asked for. -/
def defaultSize : UInt64 := 10

end Weblog.Listing
