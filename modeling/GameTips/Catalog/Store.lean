import GameTips.Catalog.Basic

/-!
# The store of catalogs

A store holds the catalog in use. Installing another one leaves every catalog that was taken from the
store before as it is. Two catalogs from a store are the same one exactly when they were installed by
the same act, whatever they hold.
-/

namespace GameTips

/-- A catalog with the number of the act that installed it. -/
structure Snapshot where
  version : Nat
  catalog : Catalog

/-- The catalog in use. -/
structure CatalogStore where
  current : Snapshot

namespace CatalogStore

def new (c : Catalog) : CatalogStore := ⟨⟨0, c⟩⟩

/-- The store with another catalog. The one it takes the place of is `current` of the old store. -/
def install (s : CatalogStore) (c : Catalog) : CatalogStore :=
  ⟨⟨s.current.version + 1, c⟩⟩

/-- Whether a snapshot is the catalog in use. -/
def isCurrent (s : CatalogStore) (x : Snapshot) : Bool :=
  s.current.version == x.version

end CatalogStore
end GameTips
