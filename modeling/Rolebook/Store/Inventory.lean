/-!
# Inventory

The numbers of permissions and roles, as a store makes them known when they change.
-/

namespace Rolebook.Store

/-- The number of permissions and of roles in a store. -/
structure Inventory where
  permissions : Nat
  roles : Nat
deriving DecidableEq, Repr

end Rolebook.Store
