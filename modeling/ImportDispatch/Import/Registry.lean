import ImportDispatch.Text
/-!
# The driver registry

The databases that imports are enabled for, each with the drivers known for it.  A driver is recognised by a name that
occurs in the addresses it serves; the first one in the order of the registry wins.
-/
namespace ImportDispatch

/-- A driver: what marks its addresses, and its class. -/
structure Driver where
  name : Text
  className : Text
deriving DecidableEq, Repr

/-- A database and its drivers. -/
structure Database where
  name : Text
  drivers : List Driver := []
deriving DecidableEq, Repr

/-- The databases that imports are enabled for. -/
abbrev Registry := List Database

/-- The class of the first driver whose name occurs in the address. -/
def Registry.driverFor? (registry : Registry) (jdbcUri : Text) : Option Text :=
  ((registry.flatMap Database.drivers).find? fun driver => Text.occursIn driver.name jdbcUri).map Driver.className

end ImportDispatch
