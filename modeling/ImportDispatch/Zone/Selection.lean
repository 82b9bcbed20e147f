import ImportDispatch.Zone.Names
import ImportDispatch.Zone.Table
/-!
# A selection of zones

A database that comes with the program: the zones of the table under the names that clients use most.  The list is in
order of the characters of the names.
-/
namespace ImportDispatch

/-- A zone that is so many whole hours ahead of UTC. -/
def Zone.hours (ahead : Int) : Zone := .fixed (ahead * 3600)

/-- The zones by name.  The names of the form `Etc/GMT+5` count hours behind UTC. -/
def zonesByName : List (String × Zone) := [
  ("America/Adak", ZoneTable.adak), ("America/Anchorage", ZoneTable.anchorage), ("America/Chicago", ZoneTable.chicago),
  ("America/Denver", ZoneTable.denver), ("America/Detroit", ZoneTable.detroit),
  ("America/Indiana/Indianapolis", ZoneTable.indianapolis), ("America/Indiana/Knox", ZoneTable.knox),
  ("America/Los_Angeles", ZoneTable.losAngeles), ("America/New_York", ZoneTable.newYork),
  ("America/Phoenix", ZoneTable.phoenix), ("America/Sao_Paulo", ZoneTable.saoPaulo),
  ("Asia/Kathmandu", ZoneTable.kathmandu), ("Asia/Tokyo", ZoneTable.tokyo),
  ("Australia/Lord_Howe", ZoneTable.lordHowe),
  ("Etc/GMT", .hours 0), ("Etc/GMT+0", .hours 0), ("Etc/GMT+1", .hours (-1)), ("Etc/GMT+10", .hours (-10)),
  ("Etc/GMT+11", .hours (-11)), ("Etc/GMT+12", .hours (-12)), ("Etc/GMT+2", .hours (-2)), ("Etc/GMT+3", .hours (-3)),
  ("Etc/GMT+4", .hours (-4)), ("Etc/GMT+5", .hours (-5)), ("Etc/GMT+6", .hours (-6)), ("Etc/GMT+7", .hours (-7)),
  ("Etc/GMT+8", .hours (-8)), ("Etc/GMT+9", .hours (-9)), ("Etc/GMT-0", .hours 0), ("Etc/GMT-1", .hours 1),
  ("Etc/GMT-10", .hours 10), ("Etc/GMT-11", .hours 11), ("Etc/GMT-12", .hours 12), ("Etc/GMT-13", .hours 13),
  ("Etc/GMT-14", .hours 14), ("Etc/GMT-2", .hours 2), ("Etc/GMT-3", .hours 3), ("Etc/GMT-4", .hours 4),
  ("Etc/GMT-5", .hours 5), ("Etc/GMT-6", .hours 6), ("Etc/GMT-7", .hours 7), ("Etc/GMT-8", .hours 8),
  ("Etc/GMT-9", .hours 9), ("Etc/GMT0", .hours 0), ("Etc/UTC", .hours 0), ("Europe/Dublin", ZoneTable.dublin),
  ("Europe/Warsaw", ZoneTable.warsaw), ("GMT", .hours 0), ("GMT+0", .hours 0), ("GMT-0", .hours 0),
  ("GMT0", .hours 0), ("Pacific/Apia", ZoneTable.apia), ("Pacific/Honolulu", ZoneTable.honolulu),
  ("Pacific/Pago_Pago", ZoneTable.pagoPago), ("US/Alaska", ZoneTable.anchorage), ("US/Aleutian", ZoneTable.adak),
  ("US/Arizona", ZoneTable.phoenix), ("US/Central", ZoneTable.chicago), ("US/East-Indiana", ZoneTable.indianapolis),
  ("US/Eastern", ZoneTable.newYork), ("US/Hawaii", ZoneTable.honolulu), ("US/Indiana-Starke", ZoneTable.knox),
  ("US/Michigan", ZoneTable.detroit), ("US/Mountain", ZoneTable.denver), ("US/Pacific", ZoneTable.losAngeles),
  ("US/Samoa", ZoneTable.pagoPago), ("UTC", .hours 0)]

/-- From the year 2100 on the clocks of the selected zones do not change. -/
theorem steady_of_selected : ∀ named ∈ zonesByName, named.2.isSteady ∧
    named.2.changes.all (·.1 < 4102444800) = true ∧ (0 ≤ named.2.settled ∨ named.2.settled ≤ -3600) := by
  decide +kernel

theorem regular_of_selected : ∀ named ∈ zonesByName, named.2.IsRegular := by
  have hlast : 4102444800 + 86400 ≤ Day.last * 86400 := by decide
  intro named hmem
  obtain ⟨steady, settles, west⟩ := steady_of_selected named hmem
  refine ⟨steady, fun change hchange => ?_, west⟩
  have : change.1 < 4102444800 := by simpa using List.all_eq_true.1 settles change hchange
  omega

instance selectedZones : ZoneDatabase where
  zones := zonesByName.map fun named => (named.1.toList, named.2)
  regular := List.forall_mem_map.2 regular_of_selected

end ImportDispatch
