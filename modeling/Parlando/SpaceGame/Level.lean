namespace Parlando.SpaceGame

structure Position where
  x : Int
  y : Int
  deriving DecidableEq, Repr

/-- A room's name and its left, right, top and bottom cells. -/
def rooms : List (String × Int × Int × Int × Int) := [
  ("power", 1, 4, 1, 3),
  ("junction", 5, 7, 1, 3),
  ("oxygen", 8, 12, 1, 3),
  ("diagnostics", 1, 4, 5, 7),
  ("charger", 5, 7, 5, 7),
  ("valve", 8, 12, 5, 7),
  ("airlock", 5, 7, 8, 9),
  ("signal", 8, 12, 8, 9)]

/-- The cells between two rooms; some are listed for both, and the first counts. -/
def doorCells : List (String × Int × Int) := [
  ("junction", 6, 4),
  ("oxygen", 10, 4),
  ("diagnostics", 2, 4),
  ("charger", 6, 4),
  ("valve", 10, 4)]

def roomAtPosition (position : Position) : Option String :=
  let inside := rooms.find? fun (_, left, right, top, bottom) =>
    position.x ≥ left && position.x ≤ right && position.y ≥ top && position.y ≤ bottom
  match inside with
  | some (room, _) => some room
  | none => (doorCells.find? fun (_, x, y) => position.x == x && position.y == y).map Prod.fst

def isWalkable (position : Position) : Bool := (roomAtPosition position).isSome

def doors : List (Position × Position × String) := [
  (⟨4, 2⟩, ⟨5, 2⟩, "open"),
  (⟨7, 2⟩, ⟨8, 2⟩, "open"),
  (⟨6, 3⟩, ⟨6, 4⟩, "open"),
  (⟨6, 4⟩, ⟨6, 5⟩, "open"),
  (⟨10, 3⟩, ⟨10, 4⟩, "open"),
  (⟨10, 4⟩, ⟨10, 5⟩, "open"),
  (⟨7, 6⟩, ⟨8, 6⟩, "open"),
  (⟨6, 7⟩, ⟨6, 8⟩, "pressure"),
  (⟨10, 7⟩, ⟨10, 8⟩, "open"),
  (⟨7, 8⟩, ⟨8, 8⟩, "open"),
  (⟨2, 3⟩, ⟨2, 4⟩, "open"),
  (⟨2, 4⟩, ⟨2, 5⟩, "open")]

def doorKindForStep (source target : Position) : Option String :=
  (doors.find? fun (a, b, _) =>
    source == a && target == b || source == b && target == a).map fun (_, _, kind) => kind

def deviceCells : List (String × Int × Int) := [
  ("fuse-blue", 1, 1),
  ("fuse-yellow", 2, 1),
  ("fuse-red", 3, 1),
  ("breaker-main", 1, 3),
  ("breaker-aux", 2, 3),
  ("bypass", 5, 2),
  ("plate", 7, 2),
  ("charger", 5, 5),
  ("battery", 6, 6),
  ("valve-a", 8, 5),
  ("valve-c", 9, 5),
  ("valve-floodgate", 11, 5),
  ("relay", 9, 8),
  ("beacon", 6, 8)]

/-- The ids of the devices in a cell; the battery stands where it has been moved. -/
def devicesAtPosition (position : Position) (batteryLocation : String) : List String :=
  let placed := deviceCells.filter fun (id, x, y) =>
    position.x == x && position.y == y && (id != "battery" || batteryLocation == "charger")
  placed.map Prod.fst ++
    if batteryLocation = "signal" ∧ position.x = 8 ∧ position.y = 8 then ["battery"] else []

end Parlando.SpaceGame
