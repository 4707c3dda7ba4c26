/-
  Horizon.Region
  ──────────────
  **THE PHYSICAL MEMORY REGIONS.**
-/
namespace Horizon

/-- A region of physical memory, or all of them together. -/
inductive MemRegion where
  | all
  | application
  | system
  | base
  deriving Repr, DecidableEq, Inhabited

namespace MemRegion

/-- The three regions proper, in the order of the configuration memory. -/
def concrete : List MemRegion := [.application, .system, .base]

/-- All regions together and then each of them. -/
def overview : List MemRegion := .all :: concrete

/-- The number that selects the region. -/
def raw : MemRegion → UInt32
  | .all => 0
  | .application => 1
  | .system => 2
  | .base => 3

/-- The region that a number selects. -/
def ofRaw? (n : UInt32) : Option MemRegion :=
  if n = 0 then some .all
  else if n = 1 then some .application
  else if n = 2 then some .system
  else if n = 3 then some .base
  else none

/-- The region's name. -/
def text : MemRegion → String
  | .all => "all"
  | .application => "application"
  | .system => "system"
  | .base => "base"

end MemRegion

/-- A byte count for each of the three regions. -/
structure RegionBytes where
  /-- Of the application region. -/
  application : UInt32 := 0
  /-- Of the system region. -/
  system : UInt32 := 0
  /-- Of the base region. -/
  base : UInt32 := 0
  deriving Repr, DecidableEq, Inhabited

/-- The count for a region; for all of them the sum, in word arithmetic. -/
def RegionBytes.count (bytes : RegionBytes) : MemRegion → UInt32
  | .all => bytes.application + bytes.system + bytes.base
  | .application => bytes.application
  | .system => bytes.system
  | .base => bytes.base

end Horizon
