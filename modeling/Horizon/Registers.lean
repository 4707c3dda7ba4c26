/-
  Horizon.Registers
  ─────────────────
  **THE TWO PAGES THAT THE KERNEL SHOWS EVERY PROCESS.**

      0x1FF80000  configuration memory   versions, sizes of the memory regions
      0x1FF81000  shared page            date and time, Wi-Fi, 3D slider
-/
import Horizon.Bus
import Horizon.Region
import Horizon.Version

namespace Horizon

open Binary (Single)

namespace Registers

/-! ## §1. Addresses. -/

/-- The configuration memory. -/
def configMemory : UInt32 := 0x1FF80000
/-- The shared page. -/
def sharedPage : UInt32 := 0x1FF81000
/-- The size of each of the two pages. -/
def pageSize : UInt32 := 0x1000

/-- The packed kernel version. -/
def kernelVersionAt : UInt32 := 0x1FF80000
/-- The core version. -/
def coreVersionAt : UInt32 := 0x1FF80010
/-- The number of the application memory layout. -/
def appMemTypeAt : UInt32 := 0x1FF80030
/-- The size of the application region; system and base follow. -/
def regionSizesAt : UInt32 := 0x1FF80040
/-- The packed firmware version. -/
def firmVersionAt : UInt32 := 0x1FF80060

/-- The count of date and time updates; its lowest bit selects the active record. -/
def selectorAt : UInt32 := 0x1FF81000
/-- The record that an even count selects. -/
def evenRecordAt : UInt32 := 0x1FF81020
/-- The record that an odd count selects. -/
def oddRecordAt : UInt32 := 0x1FF81040
/-- The byte with the strength of the wireless signal. -/
def wifiStrengthAt : UInt32 := 0x1FF81066
/-- The position of the 3D slider. -/
def sliderAt : UInt32 := 0x1FF81080

end Registers

/-! ## §2. Named reads. -/

namespace Bus

open Registers

/-- The firmware version; its low byte means nothing and is cleared. -/
def firmVersion (bus : Bus) : UInt32 := bus.word firmVersionAt &&& ~~~0xFF

/-- The kernel version; its low byte means nothing and is cleared. -/
def kernelVersion (bus : Bus) : UInt32 := bus.word kernelVersionAt &&& ~~~0xFF

/-- The firmware version with its components. -/
def firm (bus : Bus) : SystemVersion := ⟨bus.firmVersion⟩

/-- The kernel version with its components. -/
def kernel (bus : Bus) : SystemVersion := ⟨bus.kernelVersion⟩

/-- The core version: 2 in normal operation, 3 in safe mode. -/
def coreVersion (bus : Bus) : UInt32 := bus.word coreVersionAt

/-- The number of the application memory layout. -/
def appMemType (bus : Bus) : UInt32 := bus.word appMemTypeAt

/-- The sizes of the three memory regions. -/
def regionSizes (bus : Bus) : RegionBytes where
  application := bus.word regionSizesAt
  system := bus.word (regionSizesAt + 4)
  base := bus.word (regionSizesAt + 8)

/-- The size of a memory region. -/
def regionSize (bus : Bus) (region : MemRegion) : UInt32 := bus.regionSizes.count region

/-- The strength of the wireless signal, in bars. -/
def wifiStrength (bus : Bus) : UInt8 := bus.byte wifiStrengthAt

/-- The position of the 3D slider. -/
def slider3d (bus : Bus) : Single := bus.single sliderAt

/-- The count of date and time updates. -/
def selector (bus : Bus) : UInt32 := bus.word selectorAt

end Bus

end Horizon
