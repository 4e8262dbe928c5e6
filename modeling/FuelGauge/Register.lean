/-!
The register map of the gauge. Standard commands are two-byte registers, low
byte at the lower address; the extended registers above them open a 32-byte
window on data flash.
-/

namespace FuelGauge

abbrev Register := UInt8

namespace Register

def controlLow : Register := 0x00
def controlHigh : Register := 0x01

/-- Selects the subclass of data flash. -/
def dataClass : Register := 0x3E
/-- Selects a 32-byte block of the subclass and brings it into the window. -/
def dataBlock : Register := 0x3F
/-- The first byte of the window. -/
def blockData : Register := 0x40
/-- Writing it commits the window to data flash. -/
def blockChecksum : Register := 0x60
/-- Writing zero enables access to the window. -/
def blockControl : Register := 0x61

end Register

/-- The seven-bit bus address a gauge leaves the factory with. -/
def factoryAddress : UInt8 := 0x55

/-- What the device-type query answers on a gauge of the supported kind. -/
def expectedDeviceType : UInt16 := 0x0520

/-- Nanoseconds the gauge needs between the two bytes of a control word, and
after the window was read. -/
def settleTime : Nat := 5000000

/-- Nanoseconds the gauge needs to reload data flash after a soft reset. -/
def resetTime : Nat := 100000000

end FuelGauge
