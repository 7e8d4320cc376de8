import GpuSched.Numeral

/-!
# Memory faults

The hardware latches four words for a memory fault: the instance pointer of the context, the two
halves of the address, and a word that holds the kind of fault and the client that caused it.
-/
namespace GpuSched

/-- The latched words of a fault. -/
structure FaultWords where
  inst : UInt32 := 0
  addressLow : UInt32 := 0
  addressHigh : UInt32 := 0
  info : UInt32 := 0
  deriving DecidableEq, Repr, Inhabited

/-- A decoded memory fault. -/
structure MemoryFault where
  /-- The number of the unit that reported the fault. -/
  faultId : Nat
  /-- Instance pointer of the context. -/
  inst : UInt32
  address : Nat
  kind : UInt32
  write : Bool
  client : UInt32
  /-- The access came from a graphics cluster, not from the front end of the engine. -/
  fromCluster : Bool
  deriving DecidableEq, Repr

namespace MemoryFault

/-- The bit of the info word that marks a write. -/
def writeBit : UInt32 := 0x80

/-- The bit of the info word that marks a graphics cluster. -/
def clusterBit : UInt32 := 0x1000000

/-- The fault that four latched words describe. -/
def decode (faultId : Nat) (words : FaultWords) : MemoryFault where
  faultId
  inst := words.inst
  address := words.addressHigh.toNat * 0x100000000 + words.addressLow.toNat
  kind := words.info &&& 0xf
  write := words.info &&& writeBit != 0
  client := (words.info >>> 8) &&& 0x3f
  fromCluster := words.info &&& clusterBit != 0

/-- The text of a fault. -/
def message (fault : MemoryFault) : String :=
  "id " ++ toString fault.faultId ++ (if fault.write then " write" else " read") ++ " at " ++
    Numeral.hex fault.address ++ " type " ++ toString fault.kind ++ " client " ++
    toString fault.client ++ (if fault.fromCluster then " (gpc)" else "") ++ " inst " ++
    Numeral.hex fault.inst.toNat

end MemoryFault

end GpuSched
