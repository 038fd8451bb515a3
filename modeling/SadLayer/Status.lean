/-! The status codes every SadLayer component reports. -/
namespace SadLayer

/-- `sl_status`, in the order `error.h` declares it. -/
inductive Status where
  | ok
  | invalidArgument
  | io
  | outOfMemory
  | truncatedFile
  | badDosSignature
  | badPeSignature
  | unsupportedMachine
  | unsupportedOptionalHeader
  | invalidImage
  | rvaNotMapped
  | exportNotFound
  | moduleNotFound
  | duplicateModule
  | moduleRegistryFull
  | invalidForwarder
  | forwarderLimit
  | addressOutOfRange
  | invalidEncoding
  | bufferTooSmall
  | relocationRequired
  | unsupportedRelocation
  | memoryMapping
  | memoryProtection
  | wxConflict
  | invalidState
  | processCreation
  | threadEnvironment
  | workerProtocol
  | handleNotFound
  | handleTypeMismatch
  | handleTableFull
  | notImplemented
  deriving DecidableEq, Repr

/-- `UINT32_MAX`. -/
def uint32Max : Nat := 4294967295

/-- `UINT64_MAX`, which is also `SIZE_MAX` and `UINTPTR_MAX` on the host. -/
def uint64Max : Nat := 18446744073709551615

end SadLayer
