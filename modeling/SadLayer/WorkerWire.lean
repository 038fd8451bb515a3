import SadLayer.Library.Fields
import SadLayer.WorkerReports

/-! The bytes of a worker's record, as they go through the pipe. -/
namespace SadLayer.Runtime
open SadLayer.Library

/-- The widths of the members of `sl_runtime_wire_report`, which has no padding. -/
def wireWidths : List Nat := [4, 4, 4, 4, 4, 4, 4, 4, 4, 4, 4, 4, 8, 8, 8]

def wireValues (wire : WireReport) : List Nat := [
  wire.magic.toNat, wire.version.toNat, wire.size.toNat, wire.outcome.toNat,
  wire.workerStatus.toNat, wire.returnValue.toNat, wire.lastError.toNat, wire.processId.toNat,
  wire.exitCode.toUInt32.toNat, wire.signalNumber.toUInt32.toNat, wire.reportFlags.toNat,
  wire.signalCode.toUInt32.toNat, wire.faultAddress.toNat, wire.instructionPointer.toNat,
  wire.stackPointer.toNat]

/-- The object representation of a record. -/
def wireBytes (wire : WireReport) : List UInt8 := encodeFields (wireWidths.zip (wireValues wire))

def wireOf (values : List Nat) : WireReport where
  magic := .ofNat (values.getD 0 0)
  version := .ofNat (values.getD 1 0)
  size := .ofNat (values.getD 2 0)
  outcome := .ofNat (values.getD 3 0)
  workerStatus := .ofNat (values.getD 4 0)
  returnValue := .ofNat (values.getD 5 0)
  lastError := .ofNat (values.getD 6 0)
  processId := .ofNat (values.getD 7 0)
  exitCode := (UInt32.ofNat (values.getD 8 0)).toInt32
  signalNumber := (UInt32.ofNat (values.getD 9 0)).toInt32
  reportFlags := .ofNat (values.getD 10 0)
  signalCode := (UInt32.ofNat (values.getD 11 0)).toInt32
  faultAddress := .ofNat (values.getD 12 0)
  instructionPointer := .ofNat (values.getD 13 0)
  stackPointer := .ofNat (values.getD 14 0)

/-- The record whose first bytes were read, the rest of it still zero. -/
def readWire (bytes : List UInt8) : WireReport :=
  wireOf (decodeFields wireWidths (bytes ++ List.replicate (72 - bytes.length) 0))

theorem length_wire_bytes (wire : WireReport) : (wireBytes wire).length = 72 := by
  rw [wireBytes, length_encode_fields]
  simp [wireWidths, wireValues]

theorem read_wire_bytes (wire : WireReport) : readWire (wireBytes wire) = wire := by
  have fits : ∀ field ∈ wireWidths.zip (wireValues wire), field.2 < 256 ^ field.1 := by
    have narrow (word : UInt32) : word.toNat < 256 ^ 4 := word.toNat_lt
    have wide (word : UInt64) : word.toNat < 256 ^ 8 := word.toNat_lt
    simp only [wireWidths, wireValues, List.zip_cons_cons, List.zip_nil_right, List.forall_mem_cons,
      narrow, wide, true_and]
    simp
  have back : decodeFields wireWidths (wireBytes wire) = wireValues wire :=
    decode_encode_fields fits
  rw [readWire, length_wire_bytes, Nat.sub_self, List.replicate_zero, List.append_nil, back]
  simp [wireOf, wireValues]

end SadLayer.Runtime
