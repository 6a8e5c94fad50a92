import DeviceAtlas.Number

/-!
# Faults of a driver stack

Every call into a driver stack may fail with a code. The codes that are known have names; the
others are kept as they are.
-/

namespace DeviceAtlas.Stack

/-- The codes with a name that a Level Zero call can return. -/
inductive ResultCode where
  | success
  | notReady
  | deviceLost
  | outOfHostMemory
  | outOfDeviceMemory
  | moduleBuildFailure
  | insufficientPermissions
  | notAvailable
  | uninitialized
  | unsupportedVersion
  | unsupportedFeature
  | invalidArgument
  | invalidNullHandle
  | handleObjectInUse
  | invalidNullPointer
  | invalidSize
  | unsupportedSize
  | unknown
  deriving DecidableEq, Repr

namespace ResultCode

/-- All named codes. -/
def all : List ResultCode :=
  [.success, .notReady, .deviceLost, .outOfHostMemory, .outOfDeviceMemory, .moduleBuildFailure,
   .insufficientPermissions, .notAvailable, .uninitialized, .unsupportedVersion,
   .unsupportedFeature, .invalidArgument, .invalidNullHandle, .handleObjectInUse,
   .invalidNullPointer, .invalidSize, .unsupportedSize, .unknown]

/-- The number of the code. -/
def raw : ResultCode → UInt32
  | success => 0
  | notReady => 1
  | deviceLost => 0x70000001
  | outOfHostMemory => 0x70000002
  | outOfDeviceMemory => 0x70000003
  | moduleBuildFailure => 0x70000004
  | insufficientPermissions => 0x70010000
  | notAvailable => 0x70010001
  | uninitialized => 0x78000001
  | unsupportedVersion => 0x78000002
  | unsupportedFeature => 0x78000003
  | invalidArgument => 0x78000004
  | invalidNullHandle => 0x78000005
  | handleObjectInUse => 0x78000006
  | invalidNullPointer => 0x78000007
  | invalidSize => 0x78000008
  | unsupportedSize => 0x78000009
  | unknown => 0x7ffffffe

/-- The name of the code. -/
def name : ResultCode → String
  | success => "Success"
  | notReady => "NotReady"
  | deviceLost => "ErrorDeviceLost"
  | outOfHostMemory => "ErrorOutOfHostMemory"
  | outOfDeviceMemory => "ErrorOutOfDeviceMemory"
  | moduleBuildFailure => "ErrorModuleBuildFailure"
  | insufficientPermissions => "ErrorInsufficientPermissions"
  | notAvailable => "ErrorNotAvailable"
  | uninitialized => "ErrorUninitialized"
  | unsupportedVersion => "ErrorUnsupportedVersion"
  | unsupportedFeature => "ErrorUnsupportedFeature"
  | invalidArgument => "ErrorInvalidArgument"
  | invalidNullHandle => "ErrorInvalidNullHandle"
  | handleObjectInUse => "ErrorHandleObjectInUse"
  | invalidNullPointer => "ErrorInvalidNullPointer"
  | invalidSize => "ErrorInvalidSize"
  | unsupportedSize => "ErrorUnsupportedSize"
  | unknown => "ErrorUnknown"

/-- The code of this number, if it has a name. -/
def ofRaw? (raw : UInt32) : Option ResultCode :=
  all.find? (·.raw = raw)

end ResultCode

/-- A failed call. -/
inductive Fault where
  /-- A code with a name. -/
  | known (code : ResultCode)
  /-- A number without a name. -/
  | unrecognized (raw : UInt32)
  deriving DecidableEq, Repr

namespace Fault

/-- The fault that a number stands for. -/
def ofRaw (raw : UInt32) : Fault :=
  match ResultCode.ofRaw? raw with
  | some code => .known code
  | none => .unrecognized raw

/-- The number of the fault. -/
def raw : Fault → UInt32
  | .known c => c.raw
  | .unrecognized raw => raw

/-- The named code of the fault. -/
def code? : Fault → Option ResultCode
  | .known c => some c
  | .unrecognized _ => none

/-- Whether the call did not like what it was given. -/
def isInvalidArgument (f : Fault) : Bool := f.code? = some .invalidArgument

/-- What to tell a reader about the fault. -/
def message : Fault → String
  | .known c => s!"level zero call failed: {c.name}"
  | .unrecognized raw =>
    s!"level zero call failed with unrecognized code 0x{Numeral.hex 8 raw.toNat}"

instance : ToString Fault := ⟨message⟩

end Fault

/-- What a call comes to. -/
abbrev Answer (α : Type) := Except Fault α

end DeviceAtlas.Stack
