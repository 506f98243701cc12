import CpuCom.Interaction.Program
import Mathlib.Algebra.Group.Nat.Defs
import Mathlib.Data.UInt

/-! The serial device and the access lock as the protocol sees them: the calls it
makes, the replies it gets, and the constants of the data link. -/

namespace CpuCom.Uart

/-- `IODevice::Result`. Every value other than success and timeout takes the
default branch of the protocol's switches, so one constructor stands for them. -/
inductive Result where
  | success
  | timeout
  | error
deriving DecidableEq, Repr

inductive Timeout where
  | immediate
  | infinite
  | milliseconds (count : Nat)
deriving DecidableEq, Repr

def kTimeout3 : Timeout := .milliseconds 50
def kTimeout4 : Timeout := .milliseconds 50

/-- The device calls and the two operations of `m_accessLock`. -/
inductive Call where
  | read (timeout : Timeout)
  | readMulti (size : Nat) (timeout : Timeout)
  | writeByte (code : UInt8)
  | write (bytes : List UInt8)
  | poll (timeout : Timeout)
  | «open»
  | close
  | lock
  | unlock
deriving DecidableEq, Repr

/-- One reply serves every call. `bytes` are the bytes stored by a read, a short
list standing for one continued with zeros. `open` reports success or not, and
the reply to `close`, `lock` and `unlock` carries no information. -/
structure Response where
  result : Result
  bytes : List UInt8 := []
deriving DecidableEq, Repr

namespace Response

/-- The byte that `read` stores on success. -/
def byte (response : Response) : UInt8 := response.bytes.headD 0

/-- A buffer of zeros after `readMulti` has stored into it. On success every byte
of the buffer has been stored, after a timeout or an error possibly only some. -/
def fill (response : Response) (size : Nat) : List UInt8 :=
  response.bytes.take size ++ List.replicate (size - response.bytes.length) 0

@[simp] theorem length_fill (response : Response) (size : Nat) : (response.fill size).length = size := by
  simp only [fill, List.length_append, List.length_take, List.length_replicate]
  omega

theorem fill_exact (result : Result) (bytes : List UInt8) :
    (⟨result, bytes⟩ : Response).fill bytes.length = bytes := by
  simp [fill]

end Response

abbrev CallProgram := Interaction.Program Call Response

namespace ControlCode

def stx : UInt8 := 0x02
def etx : UInt8 := 0x03
def enq : UInt8 := 0x05
def ack : UInt8 := 0x06
def nak : UInt8 := 0x15
def extLen : UInt8 := 0xfe

end ControlCode

def kStxLength : Nat := 1
def kLenLength : Nat := 1
def kCmdLength : Nat := 3
def kExtLenLength : Nat := 3
def kFrameNumberLength : Nat := 2
def kTotalFramesLength : Nat := 2
def kEtxLength : Nat := 1
def kCsLength : Nat := 1
def kFrameHeaderLength : Nat := kStxLength + kLenLength
def kFrameFooterLength : Nat := kEtxLength + kCsLength

def kMinFrameLength : Nat := 5
def kMaxFrameLength : Nat := 253
def kMaxActualDataLength : Nat := 1024
def kMaxExtendedLengthFrameLength : Nat := 1032
def kMaxExtendedLengthFrameDivisionFrameLength : Nat := 1036

def kMaxNumberOfSendAttempts : Nat := 240
def kMaxNumberOfRecvAttempts : Nat := 5
def kSendAttemptsForPortReinit : Nat := 6

/-- Conversion to `uint32_t`. -/
def uint32 (value : Nat) : Nat := value % 2 ^ 32

/-- Subtraction of `uint32_t` values, which wraps below zero. -/
@[irreducible] def sub32 (first second : Nat) : Nat := (first + (2 ^ 32 - second)) % 2 ^ 32

/-- Subtraction of `size_t` values. -/
@[irreducible] def sub64 (first second : Nat) : Nat := (first + (2 ^ 64 - second)) % 2 ^ 64

theorem uint32_of_lt {value : Nat} (small : value < 2 ^ 32) : uint32 value = value :=
  Nat.mod_eq_of_lt small

theorem sub32_of_le {first second : Nat} (le : second ≤ first) (small : first < 2 ^ 32) :
    sub32 first second = first - second := by
  unfold sub32
  omega

theorem sub64_of_le {first second : Nat} (le : second ≤ first) (small : first < 2 ^ 64) :
    sub64 first second = first - second := by
  unfold sub64
  omega

abbrev Frame := List UInt8

end CpuCom.Uart
