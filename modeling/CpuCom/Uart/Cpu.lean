import CpuCom.Uart.RecvMachine

/-! Commands over the protocol: packing, the code bits, and the ends of `CPU::read`
and `CPU::write`. -/

namespace CpuCom.Uart

abbrev CpuCommand := UInt8 × UInt8

def kAddressVCPU : UInt8 := 0x01
def kAddressMCPU : UInt8 := 0x02

def pack (cpuCommand : CpuCommand) (codeBit : UInt8) (data : List UInt8) : List UInt8 :=
  cpuCommand.1 :: cpuCommand.2 :: codeBit :: data

/-- The source dereferences the first three bytes without a check; `none` is a
read past the end. -/
def unpack : List UInt8 → Option (CpuCommand × UInt8 × List UInt8)
  | command :: subCommand :: codeBit :: data => some ((command, subCommand), codeBit, data)
  | _ => none

/-- Sender address, receiver address, and no division flags. -/
def getSendCodebit (address : UInt8) : UInt8 :=
  let receiverAddress := address
  let senderAddress := if address = kAddressVCPU then kAddressMCPU else kAddressVCPU
  (senderAddress <<< 5) + (receiverAddress <<< 2) + 0x00

def getReceiveCodebit (address : UInt8) : UInt8 :=
  let senderAddress := address
  let receiverAddress := if address = kAddressVCPU then kAddressMCPU else kAddressVCPU
  (senderAddress <<< 5) + (receiverAddress <<< 2) + 0x00

namespace Cpu
open Protocol

/-- The bytes that `CPU::write` hands to `Protocol::send`. -/
def writeData (address : UInt8) (command : CpuCommand) (data : List UInt8) : List UInt8 :=
  pack command (getSendCodebit address) data

/-- `CPU::read` after `Protocol::receive` has returned. -/
def read (address : UInt8) : Received (List UInt8) → Received (CpuCommand × List UInt8)
  | .crashed => .crashed
  | .nothing => .nothing
  | .message data =>
      match unpack data with
      | none => .crashed
      | some (command, codeBit, data) =>
          if codeBit = getReceiveCodebit address then .message (command, data) else .nothing

end Cpu
end CpuCom.Uart
