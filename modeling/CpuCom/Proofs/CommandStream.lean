import CpuCom.Proofs.Retransmission

/-! Commands that one CPU writes after another. Each of them is one receive of the other
side, whatever the line cuts off of it, so that none of them disturbs the next. -/

namespace CpuCom.Uart.Cpu
open Interaction FiniteStateMachine Protocol

variable {checksum : List UInt8 → UInt8}

private theorem idle_to_poll (r1 : Nat) (line : List Symbol) :
    (recvMachine checksum).ReachesOn Link.answer (recvStart checksum r1, line)
      (.running .poll none ⟨.initial, 0⟩, line) := by
  change (recvMachine checksum).ReachesOn Link.answer (.running .idle none ⟨.initial, r1⟩, line) _
  exact recv_step .poll ⟨.initial, 0⟩ rfl rfl (by decide) .refl

theorem not_received_nothing {r1 : Nat} {result : Received (List UInt8)} {rest : List Symbol} :
    ¬ ReceivesFrom checksum r1 [] result rest := by
  rintro ⟨receiving, ended, -⟩
  have waits : (recvMachine checksum).stepOn Link.answer (.running .poll none ⟨.initial, 0⟩, []) = none := rfl
  exact nomatch ReachesOn.of_stuck waits (ended.to_end (idle_to_poll r1 []))

/-- A receive does not depend on the count that the last one has left. -/
theorem receivesFrom_unique {r1 other : Nat} {line rest last : List Symbol} {first second : Received (List UInt8)}
    (one : ReceivesFrom checksum r1 line first rest) (two : ReceivesFrom checksum other line second last) :
    first = second ∧ rest = last := by
  obtain ⟨receiving, ended, rfl⟩ := one
  obtain ⟨receiving', ended', rfl⟩ := two
  obtain ⟨rfl, rfl⟩ := (ended.to_end (idle_to_poll r1 line)).ended_unique (ended'.to_end (idle_to_poll other line))
  exact ⟨rfl, rfl⟩

/-- The commands that a receive does not misread, cut off less often than it has attempts. -/
def Written.Legible (checksum : List UInt8 → UInt8) (address : UInt8) (written : Written) : Prop :=
  (written.data.length ≤ 1024 ∨ 1028 ≤ written.data.length ∧ (written.data.length + 1023) / 1024 ≤ 65535) ∧
    Link.cuts (prepareFrames checksum (writeData address written.command written.data)).length written.plan <
      kMaxNumberOfRecvAttempts

variable {address peer : UInt8}

theorem Written.Legible.received {written : Written} (legible : written.Legible checksum address) {r2 : Nat}
    {line : List Symbol} (rest : List Symbol) (sent : TransmitsCut checksum r2 written.plan
      (writeData address written.command written.data) line true) :
    line ≠ [] ∧ ReceivesFrom checksum 0 (line ++ rest)
      (.message (flagged (writeData address written.command written.data))) rest := by
  obtain ⟨lengths, few⟩ := legible
  have length : (writeData address written.command written.data).length = written.data.length + 3 := rfl
  have present := @prepareFrames_ne_nil checksum (writeData address written.command written.data) (by omega)
  obtain ⟨awaits, receivable⟩ := @exists_receivable checksum (writeData address written.command written.data)
    (by omega) (by omega) (by omega)
  obtain ⟨sending, device, ended, filled, -⟩ := sent
  obtain ⟨sending', device', ended', answered⟩ := send_cut checksum present r2 written.plan
  rw [if_pos (Nat.lt_trans few (by decide))] at answered
  obtain ⟨rfl, rfl⟩ := ended.ended_unique ended'
  obtain ⟨receiving, left, stopped, received⟩ :=
    receivable.receives (frames_present checksum (by omega)) present 0 written.plan rest
  rw [if_pos few] at received
  rw [← filled, answered.2]
  obtain ⟨same, rfl⟩ := received
  refine ⟨?_, receiving, stopped, same⟩
  obtain ⟨frame, later, frames⟩ := List.exists_cons_of_ne_nil present
  obtain ⟨symbols, starts⟩ := cutLine_starts written.plan frame later []
  rw [List.append_nil] at starts
  rw [frames, starts]
  exact List.cons_ne_nil _ _

/-- A command of one frame comes out as it is, and of a longer one nothing comes out. -/
theorem Written.Legible.read {written : Written} (legible : written.Legible checksum address)
    (paired : Paired address peer) :
    read peer (.message (flagged (writeData address written.command written.data))) = written.answer := by
  have length : (writeData address written.command written.data).length = written.data.length + 3 := rfl
  unfold Written.answer kMaxActualDataLength
  rcases legible.1 with short | ⟨long, -⟩
  · have unflagged : flagged (writeData address written.command written.data) =
        writeData address written.command written.data :=
      if_neg (Nat.not_lt_of_le (Nat.le_trans (Nat.add_le_add_right short 3) (by decide)))
    have bits : getSendCodebit address = getReceiveCodebit peer := by cases paired <;> rfl
    rw [unflagged, if_pos short]
    simp [writeData, pack, Cpu.read, unpack, bits]
  · have divided : kMaxExtendedLengthFrameLength - kFrameFooterLength <
        (writeData address written.command written.data).length := by
      unfold kMaxExtendedLengthFrameLength kFrameFooterLength kEtxLength kCsLength
      omega
    have flags : ¬ getSendCodebit address ||| 0x02 = getReceiveCodebit peer := by cases paired <;> decide
    rw [flagged, if_pos divided, if_neg (by omega)]
    simp [writeData, pack, Cpu.read, unpack, flags]

/-- Each command of the stream is one receive. -/
theorem stream_received {stream : List Written} {line : List Symbol} (paired : Paired address peer)
    (legible : ∀ written ∈ stream, written.Legible checksum address) (streams : Streams checksum address stream line) :
    ∃ results, Receives checksum line results [] ∧ (∀ other, Receives checksum line other [] → other = results) ∧
      results.map (read peer) = stream.map Written.answer := by
  induction streams with
  | none =>
    refine ⟨[], .none, fun other receives => ?_, rfl⟩
    cases receives with
    | none => rfl
    | next received more => exact absurd received not_received_nothing
  | @next r2 written line rest last sent more ih =>
    obtain ⟨now, later⟩ := List.forall_mem_cons.mp legible
    obtain ⟨results, receives, unique, read⟩ := ih later
    obtain ⟨present, received⟩ := now.received last sent
    refine ⟨_, .next received receives, fun other receives => ?_, List.map_cons.trans (congrArg₂ _ (now.read paired) read)⟩
    generalize whole : line ++ last = filled at receives received
    generalize nothing : ([] : List Symbol) = left at receives
    cases receives with
    | none => exact absurd (List.append_eq_nil_iff.mp (whole.trans nothing.symm)).1 present
    | next first others =>
      subst nothing
      obtain ⟨rfl, rfl⟩ := receivesFrom_unique first received
      rw [unique _ others]

theorem exists_streams {stream : List Written} (legible : ∀ written ∈ stream, written.Legible checksum address) :
    ∃ line, Streams checksum address stream line := by
  induction stream with
  | nil => exact ⟨[], .none⟩
  | cons written stream ih =>
    obtain ⟨now, later⟩ := List.forall_mem_cons.mp legible
    obtain ⟨last, more⟩ := ih later
    obtain ⟨lengths, few⟩ := now
    have length : (writeData address written.command written.data).length = written.data.length + 3 := rfl
    have present := @prepareFrames_ne_nil checksum (writeData address written.command written.data) (by omega)
    obtain ⟨sending, device, ended, answered⟩ := send_cut checksum present 0 written.plan
    rw [if_pos (Nat.lt_trans few (by decide))] at answered
    exact ⟨_, .next ⟨sending, device, ended, rfl, answered.1⟩ more⟩

/-- The commands of a stream come out in their order, each of them once, whatever the
line cuts off of them within the attempts of their receives. -/
theorem command_stream_read (paired : Paired address peer) {stream : List Written}
    (legible : ∀ written ∈ stream, written.Legible checksum address) :
    (∃ line, Streams checksum address stream line) ∧ ∀ line, Streams checksum address stream line →
      ∃ results, Receives checksum line results [] ∧ (∀ other, Receives checksum line other [] → other = results) ∧
        results.map (read peer) = stream.map Written.answer :=
  ⟨exists_streams legible, fun _ => stream_received paired legible⟩

theorem two_commands_read :
    (∃ line, Streams List.sum kAddressVCPU [⟨(1, 2), [3], [some 0]⟩, ⟨(4, 5), [], []⟩] line) ∧
      ∀ line, Streams List.sum kAddressVCPU [⟨(1, 2), [3], [some 0]⟩, ⟨(4, 5), [], []⟩] line →
        ∃ results, Receives List.sum line results [] ∧ (∀ other, Receives List.sum line other [] → other = results) ∧
          results.map (read kAddressMCPU) = [.message ((1, 2), [3]), .message ((4, 5), [])] := by
  refine command_stream_read .toVCPU fun written member => ?_
  rcases List.mem_cons.mp member with rfl | member
  · exact ⟨.inl (by decide), by decide⟩
  · obtain rfl := List.mem_singleton.mp member
    exact ⟨.inl (by decide), by decide⟩

end CpuCom.Uart.Cpu
