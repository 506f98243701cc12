import CpuCom.Interaction.Execution

/-! Machines that come to an end. A step uses up rank for itself and for each of its
calls. What the calls are charged for brings rank back, so that a run ends unless its
environment keeps it going for ever. -/

namespace CpuCom.Interaction

variable {σ ε β κ ρ γ α δ : Type}

namespace Program

/-- Whatever the replies are, the program does not throw. -/
def Completes : Program κ ρ α → Prop
  | .pure _ => True
  | .throw => False
  | .call _ next => ∀ reply, (next reply).Completes

theorem Completes.bind {program : Program κ ρ α} {next : α → Program κ ρ δ} (completes : program.Completes)
    (continues : ∀ value, (next value).Completes) : (program >>= next).Completes := by
  induction program with
  | pure value => exact continues value
  | throw => exact completes.elim
  | call request rest ih => exact fun reply => ih reply (completes reply)

theorem completes_request {request : κ} {next : ρ → Program κ ρ α} (continues : ∀ reply, (next reply).Completes) :
    (Program.request request >>= next).Completes := continues

/-- Every reply may depend on all the calls before it. -/
def logged (respond : List (κ × ρ) → κ → ρ) (history : List (κ × ρ)) (request : κ) :
    Option (ρ × List (κ × ρ)) :=
  some (respond history request, history ++ [(request, respond history request)])

theorem Completes.runOn_logged {program : Program κ ρ α} (completes : program.Completes)
    (respond : List (κ × ρ) → κ → ρ) (history : List (κ × ρ)) :
    ∃ value calls, program.runOn (logged respond) history = some (value, history ++ calls) ∧
      program.Returns calls value := by
  induction program generalizing history with
  | pure value => exact ⟨value, [], by simp, rfl, rfl⟩
  | throw => exact completes.elim
  | call request next ih =>
    obtain ⟨value, calls, ran, returned⟩ :=
      ih (respond history request) (completes _) (history ++ [(request, respond history request)])
    refine ⟨value, (request, respond history request) :: calls, ?_, _, calls, rfl, returned⟩
    rw [runOn_call rfl, ran, List.append_assoc, List.singleton_append]

theorem runOn_logged_replies {program : Program κ ρ α} {respond : List (κ × ρ) → κ → ρ} {history last : List (κ × ρ)}
    {value : α} (ran : program.runOn (logged respond) history = some (value, last))
    (logs : ∀ call ∈ history, ∃ past, call.2 = respond past call.1) :
    ∀ call ∈ last, ∃ past, call.2 = respond past call.1 := by
  induction program generalizing history with
  | pure other =>
    obtain ⟨-, rfl⟩ := Prod.mk.inj (Option.some.inj ran)
    exact logs
  | throw => cases ran
  | call request next ih =>
    rw [runOn_call rfl] at ran
    refine ih _ ran fun call member => ?_
    rcases List.mem_append.mp member with earlier | now
    · exact logs call earlier
    · obtain rfl := List.mem_singleton.mp now
      exact ⟨history, rfl⟩

end Program

namespace FiniteStateMachine

variable [DecidableEq σ] (machine : FiniteStateMachine σ ε β κ ρ γ)

/-- The invariant is kept, no handler throws, and every step is paid for. -/
structure Ranked (holds : List (κ × ρ) → Config σ β γ → Prop) (rank : Config σ β γ → Nat)
    (charge : List (κ × ρ) → Nat) : Prop where
  completes : ∀ {trace state loop data}, holds trace (.running state loop data) →
    (machine.handler state loop data).Completes
  keeps : ∀ {trace before calls after}, holds trace before → machine.Step before calls after →
    holds (trace ++ calls) after
  spends : ∀ {trace before calls after}, holds trace before → machine.Step before calls after →
    rank after + calls.length + 1 + charge trace ≤ rank before + charge (trace ++ calls)

variable {machine} {holds : List (κ × ρ) → Config σ β γ → Prop} {rank : Config σ β γ → Nat}
  {charge : List (κ × ρ) → Nat} {start config : Config σ β γ} {trace : List (κ × ρ)}

/-- A run makes no more calls than it has rank for and is charged with. -/
theorem Ranked.bounded (ranked : machine.Ranked holds rank charge) (initial : holds [] start)
    (run : machine.Runs start trace config) :
    holds trace config ∧ rank config + trace.length + charge [] ≤ rank start + charge trace := by
  apply run.invariant
  · exact ⟨initial, Nat.le_refl _⟩
  · intro trace middle calls after ⟨held, bounded⟩ step _
    have spent := ranked.spends held step
    refine ⟨ranked.keeps held step, ?_⟩
    rw [List.length_append]
    omega

/-- All that is logged are replies of this environment. -/
theorem logged_replies {respond : List (κ × ρ) → κ → ρ}
    (reached : machine.ReachesOn (Program.logged respond) (start, []) (config, trace)) :
    ∀ call ∈ trace, ∃ past, call.2 = respond past call.1 := by
  have along : ∀ last : Config σ β γ × List (κ × ρ), machine.ReachesOn (Program.logged respond) (start, []) last →
      ∀ call ∈ last.2, ∃ past, call.2 = respond past call.1 := by
    intro last reached
    induction reached with
    | refl => exact fun call member => nomatch member
    | @tail middle last _ moved ih =>
      obtain ⟨⟨_, _, _⟩ | _, before⟩ := middle
      · exact Program.runOn_logged_replies moved ih
      · cases moved
  exact along _ reached

/-- A handler that does not throw leads to the next step, whoever replies. -/
theorem exists_step {state : σ} {loop : β} {data : γ} (completes : (machine.handler state loop data).Completes)
    (respond : List (κ × ρ) → κ → ρ) (trace : List (κ × ρ)) :
    ∃ calls after, machine.Step (.running state loop data) calls after ∧
      machine.stepOn (Program.logged respond) (.running state loop data, trace) = some (after, trace ++ calls) := by
  obtain ⟨⟨value, flow⟩, calls, ran, returned⟩ := completes.runOn_logged respond trace
  refine ⟨calls, machine.follow state value flow, ?_, ?_⟩
  · exact ⟨state, loop, data, rfl, returns_handle.mpr ⟨value, flow, returned, rfl⟩⟩
  · rw [stepOn_running, ran]
    rfl

/-- Where the charges stay within a limit the machine ends. The rank and what is left
of the limit go down together. -/
theorem Ranked.ends (ranked : machine.Ranked holds rank charge) (initial : holds [] start)
    (respond : List (κ × ρ) → κ → ρ) {limit : Nat} (calm : ∀ trace config,
      machine.ReachesOn (Program.logged respond) (start, []) (config, trace) → charge trace ≤ limit) :
    ∃ data trace, machine.ReachesOn (Program.logged respond) (start, []) (.ended data, trace) ∧
      machine.Runs start trace (.ended data) := by
  have goesOn : ∀ fuel config trace, rank config + (limit - charge trace) < fuel → holds trace config →
      machine.Runs start trace config → machine.ReachesOn (Program.logged respond) (start, []) (config, trace) →
      ∃ data last, machine.ReachesOn (Program.logged respond) (start, []) (.ended data, last) ∧
        machine.Runs start last (.ended data) := by
    intro fuel
    induction fuel with
    | zero => intro config trace impossible; exact absurd impossible (Nat.not_lt_zero _)
    | succ fuel ih =>
      intro config trace enough held run reached
      cases config with
      | ended data => exact ⟨data, trace, reached, run⟩
      | running state loop data =>
        obtain ⟨calls, after, step, moved⟩ := exists_step (ranked.completes held) respond trace
        have later := reached.trans (.step moved .refl)
        have spent := ranked.spends held step
        have within := calm _ _ later
        exact ih after (trace ++ calls) (by omega) (ranked.keeps held step) (run.step step trivial) later
  exact goesOn _ start [] (Nat.lt_succ_self _) initial (.refl start) .refl

end FiniteStateMachine
end CpuCom.Interaction
