import CpuCom.Interaction.StateMachine

/-! What is seen of a machine from outside: the calls that it makes on given
replies, and the outcome where it stops. Two configurations agree on a list of
replies when the same is seen of both. -/

namespace CpuCom.Interaction

variable {σ ε β κ ρ γ α δ ω : Type}

namespace Program

/-- The programs make the same calls and, on the same replies, end in related results. -/
def Alike (related : α → δ → Prop) : Program κ ρ α → Program κ ρ δ → Prop
  | .pure value, .pure other => related value other
  | .throw, .throw => True
  | .call request next, .call asked rest => request = asked ∧ ∀ reply, (next reply).Alike related (rest reply)
  | _, _ => False

variable {program : Program κ ρ α} {partner : Program κ ρ δ} {related : α → δ → Prop}

theorem Alike.mono {wider : α → δ → Prop} (alike : program.Alike related partner)
    (implies : ∀ value other, related value other → wider value other) : program.Alike wider partner := by
  induction program generalizing partner with
  | pure value =>
    cases partner with
    | pure other => exact implies value other alike
    | throw => exact alike
    | call request next => exact alike
  | throw => cases partner <;> exact alike
  | call request next ih =>
    cases partner with
    | pure other => exact alike
    | throw => exact alike
    | call asked rest => exact ⟨alike.1, fun reply => ih reply (alike.2 reply)⟩

theorem Alike.swap (alike : program.Alike related partner) :
    partner.Alike (fun other value => related value other) program := by
  induction program generalizing partner with
  | pure value => cases partner <;> exact alike
  | throw => cases partner <;> exact alike
  | call request next ih =>
    cases partner with
    | pure other => exact alike
    | throw => exact alike
    | call asked rest => exact ⟨alike.1.symm, fun reply => ih reply (alike.2 reply)⟩

theorem Alike.bind {η θ : Type} {next : α → Program κ ρ η} {rest : δ → Program κ ρ θ} {after : η → θ → Prop}
    (alike : program.Alike related partner)
    (continues : ∀ value other, related value other → (next value).Alike after (rest other)) :
    (program >>= next).Alike after (partner >>= rest) := by
  induction program generalizing partner with
  | pure value =>
    cases partner with
    | pure other => exact continues value other alike
    | throw => cases alike
    | call request next => cases alike
  | throw =>
    cases partner with
    | pure other => cases alike
    | throw => exact alike
    | call request next => cases alike
  | call request next ih =>
    cases partner with
    | pure other => cases alike
    | throw => cases alike
    | call asked rest => exact ⟨alike.1, fun reply => ih reply (alike.2 reply)⟩

theorem Alike.returns {trace : List (κ × ρ)} {value : α} (alike : program.Alike related partner)
    (returned : program.Returns trace value) : ∃ other, partner.Returns trace other ∧ related value other := by
  induction program generalizing partner trace with
  | pure result =>
    obtain ⟨rfl, rfl⟩ := returned
    cases partner with
    | pure other => exact ⟨other, ⟨rfl, rfl⟩, alike⟩
    | throw => cases alike
    | call request next => cases alike
  | throw => cases returned
  | call request next ih =>
    obtain ⟨reply, rest, rfl, continued⟩ := returned
    cases partner with
    | pure other => cases alike
    | throw => cases alike
    | call asked next =>
      obtain ⟨rfl, alike⟩ := alike
      obtain ⟨other, returned, same⟩ := ih reply (alike reply) continued
      exact ⟨other, ⟨reply, rest, rfl, returned⟩, same⟩

theorem Alike.due {request : κ} {next : ρ → Program κ ρ α} (alike : (Program.call request next).Alike related partner) :
    ∃ rest, partner = .call request rest := by
  cases partner with
  | pure other => cases alike
  | throw => cases alike
  | call asked rest =>
    obtain ⟨rfl, _⟩ := alike
    exact ⟨rest, rfl⟩

/-- The replies decide how far a program goes and with which result. -/
theorem Returns.unique {first second rest more : List (κ × ρ)} {value other : α} (one : program.Returns first value)
    (two : program.Returns second other) (same : first ++ rest = second ++ more) : first = second ∧ value = other := by
  induction program generalizing first second with
  | pure result =>
    obtain ⟨rfl, rfl⟩ := one
    obtain ⟨rfl, rfl⟩ := two
    exact ⟨rfl, rfl⟩
  | throw => cases one
  | call request next ih =>
    obtain ⟨reply, tail, rfl, one⟩ := one
    obtain ⟨answer, last, rfl, two⟩ := two
    obtain ⟨head, tails⟩ := List.cons.inj same
    cases head
    obtain ⟨rfl, rfl⟩ := ih reply one two tails
    exact ⟨rfl, rfl⟩

end Program

namespace FiniteStateMachine

variable [DecidableEq σ] (machine : FiniteStateMachine σ ε β κ ρ γ)

/-- One pass from any configuration; a machine that has ended makes none. -/
def pass : Config σ β γ → Program κ ρ (Config σ β γ)
  | .running state loop data => machine.handle state loop data
  | .ended _ => .throw

theorem step_iff_pass {before after : Config σ β γ} {trace : List (κ × ρ)} :
    machine.Step before trace after ↔ (machine.pass before).Returns trace after := by
  constructor
  · rintro ⟨state, loop, data, rfl, returned⟩
    exact returned
  · intro returned
    cases before with
    | running state loop data => exact ⟨state, loop, data, rfl, returned⟩
    | ended data => cases returned

inductive Observation (κ ω : Type) where
  | asks (request : κ)
  | stops (outcome : ω)

variable (outcome : Config σ β γ → Option ω)

/-- The observations after some calls and their replies: the call that is asked
next, or the outcome of the configuration in which observation stops. -/
inductive Shows : Config σ β γ → List (κ × ρ) → Observation κ ω → Prop where
  | stops {config result} (stopped : outcome config = some result) : Shows config [] (.stops result)
  | asks {config request next} (goesOn : outcome config = none) (due : machine.pass config = .call request next) :
      Shows config [] (.asks request)
  | pass {config middle first rest seen} (goesOn : outcome config = none)
      (returned : (machine.pass config).Returns first middle) (later : Shows middle rest seen) :
      Shows config (first ++ rest) seen

/-- On any beginning of the replies the same is seen of both. -/
def AgreeOn (replies : List ρ) (one two : Config σ β γ) : Prop :=
  ∀ trace seen, trace.map Prod.snd <+: replies →
    (machine.Shows outcome one trace seen ↔ machine.Shows outcome two trace seen)

/-- The runs under observation. -/
abbrev Observed : Config σ β γ → List (κ × ρ) → Config σ β γ → Prop :=
  machine.Run fun before _ _ => outcome before = none

variable {machine outcome} {config middle one two first second : Config σ β γ} {trace passed : List (κ × ρ)}
  {seen : Observation κ ω} {replies left : List ρ}

theorem shows_stopped {result : ω} (stopped : outcome config = some result) :
    machine.Shows outcome config trace seen ↔ trace = [] ∧ seen = .stops result := by
  constructor
  · intro shown
    cases shown with
    | stops other =>
      rw [stopped] at other
      cases other
      exact ⟨rfl, rfl⟩
    | asks goesOn _ =>
      rw [stopped] at goesOn
      cases goesOn
    | pass goesOn _ _ =>
      rw [stopped] at goesOn
      cases goesOn
  · rintro ⟨rfl, rfl⟩
    exact .stops stopped

theorem shows_pass (goesOn : outcome config = none) (returned : (machine.pass config).Returns passed middle) :
    machine.Shows outcome config (passed ++ trace) seen ↔ machine.Shows outcome middle trace seen := by
  constructor
  · intro shown
    generalize whole : passed ++ trace = calls at shown
    cases shown with
    | stops stopped =>
      rw [goesOn] at stopped
      cases stopped
    | asks _ due =>
      obtain ⟨rfl, rfl⟩ := List.append_eq_nil_iff.mp whole
      rw [due] at returned
      obtain ⟨_, _, impossible, _⟩ := returned
      cases impossible
    | pass _ other later =>
      obtain ⟨rfl, rfl⟩ := returned.unique other whole
      rw [List.append_cancel_left whole]
      exact later
  · exact .pass goesOn returned

theorem shows_silent (goesOn : outcome config = none) (silent : machine.pass config = .pure middle) :
    machine.Shows outcome config trace seen ↔ machine.Shows outcome middle trace seen := by
  have returned : (machine.pass config).Returns [] middle := by
    rw [silent]
    exact ⟨rfl, rfl⟩
  exact shows_pass goesOn returned

theorem shows_asked {request asked : κ} {next : ρ → Program κ ρ (Config σ β γ)} (goesOn : outcome config = none)
    (due : machine.pass config = .call request next) :
    machine.Shows outcome config [] (.asks asked) ↔ asked = request := by
  constructor
  · intro shown
    generalize made : ([] : List (κ × ρ)) = calls at shown
    cases shown with
    | asks _ other =>
      rw [due] at other
      cases other
      rfl
    | pass _ returned _ =>
      obtain ⟨rfl, rfl⟩ := List.append_eq_nil_iff.mp made.symm
      rw [due] at returned
      obtain ⟨_, _, impossible, _⟩ := returned
      cases impossible
  · rintro rfl
    exact .asks goesOn due

/-- A pass that is a single call. -/
theorem shows_call {request : κ} {next : ρ → Config σ β γ} (goesOn : outcome config = none)
    (due : machine.pass config = .call request fun reply => .pure (next reply)) :
    machine.Shows outcome config trace seen ↔ trace = [] ∧ seen = .asks request ∨
      ∃ reply rest, trace = (request, reply) :: rest ∧ machine.Shows outcome (next reply) rest seen := by
  have returned : ∀ reply, (machine.pass config).Returns [(request, reply)] (next reply) := by
    intro reply
    rw [due]
    exact ⟨reply, [], rfl, rfl, rfl⟩
  constructor
  · intro shown
    cases shown with
    | stops stopped =>
      rw [goesOn] at stopped
      cases stopped
    | asks _ other =>
      rw [due] at other
      cases other
      exact .inl ⟨rfl, rfl⟩
    | pass _ answered later =>
      rw [due] at answered
      obtain ⟨reply, last, rfl, rfl, rfl⟩ := answered
      exact .inr ⟨reply, _, rfl, later⟩
  · rintro (⟨rfl, rfl⟩ | ⟨reply, rest, rfl, later⟩)
    · exact .asks goesOn due
    · exact .pass goesOn (returned reply) later

theorem AgreeOn.symm (agree : machine.AgreeOn outcome replies one two) : machine.AgreeOn outcome replies two one :=
  fun trace seen within => (agree trace seen within).symm

theorem agreeOn_comm : machine.AgreeOn outcome replies one two ↔ machine.AgreeOn outcome replies two one :=
  ⟨.symm, .symm⟩

theorem agreeOn_stopped {result other : ω} (stopped : outcome one = some result) (halted : outcome two = some other) :
    machine.AgreeOn outcome replies one two ↔ result = other := by
  constructor
  · intro agree
    have shown := (agree [] (.stops result) List.nil_prefix).mp (.stops stopped)
    obtain ⟨_, same⟩ := (shows_stopped halted).mp shown
    cases same
    rfl
  · rintro rfl trace seen _
    rw [shows_stopped stopped, shows_stopped halted]

/-- A pass without calls is not seen. -/
theorem agreeOn_silent (goesOn : outcome one = none) (silent : machine.pass one = .pure middle) :
    machine.AgreeOn outcome replies one two ↔ machine.AgreeOn outcome replies middle two := by
  unfold AgreeOn
  simp only [shows_silent goesOn silent]

theorem AgreeOn.asks {request asked : κ} {next rest : ρ → Program κ ρ (Config σ β γ)}
    (agree : machine.AgreeOn outcome replies one two) (goesOn : outcome one = none) (continues : outcome two = none)
    (due : machine.pass one = .call request next) (expected : machine.pass two = .call asked rest) : request = asked :=
  (shows_asked continues expected).mp
    ((agree [] (.asks request) List.nil_prefix).mp ((shows_asked goesOn due).mpr rfl))

/-- After the same calls the two still agree on the replies that are left. -/
theorem AgreeOn.pass (agree : machine.AgreeOn outcome (passed.map Prod.snd ++ left) one two)
    (goesOn : outcome one = none) (continues : outcome two = none)
    (returned : (machine.pass one).Returns passed first) (other : (machine.pass two).Returns passed second) :
    machine.AgreeOn outcome left first second := by
  intro trace seen within
  rw [← shows_pass goesOn returned, ← shows_pass continues other]
  apply agree
  rw [List.map_append]
  exact (List.prefix_append_right_inj _).mpr within

/-- Two handlers that make the same single call agree if they do after every reply. -/
theorem agreeOn_call {request : κ} {next rest : ρ → Config σ β γ} (goesOn : outcome one = none)
    (continues : outcome two = none) (due : machine.pass one = .call request fun reply => .pure (next reply))
    (expected : machine.pass two = .call request fun reply => .pure (rest reply)) :
    machine.AgreeOn outcome replies one two ↔
      ∀ reply left, replies = reply :: left → machine.AgreeOn outcome left (next reply) (rest reply) := by
  constructor
  · rintro agree reply left rfl
    have returned : (machine.pass one).Returns [(request, reply)] (next reply) := by
      rw [due]
      exact ⟨reply, [], rfl, rfl, rfl⟩
    have answered : (machine.pass two).Returns [(request, reply)] (rest reply) := by
      rw [expected]
      exact ⟨reply, [], rfl, rfl, rfl⟩
    change machine.AgreeOn outcome (List.map Prod.snd [(request, reply)] ++ left) one two at agree
    exact agree.pass goesOn continues returned answered
  · intro agree trace seen within
    rw [shows_call goesOn due, shows_call continues expected]
    apply or_congr_right
    constructor
    · rintro ⟨reply, more, rfl, shown⟩
      obtain ⟨left, rfl⟩ := within
      exact ⟨reply, more, rfl, (agree reply _ rfl _ _ (List.prefix_append _ left)).mp shown⟩
    · rintro ⟨reply, more, rfl, shown⟩
      obtain ⟨left, rfl⟩ := within
      exact ⟨reply, more, rfl, (agree reply _ rfl _ _ (List.prefix_append _ left)).mpr shown⟩

variable (related frontier : Config σ β γ → Config σ β γ → Prop)

/-- What is seen of one is seen of the other, if related configurations make the
same calls up to a frontier, and the two agree where they reach it. -/
private theorem shows_alike (same : ∀ one two, related one two → outcome one = outcome two)
    (alike : ∀ one two, related one two → outcome one = none →
      (machine.pass one).Alike (fun first second => related first second ∨ frontier first second) (machine.pass two))
    (start : related one two) (within : trace.map Prod.snd <+: replies)
    (agree : ∀ passed left first second, machine.Observed outcome one passed first →
      machine.Observed outcome two passed second → frontier first second → passed.map Prod.snd ++ left = replies →
        machine.AgreeOn outcome left first second)
    (shown : machine.Shows outcome one trace seen) : machine.Shows outcome two trace seen := by
  induction shown generalizing two replies with
  | stops stopped =>
    rw [same _ _ start] at stopped
    exact .stops stopped
  | asks goesOn due =>
    have partner := alike _ _ start goesOn
    rw [due] at partner
    obtain ⟨rest, expected⟩ := partner.due
    rw [same _ _ start] at goesOn
    exact .asks goesOn expected
  | @pass config middle first rest seen goesOn returned later ih =>
    obtain ⟨other, answered, reached⟩ := (alike _ _ start goesOn).returns returned
    have continues := goesOn
    rw [same _ _ start] at continues
    obtain ⟨more, rfl⟩ := within
    apply Shows.pass continues answered
    have taken : machine.Observed outcome config first middle := .single ((step_iff_pass machine).mpr returned) goesOn
    have matched : machine.Observed outcome two first other := .single ((step_iff_pass machine).mpr answered) continues
    rw [List.map_append, List.append_assoc] at agree
    rcases reached with along | reached
    · apply ih along (List.prefix_append _ more)
      intro passed left p q reached followed atFrontier whole
      apply agree (first ++ passed) left p q (taken.append reached) (matched.append followed) atFrontier
      rw [List.map_append, List.append_assoc, whole]
    · have agrees := agree first _ middle other taken matched reached rfl
      exact (agrees rest seen (List.prefix_append _ more)).mp later

/-- Related configurations agree if they do wherever they reach the frontier. -/
theorem agreeOn_of_alike (same : ∀ one two, related one two → outcome one = outcome two)
    (alike : ∀ one two, related one two → outcome one = none →
      (machine.pass one).Alike (fun first second => related first second ∨ frontier first second) (machine.pass two))
    (start : related one two)
    (agree : ∀ passed left first second, machine.Observed outcome one passed first →
      machine.Observed outcome two passed second → frontier first second → passed.map Prod.snd ++ left = replies →
        machine.AgreeOn outcome left first second) : machine.AgreeOn outcome replies one two := by
  intro trace seen within
  constructor
  · exact shows_alike related frontier same alike start within agree
  · apply shows_alike (fun two one => related one two) (fun two one => frontier one two)
    · exact fun two one along => (same one two along).symm
    · intro two one along continues
      rw [← same one two along] at continues
      exact (alike one two along continues).swap
    · exact start
    · exact within
    · intro passed left second first followed reached atFrontier whole
      exact (agree passed left first second reached followed atFrontier whole).symm

/-- Where one of two related configurations has passed along, the other has as
well, unless the frontier is left behind, and the two still agree. -/
theorem agreeOn_reached {past : Config σ β γ → Prop} (same : ∀ one two, related one two → outcome one = outcome two)
    (alike : ∀ one two, related one two → outcome one = none →
      (machine.pass one).Alike (fun first second => related first second ∨ frontier first second) (machine.pass two))
    (leaves : ∀ first second trace after, frontier first second → outcome second = none →
      machine.Step second trace after → past after)
    (stays : ∀ second trace after, past second → outcome second = none → machine.Step second trace after → past after)
    (start : related one two) (run : machine.Observed outcome two trace second) :
    past second ∨ ∃ first, (related first second ∨ frontier first second) ∧
      ∀ left, machine.AgreeOn outcome (trace.map Prod.snd ++ left) one two →
        machine.AgreeOn outcome left first second := by
  induction run with
  | refl => exact .inr ⟨one, .inl start, fun left agree => agree⟩
  | @step middle after first rest run step continues ih =>
    rcases ih with behind | ⟨partner, along | atFrontier, agree⟩
    · exact .inl (stays _ _ _ behind continues step)
    · have returned := (step_iff_pass machine).mp step
      have goesOn := continues
      rw [← same _ _ along] at goesOn
      obtain ⟨other, answered, reached⟩ := (alike _ _ along goesOn).swap.returns returned
      refine .inr ⟨other, reached, fun left agrees => ?_⟩
      rw [List.map_append, List.append_assoc] at agrees
      exact (agree _ agrees).pass goesOn continues answered returned
    · exact .inl (leaves _ _ _ _ atFrontier continues step)

end FiniteStateMachine
end CpuCom.Interaction
