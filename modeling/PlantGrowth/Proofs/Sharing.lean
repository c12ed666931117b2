import PlantGrowth.Generation.Generator
import PlantGrowth.Proofs.OutputConsistency

/-!
# A generator that is shared

Any number of callers may share a generator, and a generation may call it again from inside its own
source of chance.  What they do comes in some order, one thing after the other: a call arrives, a
generation draws a sample, returns or panics.  In whatever order, a generation is in flight exactly
when the generator is busy, and then it is the only one: all calls meanwhile are dropped and leave
no trace but the reply.
-/

namespace PlantGrowth

variable {α κ σ ρ : Type}

/-! ## Callers and their calls -/

/-- A generator with its callers.  Each has a stream of samples of its own for its generations. -/
structure Sharing (κ σ ρ : Type) where
  generator : Generator
  /-- Whose generations are in flight. -/
  running : List κ
  stream : κ → σ
  /-- Who has been answered and how, the last first. -/
  replies : List (κ × Reply ρ)

namespace Sharing

/-- What can happen where a generator is shared. -/
inductive Event (κ ρ : Type) where
  | call (k : κ)
  /-- The generation of `outer` calls the generator from inside its source of chance. -/
  | nested (outer k : κ)
  | draw (k : κ)
  | finish (k : κ) (result : ρ)
  | panic (k : κ)

def opened (stream : κ → σ) : Sharing κ σ ρ := ⟨Generator.idle, [], stream, []⟩

/-- A call of `k` arrives. -/
def arrive (s : Sharing κ σ ρ) (k : κ) : Sharing κ σ ρ :=
  match s.generator.begin? with
  | none => { s with replies := (k, .dropped) :: s.replies }
  | some generator => { s with generator, running := k :: s.running }

/-- The generation of `k` ends and is answered. -/
def leave [DecidableEq κ] (s : Sharing κ σ ρ) (k : κ) (reply : Reply ρ) : Sharing κ σ ρ :=
  { s with
    generator := s.generator.finish
    running := s.running.erase k
    replies := (k, reply) :: s.replies }

def draw [DecidableEq κ] (source : κ → Source α σ) (s : Sharing κ σ ρ) (k : κ) : Sharing κ σ ρ :=
  { s with stream := Function.update s.stream k ((source k).next (s.stream k)).2 }

/-- What becomes of the callers by an event, if it can happen: only a generation that is in flight
can call, draw or end. -/
def step? [DecidableEq κ] (source : κ → Source α σ) (s : Sharing κ σ ρ) :
    Event κ ρ → Option (Sharing κ σ ρ)
  | .call k => some (s.arrive k)
  | .nested outer k => if outer ∈ s.running then some (s.arrive k) else none
  | .draw k => if k ∈ s.running then some (s.draw source k) else none
  | .finish k result => if k ∈ s.running then some (s.leave k (.done result)) else none
  | .panic k => if k ∈ s.running then some (s.leave k .failed) else none

def after? [DecidableEq κ] (source : κ → Source α σ) (events : List (Event κ ρ))
    (s : Sharing κ σ ρ) : Option (Sharing κ σ ρ) :=
  events.foldlM (step? source) s

/-- At most one generation is in flight, and the generator is busy exactly when one is. -/
structure Sound (s : Sharing κ σ ρ) : Prop where
  single : s.running.length ≤ 1
  busy_iff : s.generator.busy = true ↔ s.running ≠ []

variable {s s' : Sharing κ σ ρ} {k : κ}

theorem sound_opened (stream : κ → σ) : (opened stream : Sharing κ σ ρ).Sound := by
  constructor <;> simp [opened, Generator.idle]

theorem arrive_of_busy (h : s.generator.busy = true) (k : κ) :
    s.arrive k = { s with replies := (k, .dropped) :: s.replies } := by
  simp [arrive, Generator.begin?, h]

theorem arrive_of_not_busy (h : s.generator.busy = false) (k : κ) :
    s.arrive k = { s with generator := ⟨true⟩, running := k :: s.running } := by
  simp [arrive, Generator.begin?, h]

namespace Sound

theorem running_eq (h : s.Sound) (hmem : k ∈ s.running) : s.running = [k] := by
  obtain ⟨j, hj⟩ : ∃ j, s.running = [j] :=
    List.length_eq_one_iff.mp (le_antisymm h.single (List.length_pos_of_mem hmem))
  rw [hj, List.mem_singleton] at hmem
  rw [hj, hmem]

theorem arrive_of_running (h : s.Sound) (hrunning : s.running ≠ []) (k : κ) :
    s.arrive k = { s with replies := (k, .dropped) :: s.replies } :=
  arrive_of_busy (h.busy_iff.mpr hrunning) k

theorem not_busy (h : s.Sound) (hnone : s.running = []) : s.generator.busy = false := by
  simpa [hnone] using h.busy_iff

theorem arrive_of_none (h : s.Sound) (hnone : s.running = []) (k : κ) :
    s.arrive k = { s with generator := ⟨true⟩, running := [k] } := by
  rw [arrive_of_not_busy (h.not_busy hnone), hnone]

theorem arrive (h : s.Sound) (k : κ) : (s.arrive k).Sound := by
  by_cases hnone : s.running = []
  · rw [h.arrive_of_none hnone]
    constructor <;> simp
  · rw [h.arrive_of_running hnone]
    exact ⟨h.single, h.busy_iff⟩

variable [DecidableEq κ]

theorem leave (h : s.Sound) (hmem : k ∈ s.running) (reply : Reply ρ) :
    (s.leave k reply).Sound ∧ (s.leave k reply).running = [] := by
  have hnone : (s.leave k reply).running = [] := by
    simp [Sharing.leave, h.running_eq hmem]
  refine ⟨⟨by simp [hnone], ?_⟩, hnone⟩
  rw [hnone]
  simp [Sharing.leave, Generator.finish]

theorem step (source : κ → Source α σ) (h : s.Sound) {event : Event κ ρ}
    (hstep : s.step? source event = some s') : s'.Sound := by
  cases event with
  | call k =>
      obtain rfl := Option.some.inj hstep
      exact h.arrive k
  | nested outer k =>
      obtain ⟨_, hstep⟩ := Option.ite_none_right_eq_some.mp hstep
      obtain rfl := Option.some.inj hstep
      exact h.arrive k
  | draw k =>
      obtain ⟨_, hstep⟩ := Option.ite_none_right_eq_some.mp hstep
      obtain rfl := Option.some.inj hstep
      exact ⟨h.single, h.busy_iff⟩
  | finish k result =>
      obtain ⟨hmem, hstep⟩ := Option.ite_none_right_eq_some.mp hstep
      obtain rfl := Option.some.inj hstep
      exact (h.leave hmem _).1
  | panic k =>
      obtain ⟨hmem, hstep⟩ := Option.ite_none_right_eq_some.mp hstep
      obtain rfl := Option.some.inj hstep
      exact (h.leave hmem _).1

theorem after (source : κ → Source α σ) (h : s.Sound) {events : List (Event κ ρ)}
    (hafter : s.after? source events = some s') : s'.Sound := by
  induction events generalizing s with
  | nil =>
      obtain rfl := Option.some.inj hafter
      exact h
  | cons event events ih =>
      obtain ⟨next, hnext, hrest⟩ := Option.bind_eq_some_iff.mp hafter
      exact ih (h.step source hnext) hrest

end Sound

/-- Calls while a generation is in flight leave nothing but their replies. -/
theorem Sound.foldl_arrive (h : s.Sound) (hrunning : s.running ≠ []) (calls : List κ) :
    calls.foldl Sharing.arrive s =
      { s with replies := (calls.map fun k => (k, Reply.dropped)).reverse ++ s.replies } := by
  induction calls generalizing s with
  | nil => rfl
  | cons k calls ih =>
      have harrive := h.arrive_of_running hrunning k
      have hrest := ih (h.arrive k) (by rwa [harrive])
      rw [List.foldl_cons, hrest, harrive]
      simp

end Sharing

/-! ## Calls as they are carried out -/

namespace Generator

variable {g : Generator} {s : σ} {broken : σ → Bool} {run : Generator × σ → ρ × Generator × σ}

theorem attempt_of_busy (h : g.busy = true) :
    attempt broken run (g, s) = (.dropped, g, s) := by
  simp [attempt, begin?, h]

theorem attempt_of_not_busy (h : g.busy = false) :
    attempt broken run (g, s) =
      (if broken (run (⟨true⟩, s)).2.2 then .failed else .done (run (⟨true⟩, s)).1, idle,
        (run (⟨true⟩, s)).2.2) := by
  simp [attempt, begin?, h, finish, idle]

/-- What can be done with a generator in reach: looking at it, calling it, and one after the
other. -/
inductive Use {σ : Type} : {γ : Type} → (Generator × σ → γ × Generator × σ) → Prop where
  | own {γ : Type} (f : Generator → σ → γ × σ) :
      Use fun state => ((f state.1 state.2).1, state.1, (f state.1 state.2).2)
  | call {γ : Type} (broken : σ → Bool) (run : Generator × σ → γ × Generator × σ) :
      Use (attempt broken run)
  | andThen {γ δ : Type} {f : Generator × σ → γ × Generator × σ}
      {f' : γ → Generator × σ → δ × Generator × σ} (hf : Use f) (hf' : ∀ x, Use (f' x)) :
      Use fun state => f' (f state).1 (f state).2

/-- A call that comes back leaves the generator as it was. -/
theorem attempt_generator (state : Generator × σ) : (attempt broken run state).2.1 = state.1 := by
  obtain ⟨⟨busy⟩, s⟩ := state
  cases busy with
  | true => rw [attempt_of_busy rfl]
  | false =>
      rw [attempt_of_not_busy rfl]
      rfl

theorem Use.generator_eq {γ : Type} {f : Generator × σ → γ × Generator × σ} (h : Use f)
    (state : Generator × σ) : (f state).2.1 = state.1 := by
  induction h generalizing state with
  | own f => rfl
  | call broken run => exact attempt_generator state
  | andThen _ _ ihf ihf' => exact (ihf' _ _).trans (ihf state)

theorem Use.take_generator {source : Source α (Generator × σ)} (h : Use source.next) (n : Nat)
    (state : Generator × σ) : (source.take n state).2.1 = state.1 := by
  induction n generalizing state with
  | zero => rfl
  | succ n ih =>
      simp only [Source.take]
      rw [ih, h.generator_eq]

variable [Scalar α] (r : Request α)

theorem generateWith_of_busy (source : Source α (Generator × σ)) (h : g.busy = true) :
    generateWith r source broken (g, s) = (.dropped, g, s) :=
  attempt_of_busy h

theorem generateWith_of_not_busy (source : Source α (Generator × σ)) (broken : σ → Bool) (s : σ)
    (h : g.busy = false) :
    ∃ n, generateWith r source broken (g, s) =
      (if broken (source.take n (⟨true⟩, s)).2.2 then .failed
        else .done (r.generation source (⟨true⟩, s)).output,
        idle, (source.take n (⟨true⟩, s)).2.2) := by
  have hdrawn : (r.generation source (⟨true⟩, s)).tour.walk.source =
      (source.take (r.setting source (⟨true⟩, s)).sampleCount (⟨true⟩, s)).2 :=
    Setting.tour_source (S := r.setting source (⟨true⟩, s))
  refine ⟨(r.setting source (⟨true⟩, s)).sampleCount, ?_⟩
  rw [← hdrawn]
  exact attempt_of_not_busy h

theorem generate_of_busy (fresh : UInt64) (h : g.busy = true) :
    generate r fresh g = (.dropped, g) := by
  simp only [generate, attempt_of_busy h]

theorem generate_of_not_busy (fresh : UInt64) (h : g.busy = false) :
    generate r fresh g =
      (.done { (r.generation Source.seeded (Keystream.start (r.seed.getD fresh))).output with
        seed := some (r.seed.getD fresh) }, idle) := by
  simp only [generate, attempt_of_not_busy h]
  rfl

end Generator

/-- The samples of `own`, with a generator in reach that is left alone. -/
def Source.beside (own : Source α σ) : Source α (Generator × σ) :=
  ⟨fun state => ((own.next state.2).1, state.1, (own.next state.2).2)⟩

theorem Source.take_beside (own : Source α σ) (n : Nat) (g : Generator) (x : σ) :
    (own.beside.take n (g, x)).2 = (g, (own.take n x).2) := by
  induction n generalizing x with
  | zero => rfl
  | succ n ih =>
      simp only [take, beside] at ih ⊢
      rw [ih]

namespace Sharing

variable [DecidableEq κ] {s : Sharing κ σ ρ} {k : κ}

theorem after?_cons {source : κ → Source α σ} {event : Event κ ρ} {next : Sharing κ σ ρ}
    (hstep : s.step? source event = some next) (events : List (Event κ ρ)) :
    s.after? source (event :: events) = next.after? source events := by
  simp only [after?, List.foldlM_cons, hstep, Option.bind_eq_bind, Option.bind_some]

theorem after?_draws (source : κ → Source α σ) (hmem : k ∈ s.running) (n : Nat)
    (events : List (Event κ ρ)) :
    s.after? source (List.replicate n (.draw k) ++ events) =
      { s with stream := Function.update s.stream k ((source k).take n (s.stream k)).2 }.after?
        source events := by
  induction n generalizing s with
  | zero => simp [Source.take]
  | succ n ih =>
      have hdraw : s.step? source (.draw k) = some (s.draw source k) := if_pos hmem
      rw [List.replicate_succ, List.cons_append, after?_cons hdraw]
      refine (ih (s := s.draw source k) hmem).trans ?_
      simp [draw, Source.take]

/-- A generation that draws `n` samples and ends, with nothing in between. -/
theorem after?_alone (source : κ → Source α σ) (h : s.Sound) (hnone : s.running = []) (k : κ)
    (n : Nat) {last : Event κ ρ} {reply : Reply ρ}
    (hlast : ∀ s : Sharing κ σ ρ, k ∈ s.running → s.step? source last = some (s.leave k reply)) :
    s.after? source (.call k :: (List.replicate n (.draw k) ++ [last])) =
      some { s with
        generator := Generator.idle
        stream := Function.update s.stream k ((source k).take n (s.stream k)).2
        replies := (k, reply) :: s.replies } := by
  have hcall : s.step? source (.call k) = some { s with generator := ⟨true⟩, running := [k] } :=
    congrArg some (h.arrive_of_none hnone k)
  rw [after?_cons hcall, after?_draws source (List.mem_singleton_self k),
    after?_cons (hlast _ (List.mem_singleton_self k))]
  simp [after?, leave, Generator.finish, Generator.idle, hnone]

variable [Scalar α]

/-- A call that is accepted and carried out to its end is the event of its arrival, the events of
its draws and the event of its end, one after the other. -/
theorem after?_generateWith {s : Sharing κ σ (Output α)} (source : κ → Source α σ)
    (r : Request α) (broken : σ → Bool) (h : s.Sound) (hnone : s.running = []) (k : κ) :
    ∃ n, ∃ last : Event κ (Output α),
      let (reply, generator, left) :=
        Generator.generateWith r (source k).beside broken (s.generator, s.stream k)
      s.after? source (.call k :: (List.replicate n (.draw k) ++ [last])) =
        some { s with
          generator
          stream := Function.update s.stream k left
          replies := (k, reply) :: s.replies } := by
  obtain ⟨n, hcall⟩ := Generator.generateWith_of_not_busy r (source k).beside broken (s.stream k)
    (h.not_busy hnone)
  rw [hcall, Source.take_beside]
  by_cases hbroken : broken ((source k).take n (s.stream k)).2 = true
  · refine ⟨n, .panic k, ?_⟩
    rw [if_pos hbroken]
    exact after?_alone source h hnone k n fun _ hmem => if_pos hmem
  · refine ⟨n, .finish k (r.generation (source k).beside (⟨true⟩, s.stream k)).output, ?_⟩
    rw [if_neg hbroken]
    exact after?_alone source h hnone k n fun _ hmem => if_pos hmem

/-- In whatever order the callers act, one generation at most is in flight, and the generator is
busy exactly when one is.  Then every call is dropped: it is told so, and nothing else changes.
When none is in flight, as after any end of a generation, the next call is accepted. -/
theorem one_generation_at_a_time (source : κ → Source α σ) (stream : κ → σ)
    {events : List (Event κ ρ)} (hafter : (opened stream).after? source events = some s) :
    s.Sound ∧
      (s.running ≠ [] →
        (∀ calls : List κ, calls.foldl arrive s =
          { s with replies := (calls.map fun k => (k, Reply.dropped)).reverse ++ s.replies }) ∧
        ∀ (r : Request α) (fresh : UInt64) {τ : Type} (own : Source α (Generator × τ))
          (broken : τ → Bool) (x : τ),
          Generator.generateWith r own broken (s.generator, x) = (.dropped, s.generator, x) ∧
            Generator.generate r fresh s.generator = (.dropped, s.generator)) ∧
      (s.running = [] →
        (∀ k, s.arrive k = { s with generator := ⟨true⟩, running := [k] }) ∧
        ∀ (r : Request α) (fresh : UInt64) {τ : Type} (own : Source α (Generator × τ))
          (broken : τ → Bool) (x : τ),
          (∃ reply left, reply ≠ .dropped ∧
            Generator.generateWith r own broken (s.generator, x) = (reply, .idle, left)) ∧
          (Generator.Use own.next → ∀ (n : Nat) (r' : Request α) (own' : Source α (Generator × τ))
            (y : τ), Generator.generateWith r' own' broken ((own.take n (⟨true⟩, x)).2.1, y) =
              (.dropped, ⟨true⟩, y)) ∧
          ∃ o, Generator.generate r fresh s.generator = (.done o, .idle)) ∧
      ∀ k ∈ s.running, ∀ (calls : List κ) (reply : Reply ρ),
        let left := (calls.foldl arrive s).leave k reply
        left.Sound ∧ left.running = [] ∧
          ∀ j, left.arrive j = { left with generator := ⟨true⟩, running := [j] } := by
  have h : s.Sound := (sound_opened stream).after source hafter
  refine ⟨h, ?_, ?_, ?_⟩
  · intro hrunning
    have hbusy := h.busy_iff.mpr hrunning
    refine ⟨h.foldl_arrive hrunning, ?_⟩
    intro r fresh τ own broken x
    exact ⟨Generator.generateWith_of_busy r own hbusy, Generator.generate_of_busy r fresh hbusy⟩
  · intro hnone
    have hfree := h.not_busy hnone
    refine ⟨h.arrive_of_none hnone, ?_⟩
    intro r fresh τ own broken x
    refine ⟨?_, ?_, _, Generator.generate_of_not_busy r fresh hfree⟩
    · obtain ⟨n, hcall⟩ := Generator.generateWith_of_not_busy r own broken x hfree
      refine ⟨_, _, ?_, hcall⟩
      split <;> simp
    · intro huse n r' own' y
      rw [huse.take_generator]
      exact Generator.generateWith_of_busy r' own' rfl
  · intro k hk calls reply
    have hrunning : s.running ≠ [] := List.ne_nil_of_mem hk
    have hcalls := h.foldl_arrive hrunning calls
    have hsound : (calls.foldl arrive s).Sound := by
      rw [hcalls]
      exact ⟨h.single, h.busy_iff⟩
    obtain ⟨hleft, hnone⟩ := hsound.leave (k := k) (by rwa [hcalls]) reply
    exact ⟨hleft, hnone, hleft.arrive_of_none hnone⟩

theorem one_generation_at_a_time_nested :
    ∃ s : Sharing Nat Unit Unit,
      (opened fun _ => ()).after? (fun _ => Source.constant (Scalar.half : Float32))
          [.call 0, .nested 0 1, .draw 0, .call 2, .panic 0, .call 3] = some s ∧
        s.running = [3] ∧ s.replies = [(0, .failed), (2, .dropped), (1, .dropped)] ∧
        s.Sound ∧ s.arrive 4 = { s with replies := (4, .dropped) :: s.replies } := by
  refine ⟨_, rfl, rfl, rfl, ?_⟩
  obtain ⟨hsound, hbusy, -⟩ := one_generation_at_a_time
    (fun _ => Source.constant (Scalar.half : Float32)) (fun _ => ())
    (show (opened fun _ => ()).after? _ [.call (0 : Nat), .nested 0 1, .draw 0, .call 2,
      .panic 0, .call 3] = some _ from rfl)
  exact ⟨hsound, (hbusy (List.cons_ne_nil _ _)).1 [4]⟩

end Sharing

end PlantGrowth
