import Chip8.Proofs.Processor.Keypad
import Chip8.Proofs.Processor.Sound
import Chip8.Proofs.Screen.Edge

set_option autoImplicit false

/-! # Steps under other settings

Two settings of a machine are part of its state: whether its screen wraps, and how deep its stack
is. The first is looked at only where a lit dot of a sprite leaves the grid, and the second only by
a call, to see whether the stack is full (`Instruction.meetsEdge`). An instruction that does neither
has the same effect under other settings, as long as they make the stack no shallower
(`execute_withSettings`), and then so has the step that comes upon it (`step_withSettings`).
-/

namespace Chip8

/-- The stack with another depth. -/
def CallStack.withDepth (s : CallStack) (depth : Nat) : CallStack :=
  { s with depth, given := .int depth }

/-- The state under other settings. -/
def State.withSettings (s : State) (wrap : Bool) (depth : Nat) : State :=
  { s with stack := s.stack.withDepth depth, screen := s.screen.withWrap wrap }

theorem CallStack.push_withDepth {s : CallStack} {depth : Nat} (hroom : s.size < s.depth)
    (hdepth : s.depth ≤ depth) (address : Int) :
    (s.withDepth depth).push address = (s.push address).map (·.withDepth depth) := by
  have hroom' : (s.withDepth depth).size < (s.withDepth depth).depth := by
    show s.size < depth
    omega
  unfold push
  rw [if_neg (by omega), if_neg (by omega)]
  rfl

namespace Instruction

/-- Whether an instruction comes upon an edge of the machine: it calls with a full stack, or draws a
sprite with a lit dot that does not lie on the grid. -/
def meetsEdge (i : Instruction) (s : State) : Bool :=
  match i with
  | call _ => s.stack.depth ≤ s.stack.size
  | draw x y n =>
    match s.memory.block s.registers.i n.val with
    | .error _ => false
    | .ok rows => Screen.leavesGrid (s.get x).toNat (s.get y).toNat
        (rows.map fun b => (b.toNat : Int))
  | _ => false

/-- Whether an instruction comes upon an edge depends on the memory, the stack and the registers but
for the program counter and the stack pointer. -/
theorem meetsEdge_congr {s t : State} (i : Instruction) (hmemory : t.memory = s.memory)
    (hstack : t.stack = s.stack) (hget : ∀ x, t.get x = s.get x)
    (hindex : t.registers.i = s.registers.i) : i.meetsEdge t = i.meetsEdge s := by
  cases i with
  | call nnn => rw [meetsEdge, meetsEdge, hstack]
  | draw x y n => rw [meetsEdge, meetsEdge, hmemory, hindex, hget x, hget y]
  | _ => rfl

/-- An instruction that comes upon no edge does the same under other settings. -/
theorem execute_withSettings {i : Instruction} {s : State} {maxDepth depth : Nat}
    (hs : s.Sound maxDepth) (hdepth : maxDepth ≤ depth) (hedge : i.meetsEdge s = false)
    (wrap : Bool) :
    i.execute (s.withSettings wrap depth) =
      (i.execute s).map (·.withSettings wrap depth) := by
  cases i with
  | call nnn =>
      have hroom : s.stack.size < s.stack.depth := by
        have hfull : ¬ s.stack.depth ≤ s.stack.size := of_decide_eq_false hedge
        omega
      have hpush : (s.withSettings wrap depth).stack.push (s.withSettings wrap depth).pc =
          (s.stack.push s.pc).map (·.withDepth depth) :=
        CallStack.push_withDepth hroom (by rw [hs.depth]; exact hdepth) s.pc
      rw [execute, execute, hpush, map_map, map_map]
      rfl
  | draw x y n =>
      have hblock : (s.withSettings wrap depth).memory.block
          (s.withSettings wrap depth).registers.i n.val =
          s.memory.block s.registers.i n.val := rfl
      rw [execute, execute, hblock]
      cases hrows : s.memory.block s.registers.i n.val with
      | error e => rfl
      | ok rows =>
          have hinside : Screen.leavesGrid (s.get x).toNat (s.get y).toNat
              (rows.map fun b => (b.toNat : Int)) = false := by
            simpa only [meetsEdge, hrows] using hedge
          have hdraw := Screen.draw_withWrap hs.width hs.height hinside wrap
          dsimp only
          rw [map_map]
          show (((s.screen.withWrap wrap).draw (s.get x).toNat (s.get y).toNat _).map _) = _
          rw [hdraw, map_map]
          rfl
  | storeDecimal x =>
      rw [execute, execute, map_map]
      rfl
  | store x =>
      rw [execute, execute, map_map]
      rfl
  | load x =>
      rw [execute, execute, map_map]
      rfl
  | _ => rfl

end Instruction

namespace Processor

variable {τ : Type}

/-- The processor under other settings. -/
def withSettings (p : Processor τ) (wrap : Bool) (depth : Nat) : Processor τ :=
  { p with state := p.state.withSettings wrap depth }

theorem resolve_withSettings (p : Processor τ) (wrap : Bool) (depth : Nat) :
    (p.withSettings wrap depth).resolve.2 = p.resolve.2.withSettings wrap depth := by
  have hmode : (p.withSettings wrap depth).mode = p.mode := rfl
  have hkeypad : (p.withSettings wrap depth).state.keypad = p.state.keypad := rfl
  unfold resolve
  rw [hmode]
  cases p.mode with
  | running => rfl
  | awaitingKey x =>
      dsimp only
      rw [hkeypad]
      cases p.state.keypad.take with
      | mk key keypad => cases key <;> rfl

theorem setKey_withSettings (p : Processor τ) (key : Key) (pressed resolving : Bool) (wrap : Bool)
    (depth : Nat) :
    (p.withSettings wrap depth).setKey key pressed resolving =
      (p.setKey key pressed resolving).withSettings wrap depth := by
  unfold setKey
  split
  · exact resolve_withSettings { p with state := { p.state with
      keypad := p.state.keypad.set key pressed } } wrap depth
  · rfl

/-- The instruction that the next step comes upon, if there is one, comes upon no edge. -/
def KeepsInside (p : Processor τ) : Prop :=
  p.mode = .running → ∀ w, p.state.fetch = .ok w →
    (Instruction.decode w).meetsEdge p.state = false

section Proceeds

variable {p : Processor τ} {o : Outcome (Processor τ) Snapshot} {maxDepth depth : Nat}

/-- Under other settings a step has the same outcome, up to these settings. -/
theorem proceeds_withSettings (hs : p.state.Sound maxDepth) (hdepth : maxDepth ≤ depth)
    (hinside : p.KeepsInside) (wrap : Bool) (ho : Proceeds p o) :
    Proceeds (p.withSettings wrap depth) (o.map (·.withSettings wrap depth) id) := by
  have hexecute {w : Word} {r : Except Fault State} (hm : p.mode = .running)
      (hf : p.state.fetch = .ok w) (he : (Instruction.decode w).execute p.state.advance = r) :
      (Instruction.decode w).execute (p.withSettings wrap depth).state.advance =
        r.map (·.withSettings wrap depth) := by
    have hadvance : p.state.advance.Sound maxDepth := hs.congr rfl rfl rfl rfl
    have hedge : (Instruction.decode w).meetsEdge p.state.advance = false := by
      rw [Instruction.meetsEdge_congr (t := p.state.advance) (s := p.state) _ rfl rfl
        (fun _ => rfl) rfl]
      exact hinside hm w hf
    rw [← he]
    exact Instruction.execute_withSettings hadvance hdepth hedge wrap
  cases ho with
  | waits hm =>
      have hstep := @Proceeds.waits τ (p.withSettings wrap depth) _ hm
      rw [resolve_withSettings] at hstep
      exact hstep
  | unfetched hm hf => exact .unfetched hm hf
  | refused hm hf he => exact .refused hm hf (hexecute hm hf he)
  | @overrun w t hm hf he hpc =>
      exact @Proceeds.overrun τ (p.withSettings wrap depth) w (t.withSettings wrap depth) hm hf
        (hexecute hm hf he) hpc
  | @executes w t hm hf he hpc =>
      exact @Proceeds.executes τ (p.withSettings wrap depth) w (t.withSettings wrap depth) hm hf
        (hexecute hm hf he) hpc

variable [Sub τ] [LT τ] [DecidableLT τ]

theorem tick_withSettings (p : Processor τ) (wrap : Bool) (depth : Nat) (now : τ) :
    (p.withSettings wrap depth).tick now = (p.tick now).withSettings wrap depth := by
  show (if now - p.lastTick < p.period then _ else _) = _
  unfold tick
  split <;> rfl

theorem KeepsInside.tick (h : p.KeepsInside) (now : τ) : (p.tick now).KeepsInside := by
  intro hm w hw
  rw [mode_tick] at hm
  rw [fetch_tick] at hw
  have hget : ∀ x, (p.tick now).state.get x = p.state.get x := by
    intro x
    rw [State.get, registers_tick]
    rfl
  rw [Instruction.meetsEdge_congr _ (memory_tick p now) (stack_tick p now) hget
    (by rw [registers_tick])]
  exact h hm w hw

theorem step_withSettings (hp : p.Sound maxDepth) (hdepth : maxDepth ≤ depth)
    (hinside : p.KeepsInside) (wrap : Bool) (now : τ) :
    (p.withSettings wrap depth).step now = (p.step now).map (·.withSettings wrap depth) id := by
  rw [step, tick_withSettings]
  exact proceed_eq_of_proceeds
    (proceeds_withSettings (hp.tick now).state hdepth (hinside.tick now) wrap (proceeds _))

end Proceeds

end Processor

end Chip8
