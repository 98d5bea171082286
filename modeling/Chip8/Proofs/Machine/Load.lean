import Chip8.Proofs.Machine.Observation
import Chip8.Proofs.Machine.Reset
import Chip8.Proofs.Memory.Block
import Mathlib.Data.List.GetD

set_option autoImplicit false

/-! # A loaded image erases the past

An image of a size that fits is always loaded. Whatever the machine was doing, it is then one that
was just built, with the image in its memory (`loadImage_acts`). Its phase and its source of random
bytes are all that is left of the past; two machines that agree in these, and are given the same
image, cannot be told apart any more (`loadImage_erases_past`).
-/

namespace Chip8

/-! ## The memory that holds an image -/

namespace Memory

/-- The byte at the place `k` when the memory holds the font and an image, and zeros elsewhere. -/
def byteWith (image : List UInt8) (k : Nat) : UInt8 :=
  if k < 0x050 then font.getD k 0
  else if k < 0x200 then 0
  else image.getD (k - 0x200) 0

/-- The memory that holds the font and an image, and zeros elsewhere. -/
def holding (image : List UInt8) : Memory := ⟨Vector.ofFn fun k => byteWith image k.val⟩

theorem getElem_initial (k : Nat) (hk : k < 4096) : initial.bytes[k] = font.getD k 0 := by
  show (overwrite (Vector.replicate 4096 0) 0 font)[k] = _
  rw [getElem_overwrite _ _ _ _ hk]
  by_cases h : k < font.length
  · rw [dif_pos (by omega), List.getD_eq_getElem _ _ h]
    rfl
  · rw [dif_neg (by omega), List.getD_eq_default _ _ (by omega), Vector.getElem_replicate]

/-- An image that is put into the memory after a reset stands there with the font and zeros. -/
theorem overwrite_initial (image : List UInt8) :
    (⟨overwrite initial.bytes 0x200 image⟩ : Memory) = holding image := by
  have hfont : font.length = 0x050 := rfl
  refine congrArg Memory.mk (Vector.ext fun k hk => ?_)
  rw [getElem_overwrite _ _ _ _ hk, getElem_initial k hk, Vector.getElem_ofFn]
  show _ = byteWith image k
  unfold byteWith
  by_cases hglyph : k < 0x050
  · rw [dif_neg (by omega), if_pos hglyph]
  · rw [if_neg hglyph]
    by_cases hreserved : k < 0x200
    · rw [dif_neg (by omega), if_pos hreserved, List.getD_eq_default _ _ (by omega)]
    · rw [if_neg hreserved]
      by_cases himage : k < 0x200 + image.length
      · rw [dif_pos (by omega), List.getD_eq_getElem _ _ (by omega)]
      · rw [dif_neg (by omega), List.getD_eq_default _ _ (by omega),
          List.getD_eq_default _ _ (by omega)]

end Memory

/-! ## The values of an image -/

/-- The bytes of an image as a host gives them to a machine. -/
def Image.values (image : List UInt8) : List Int := image.map fun b => (b.toNat : Int)

theorem Image.length_values (image : List UInt8) : (values image).length = image.length :=
  List.length_map _

theorem Image.all_isByte_values (image : List UInt8) : (values image).all isByte = true := by
  rw [values, List.all_map, List.all_eq_true]
  intro b _
  have := b.toNat_lt
  simp only [Function.comp_apply, isByte, Bool.and_eq_true, decide_eq_true_eq]
  omega

theorem Image.clampByte_values (image : List UInt8) : (values image).map clampByte = image := by
  rw [values, List.map_map]
  refine (List.map_congr_left fun b _ => ?_).trans (List.map_id image)
  exact clampByte_ofNat_toNat b

theorem Memory.load_initial {image : List UInt8} (h : image.length ≤ 0xE00) :
    initial.load programStart (Image.values image) = .ok (holding image) := by
  have hstart : (programStart : Int) = 0x200 := rfl
  refine load_eq_ok_iff.2 ⟨?_, ?_⟩
  · rw [hstart, Image.length_values]
    omega
  · rw [Image.clampByte_values]
    exact (overwrite_initial image).symm

namespace Machine

variable {τ : Type}

theorem loadProgram_of_load {m : Machine τ} {data : List Int} {memory : Memory}
    (hbytes : data.all isByte = true)
    (hload : m.state.memory.load programStart data = .ok memory) :
    m.loadProgram data =
      { answer := .ok ()
        after := m.mapProcessor fun p => { p with state := { p.state with memory } }
        log := #[.loaded data.length] } := by
  rw [loadProgram, if_pos hbytes, hload]

variable [Sub τ] [LT τ] [DecidableLT τ]

/-- The machine that a configuration describes when an image has just been loaded. -/
def ofImage (c : Config) (image : List UInt8) (random : Twister) (period now : τ) (phase : Phase) :
    Machine τ where
  processor := {
    state := { c.initialState random with memory := .holding image }
    period
    lastTick := now }
  phase := phase

/-- An image of a size that fits is loaded, and leaves the machine as if it had just been built with
it. -/
theorem loadImage_acts {image : List UInt8} (hsize : 0 < image.length ∧ image.length ≤ 0xE00)
    (c : Config) (random : Twister) (period t : τ) (as : List (Action τ)) (now : τ) :
    let m := (c.machine random period t).acts as
    m.loadImage now (Image.values image) =
      { answer := .ok ()
        after := ofImage c image m.state.random period now m.phase
        log := #[.loaded image.length] } := by
  intro m
  have hcheck : Image.check (Image.values image).length = .ok () := by
    rw [Image.length_values]
    exact Image.check_eq_ok_iff.2 hsize
  have hput : ({ c.machine m.state.random period now with phase := m.phase } :
      Machine τ).loadProgram (Image.values image) = _ :=
    loadProgram_of_load (Image.all_isByte_values image) (Memory.load_initial hsize.2)
  rw [loadImage, hcheck]
  show (m.reset now).loadProgram (Image.values image) = _
  rw [reset_acts, hput, Image.length_values]
  rfl

/-- **A loaded image erases the past.** Any image of a size that fits is loaded into any machine,
whatever it has gone through, and leaves the memory, registers and devices of a machine just built
with it. Two machines of one configuration, in the same phase and with the same source of random
bytes, are the same from then on, and the host sees the same of both. -/
theorem loadImage_erases_past {image : List UInt8}
    (hsize : 0 < image.length ∧ image.length ≤ 0xE00) (c : Config) (random random' : Twister)
    (period t t' : τ) (as as' : List (Action τ)) (now : τ) :
    let m := (c.machine random period t).acts as
    let m' := (c.machine random' period t').acts as'
    m.loadImage now (Image.values image) =
      { answer := .ok ()
        after := ofImage c image m.state.random period now m.phase
        log := #[.loaded image.length] } ∧
    (m.phase = m'.phase → m.state.random = m'.state.random → ∀ bs,
      m.acts (.loadImage now (Image.values image) :: bs) =
        m'.acts (.loadImage now (Image.values image) :: bs) ∧
      m.observe (.loadImage now (Image.values image) :: bs) =
        m'.observe (.loadImage now (Image.values image) :: bs)) := by
  intro m m'
  have hload := loadImage_acts hsize c random period t as now
  have hload' := loadImage_acts hsize c random' period t' as' now
  refine ⟨hload, ?_⟩
  intro hphase hrandom bs
  have hsame : m.outcome (.loadImage now (Image.values image)) =
      m'.outcome (.loadImage now (Image.values image)) := by
    show (m.loadImage now _).map id (fun _ => none) = (m'.loadImage now _).map id (fun _ => none)
    rw [hload, hload', hphase, hrandom]
  constructor
  · rw [acts_cons, acts_cons, ← after_outcome, ← after_outcome, hsame]
  · rw [observe, observe, hsame]

/-- A machine that waits for a key in a subroutine, and one that was built with its source of random
bytes and never used. -/
theorem loadImage_erases_wait :
    let as : List (Action Nat) :=
      [.loadProgram [0x22, 0x04, 0x00, 0x00, 0xF5, 0x0A], .start, .step 0, .step 0, .stop]
    let m := (Config.machine {} (.ofSeed 0) 1 0).acts as
    let m' := (Config.machine {} m.state.random 1 7).acts [.stop]
    m.processor.mode = .awaitingKey 5 ∧ m.state.stack.toList = [0x202] ∧
      m.observe [.loadImage 9 (Image.values [0x12, 0x00]), .forceStep 9] =
        m'.observe [.loadImage 9 (Image.values [0x12, 0x00]), .forceStep 9] := by
  intro as m m'
  have hsize : 0 < ([0x12, 0x00] : List UInt8).length ∧
      ([0x12, 0x00] : List UInt8).length ≤ 0xE00 := by decide
  have herases := loadImage_erases_past hsize {} (.ofSeed 0) m.state.random 1 0 7 as [.stop] 9
  have hphase : m.phase = m'.phase := by decide +kernel
  have hbuilt (random : Twister) :
      random = ((Config.machine {} random 1 7 : Machine Nat).acts [.stop]).state.random := rfl
  have hrandom : m.state.random = m'.state.random := hbuilt m.state.random
  exact ⟨by decide +kernel, by decide +kernel, (herases.2 hphase hrandom [.forceStep 9]).2⟩

end Machine

end Chip8
