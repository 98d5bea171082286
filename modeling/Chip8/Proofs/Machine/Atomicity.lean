import Chip8.Proofs.Machine.Load
import Chip8.Proofs.Memory.Transfer

set_option autoImplicit false

/-! # Loading is all or nothing

A program is put at the program start as a whole (`Loaded`), or it is refused and the machine is as
before (`Refused`). An image is treated alike, with two differences. The empty one is refused, too,
and the machine is reset before the image is put there.

The reset comes between the two checks of an image. Its size is checked before it, and whether its
values are bytes only behind it. A host that has bytes, such as those of a file, never comes upon
the second check; one that gives other numbers finds its machine reset (`load_all_or_nothing`).
-/

namespace Chip8

/-! ## What a load leaves of the memory -/

/-- Bytes are written as they are given. -/
theorem Memory.written_of_isByte {m n : Memory} {start : Int} {data : List Int}
    (hload : m.load start data = .ok n) (hbytes : ∀ v ∈ data, isByte v = true) :
    Written start data m n := by
  have hclamp : data.map clamp = data := by
    refine (List.map_congr_left fun v hv => ?_).trans (List.map_id data)
    have hbyte := hbytes v hv
    simp only [isByte, Bool.and_eq_true, decide_eq_true_eq] at hbyte
    show max 0 (min 255 v) = v
    omega
  have hwritten := written_of_load hload
  rwa [hclamp] at hwritten

/-- Whether `data` can stand at the program start: they are bytes, and fit there. -/
def IsProgram (data : List Int) : Prop := (∀ v ∈ data, isByte v = true) ∧ data.length ≤ 0xE00

namespace Machine

variable {τ : Type} {m : Machine τ} {data : List Int}

/-- An outcome that has put `data` at the program start of the machine `m`, and has changed nothing
else of it. -/
structure Loaded (m : Machine τ) (data : List Int) (o : Outcome (Machine τ) Unit) : Prop where
  answer : o.answer = .ok ()
  memory : Memory.Written programStart data m.state.memory o.after.state.memory
  rest : o.after = m.mapProcessor fun p =>
    { p with state := { p.state with memory := o.after.state.memory } }

/-- An outcome with a fault that has left the machine `m` as it was, and has written no record. -/
def Refused (m : Machine τ) (o : Outcome (Machine τ) Unit) : Prop :=
  ∃ e, o = { answer := .error e, after := m }

/-! ## Programs -/

theorem loadProgram_of_not_isByte (h : ¬ ∀ v ∈ data, isByte v = true) :
    m.loadProgram data = { answer := .error .notByte, after := m } := by
  have hall : ¬ data.all isByte = true := by
    rw [List.all_eq_true]
    exact h
  rw [loadProgram, if_neg hall]

theorem loaded_loadProgram (h : IsProgram data) : Loaded m data (m.loadProgram data) := by
  obtain ⟨hbytes, hsize⟩ := h
  have hstart : (programStart : Int) = 0x200 := rfl
  obtain ⟨n, hload⟩ : ∃ n, m.state.memory.load programStart data = .ok n :=
    ⟨_, Memory.load_eq_ok_iff.2 ⟨by omega, rfl⟩⟩
  rw [loadProgram_of_load (List.all_eq_true.2 hbytes) hload]
  exact ⟨rfl, Memory.written_of_isByte hload hbytes, rfl⟩

theorem refused_loadProgram (h : ¬ IsProgram data) : Refused m (m.loadProgram data) := by
  by_cases hbytes : ∀ v ∈ data, isByte v = true
  · -- the data are bytes, and so there are too many of them
    have hsize : ¬ data.length ≤ 0xE00 := fun hfits => h ⟨hbytes, hfits⟩
    have hstart : (programStart : Int) = 0x200 := rfl
    have hload : m.state.memory.load programStart data = .error _ :=
      Memory.load_eq_error_iff.2 (.inr ⟨by omega, by omega, by omega, rfl⟩)
    rw [loadProgram, if_pos (List.all_eq_true.2 hbytes), hload]
    exact ⟨_, rfl⟩
  · rw [loadProgram_of_not_isByte hbytes]
    exact ⟨_, rfl⟩

/-! ## Images -/

variable {now : τ}

theorem loadImage_of_size (h : 0 < data.length ∧ data.length ≤ 0xE00) :
    m.loadImage now data = (m.reset now).loadProgram data := by
  rw [loadImage, Image.check_eq_ok_iff.2 h]

theorem refused_loadImage (h : ¬ (0 < data.length ∧ data.length ≤ 0xE00)) :
    Refused m (m.loadImage now data) := by
  unfold loadImage
  cases hcheck : Image.check data.length with
  | error e => exact ⟨e, rfl⟩
  | ok u => exact absurd (Image.check_eq_ok_iff.1 hcheck) h

theorem isProgram_values {bytes : List UInt8} (h : bytes.length ≤ 0xE00) :
    IsProgram (Image.values bytes) := by
  constructor
  · exact List.all_eq_true.1 (Image.all_isByte_values bytes)
  · rw [Image.length_values]
    exact h

/-- The contents of a file are bytes, so that its image is loaded or refused. -/
theorem loadFile_cases (m : Machine τ) (now : τ) (path : String) (contents : FileContents) :
    (∃ bytes, contents = .ok bytes ∧ 0 < bytes.length ∧ bytes.length ≤ 0xE00 ∧
        Loaded (m.reset now) (Image.values bytes) (m.loadFile now path contents)) ∨
      Refused m (m.loadFile now path contents) := by
  cases contents with
  | error problem =>
      right
      unfold loadFile
      cases problem <;> exact ⟨_, rfl⟩
  | ok bytes =>
      by_cases hsize : 0 < bytes.length ∧ bytes.length ≤ 0xE00
      · left
        have hload : Loaded (m.reset now) (Image.values bytes)
            (m.loadImage now (Image.values bytes)) := by
          rw [loadImage_of_size (by rw [Image.length_values]; exact hsize)]
          exact loaded_loadProgram (isProgram_values hsize.2)
        have hfile : Image.ofFile path (.ok bytes) = .ok (bytes, .imageRead path bytes.length) := by
          rw [Image.ofFile, Image.check_eq_ok_iff.2 hsize]
          rfl
        refine ⟨bytes, rfl, hsize.1, hsize.2, ?_⟩
        rw [loadFile, hfile]
        exact ⟨hload.answer, hload.memory, hload.rest⟩
      · right
        cases hcheck : Image.check bytes.length with
        | error e =>
            have hfile : Image.ofFile path (.ok bytes) = .error e := by
              rw [Image.ofFile, hcheck]
              rfl
            rw [loadFile, hfile]
            exact ⟨e, rfl⟩
        | ok u => exact absurd (Image.check_eq_ok_iff.1 hcheck) hsize

/-- **Loading is all or nothing.** A program is put at the program start if it consists of bytes and
fits there, and then nothing else changes. Otherwise it is refused. An image that consists of bytes,
fits and is not empty is put there when the machine has been reset. An empty image or one that is
too long is refused, and so is a file that has no image. An image of the right size with a value
that is no byte is not loaded either, but the machine has been reset when this is found. -/
theorem load_all_or_nothing (m : Machine τ) (now : τ) (data : List Int) :
    (IsProgram data ∧ Loaded m data (m.loadProgram data) ∨
      ¬ IsProgram data ∧ Refused m (m.loadProgram data)) ∧
    (IsProgram data ∧ data ≠ [] ∧ Loaded (m.reset now) data (m.loadImage now data) ∨
      (data = [] ∨ 0xE00 < data.length) ∧ Refused m (m.loadImage now data) ∨
      ¬ IsProgram data ∧ data ≠ [] ∧ data.length ≤ 0xE00 ∧
        m.loadImage now data = { answer := .error .notByte, after := m.reset now }) ∧
    ∀ path contents,
      (∃ bytes, contents = .ok bytes ∧ 0 < bytes.length ∧ bytes.length ≤ 0xE00 ∧
        Loaded (m.reset now) (Image.values bytes) (m.loadFile now path contents)) ∨
      Refused m (m.loadFile now path contents) := by
  refine ⟨?_, ?_, loadFile_cases m now⟩
  · by_cases h : IsProgram data
    · exact .inl ⟨h, loaded_loadProgram h⟩
    · exact .inr ⟨h, refused_loadProgram h⟩
  · by_cases hsize : 0 < data.length ∧ data.length ≤ 0xE00
    · rw [loadImage_of_size hsize]
      have hne : data ≠ [] := List.length_pos_iff.1 hsize.1
      by_cases hdata : IsProgram data
      · exact .inl ⟨hdata, hne, loaded_loadProgram hdata⟩
      · -- the size is right, so that it is a value that is wrong
        have hbytes : ¬ ∀ v ∈ data, isByte v = true := fun hall => hdata ⟨hall, hsize.2⟩
        exact .inr (.inr ⟨hdata, hne, hsize.2, loadProgram_of_not_isByte hbytes⟩)
    · refine .inr (.inl ⟨?_, refused_loadImage hsize⟩)
      rw [← List.length_eq_zero_iff]
      omega

/-- An image with a value that is no byte is not loaded, and the program that was there before it is
gone. -/
theorem loadImage_of_no_byte_resets :
    let m := (Config.machine {} (.ofSeed 0) 1 0 : Machine Nat).acts [.loadProgram [0x60, 0x07]]
    Reachable {} m ∧ ¬ Loaded (m.reset 0) [256] (m.loadImage 0 [256]) ∧
      ¬ Refused m (m.loadImage 0 [256]) := by
  intro m
  have hm : Reachable {} m := (Reachable.built _ _ _).acts _
  refine ⟨hm, ?_, ?_⟩
  · intro hloaded
    cases hloaded.answer
  · rintro ⟨e, ho⟩
    have hbyte : (m.loadImage 0 [256]).after.state.memory.bytes[(0x200 : Fin 4096)] ≠
        m.state.memory.bytes[(0x200 : Fin 4096)] := by decide +kernel
    exact hbyte (by rw [ho])

end Machine

end Chip8
