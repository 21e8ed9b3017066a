import Mathlib.Data.List.Basic
import Mathlib.Logic.Function.Basic

/-! Settings that are written one at a time, and the switches they make up. A switch is held by
those who write the settings as long as it is on and one of its settings was written by them. -/
namespace Switchboard

variable {κ ν : Type} [DecidableEq κ]

structure Write (κ ν : Type) where
  key : κ
  value : ν
  deriving DecidableEq, Repr

structure Board (κ ν : Type) where
  values : κ → ν
  written : κ → Bool

structure Switch (κ ν : Type) where
  keys : List κ
  on : (κ → ν) → Bool
  decided : ∀ values others, (∀ key ∈ keys, values key = others key) → on values = on others

def Switch.Held (switch : Switch κ ν) (board : Board κ ν) : Prop :=
  switch.on board.values = true ∧ ∃ key ∈ switch.keys, board.written key = true

def Board.write (board : Board κ ν) (step : Write κ ν) : Board κ ν :=
  { values := Function.update board.values step.key step.value
    written := Function.update board.written step.key true }

def Board.writeAll (board : Board κ ν) (steps : List (Write κ ν)) : Board κ ν :=
  steps.foldl Board.write board

/-- The writes of a list that are done when it is cut short anyhow. -/
def chosen (part : List Bool) (steps : List (Write κ ν)) : List (Write κ ν) :=
  ((part.zip steps).filter fun entry => entry.1).map fun entry => entry.2

omit [DecidableEq κ] in
theorem mem_of_mem_chosen {part : List Bool} {steps : List (Write κ ν)} {step : Write κ ν}
    (h : step ∈ chosen part steps) : step ∈ steps := by
  obtain ⟨entry, hentry, rfl⟩ := List.mem_map.mp h
  exact (List.of_mem_zip (List.mem_filter.mp hentry).1).2

def SwitchesOff (switch : Switch κ ν) (step : Write κ ν) : Prop :=
  step.key ∈ switch.keys →
    ∀ values : κ → ν, switch.on (Function.update values step.key step.value) = false

/-- Each of the writes can only turn the switches off, and together they reach every one. -/
structure Clears (switches : List (Switch κ ν)) (steps : List (Write κ ν)) : Prop where
  off : ∀ switch ∈ switches, ∀ step ∈ steps, SwitchesOff switch step
  reached : ∀ switch ∈ switches, ∃ step ∈ steps, step.key ∈ switch.keys

section Writes

variable {switch : Switch κ ν} {board : Board κ ν} {step : Write κ ν}

theorem on_write_other (hkey : step.key ∉ switch.keys) :
    switch.on (board.write step).values = switch.on board.values := by
  apply switch.decided
  intro key hmem
  have hne : key ≠ step.key := by
    rintro rfl
    exact hkey hmem
  simp only [Board.write, Function.update_of_ne hne]

theorem not_held_write (hoff : SwitchesOff switch step) (hheld : ¬switch.Held board) :
    ¬switch.Held (board.write step) := by
  rintro ⟨hon, key, hmem, hwritten⟩
  by_cases hkey : step.key ∈ switch.keys
  · rw [Board.write, hoff hkey] at hon
    cases hon
  · have hne : key ≠ step.key := by
      rintro rfl
      exact hkey hmem
    rw [on_write_other hkey] at hon
    simp only [Board.write, Function.update_of_ne hne] at hwritten
    exact hheld ⟨hon, key, hmem, hwritten⟩

theorem not_held_writeAll {steps : List (Write κ ν)}
    (hoff : ∀ step ∈ steps, SwitchesOff switch step) (hheld : ¬switch.Held board) :
    ¬switch.Held (board.writeAll steps) := by
  induction steps generalizing board with
  | nil => exact hheld
  | cons step steps ih =>
    exact ih (fun other hother => hoff other (List.mem_cons_of_mem _ hother))
      (not_held_write (hoff step List.mem_cons_self) hheld)

theorem off_write (hoff : SwitchesOff switch step) (hon : switch.on board.values = false) :
    switch.on (board.write step).values = false := by
  by_cases hkey : step.key ∈ switch.keys
  · exact hoff hkey board.values
  · rw [on_write_other hkey]
    exact hon

theorem off_writeAll {steps : List (Write κ ν)}
    (hoff : ∀ step ∈ steps, SwitchesOff switch step) (hon : switch.on board.values = false) :
    switch.on (board.writeAll steps).values = false := by
  induction steps generalizing board with
  | nil => exact hon
  | cons step steps ih =>
    exact ih (fun other hother => hoff other (List.mem_cons_of_mem _ hother))
      (off_write (hoff step List.mem_cons_self) hon)

/-- A list of writes that can only turn a switch off turns it off once it touches it. -/
theorem off_of_reached {steps : List (Write κ ν)}
    (hoff : ∀ step ∈ steps, SwitchesOff switch step)
    (hreached : ∃ step ∈ steps, step.key ∈ switch.keys) :
    switch.on (board.writeAll steps).values = false := by
  induction steps generalizing board with
  | nil =>
    obtain ⟨_, hmem, _⟩ := hreached
    cases hmem
  | cons step steps ih =>
    have hrest : ∀ other ∈ steps, SwitchesOff switch other :=
      fun other hother => hoff other (List.mem_cons_of_mem _ hother)
    by_cases hkey : step.key ∈ switch.keys
    · have hstep : switch.on (board.write step).values = false :=
        hoff step List.mem_cons_self hkey board.values
      rw [Board.writeAll, List.foldl_cons]
      exact off_writeAll hrest hstep
    · obtain ⟨other, hother, hreaches⟩ := hreached
      rcases List.mem_cons.mp hother with rfl | hother
      · exact absurd hreaches hkey
      · exact ih hrest ⟨other, hother, hreaches⟩

end Writes

section Boards

variable {switches : List (Switch κ ν)} {board : Board κ ν} {steps : List (Write κ ν)}

/-- None of the switches is on because of what was written. -/
def Board.Free (switches : List (Switch κ ν)) (board : Board κ ν) : Prop :=
  ∀ switch ∈ switches, ¬switch.Held board

def Board.Off (switches : List (Switch κ ν)) (board : Board κ ν) : Prop :=
  ∀ switch ∈ switches, switch.on board.values = false

omit [DecidableEq κ] in
theorem Board.Off.free (h : board.Off switches) : board.Free switches := by
  rintro switch hswitch ⟨hon, _⟩
  rw [h switch hswitch] at hon
  cases hon

omit [DecidableEq κ] in
theorem free_of_untouched (h : ∀ key, board.written key = false) : board.Free switches := by
  rintro switch _ ⟨_, key, _, hwritten⟩
  rw [h key] at hwritten
  cases hwritten

theorem Board.Free.writeAll (hfree : board.Free switches)
    (hoff : ∀ switch ∈ switches, ∀ step ∈ steps, SwitchesOff switch step) :
    (board.writeAll steps).Free switches :=
  fun switch hswitch => not_held_writeAll (hoff switch hswitch) (hfree switch hswitch)

theorem Clears.off_writeAll (hclears : Clears switches steps) :
    (board.writeAll steps).Off switches :=
  fun switch hswitch => off_of_reached (hclears.off switch hswitch) (hclears.reached switch hswitch)

end Boards

end Switchboard
