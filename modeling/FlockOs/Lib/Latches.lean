import FlockOs.Lib.Runs
import Mathlib.Tactic.Tauto

/-!
# Latches

Something that some steps of a run set and others clear. After a run it holds exactly when a step
set it that no later one cleared, or when it held at the start and nothing cleared it.
-/

namespace FlockOs.Lib

variable {State Call : Type*}

/-- Each step that sets makes it hold, and each that clears and does not set makes it fail; the
others keep it. -/
structure Latch (step : State → Call → State) where
  /-- It holds. -/
  holds : State → Prop
  /-- The steps that set it. -/
  sets : State → Call → Prop
  /-- The steps that clear it. -/
  clears : Call → Prop
  /-- What one step does to it. -/
  stepped : ∀ state call, holds (step state call) ↔ sets state call ∨ holds state ∧ ¬ clears call

namespace Latch

variable {step : State → Call → State} (latch : Latch step)

/-- No step clears it. -/
def Undisturbed (calls : List Call) : Prop := ∀ call ∈ calls, ¬ latch.clears call

/-- A step set it, and no later one cleared it. -/
def SetSince (start : State) (calls : List Call) : Prop :=
  ∃ before call after, calls = before ++ call :: after ∧
    latch.sets (runAll step start before) call ∧ latch.Undisturbed after

variable {latch}

/-- One more step that does not clear leaves a run undisturbed. -/
theorem undisturbed_concat {calls : List Call} {call : Call} :
    latch.Undisturbed (calls ++ [call]) ↔ latch.Undisturbed calls ∧ ¬ latch.clears call := by
  simp only [Undisturbed, List.mem_append, List.mem_singleton]
  constructor
  · intro every
    exact ⟨fun other there => every other (.inl there), every call (.inr rfl)⟩
  · intro both other there
    cases there with
    | inl early => exact both.1 other early
    | inr last => exact last ▸ both.2

/-- After one more step it was set since, by that step or before it. -/
theorem setSince_concat {start : State} {calls : List Call} {call : Call} :
    latch.SetSince start (calls ++ [call]) ↔ latch.sets (runAll step start calls) call ∨
      latch.SetSince start calls ∧ ¬ latch.clears call := by
  constructor
  · rintro ⟨before, setter, after, same, sets, undisturbed⟩
    induction after using List.reverseRecOn with
    | nil =>
      have parts := List.append_inj' same rfl
      have last : call = setter := by simpa using parts.2
      rw [last, parts.1]
      exact .inl sets
    | append_singleton after final _ =>
      have shifted : calls ++ [call] = (before ++ setter :: after) ++ [final] := by
        rw [same]
        simp
      have parts := List.append_inj' shifted rfl
      have last : call = final := by simpa using parts.2
      have split := undisturbed_concat.mp undisturbed
      rw [last]
      exact .inr ⟨⟨before, setter, after, parts.1, sets, split.1⟩, split.2⟩
  · intro either
    cases either with
    | inl now =>
      have nothing : latch.Undisturbed [] := by simp [Undisturbed]
      exact ⟨calls, call, [], rfl, now, nothing⟩
    | inr earlier =>
      obtain ⟨⟨before, setter, after, same, sets, undisturbed⟩, kept⟩ := earlier
      have longer : calls ++ [call] = before ++ setter :: (after ++ [call]) := by
        rw [same]
        simp
      exact ⟨before, setter, after ++ [call], longer, sets, undisturbed_concat.mpr
        ⟨undisturbed, kept⟩⟩

/-- A latch holds after a run exactly when it was set and not cleared since, or held at the start
and was never cleared. -/
theorem holds_runAll_iff {start : State} {calls : List Call} :
    latch.holds (runAll step start calls) ↔
      latch.SetSince start calls ∨ latch.holds start ∧ latch.Undisturbed calls := by
  induction calls using List.reverseRecOn with
  | nil => simp [SetSince, Undisturbed]
  | append_singleton calls call ih =>
    have last : runAll step start (calls ++ [call]) = step (runAll step start calls) call := by
      rw [runAll_append]
      rfl
    rw [last, latch.stepped, ih, setSince_concat, undisturbed_concat]
    tauto

/-- A latch that does not hold at the start holds after a run exactly when it was set and not
cleared since. -/
theorem holds_runAll_iff_setSince {start : State} {calls : List Call}
    (unset : ¬ latch.holds start) :
    latch.holds (runAll step start calls) ↔ latch.SetSince start calls := by
  rw [holds_runAll_iff]
  exact or_iff_left fun both => unset both.1

end Latch

end FlockOs.Lib
