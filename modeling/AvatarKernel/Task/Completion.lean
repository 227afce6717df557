import AvatarKernel.Lib.Transition
import AvatarKernel.Lib.WaitSlot
import Mathlib.Data.Fintype.Basic

namespace AvatarKernel

open Function Transition

/-- A `completion_t` with the tasks that use it. The last three fields are history: whether
`complete_all` ran since the last reset, which tasks it found waiting that have not returned, and
whether a wait returned without it. -/
structure Completion (τ : Type) where
  done : Bool
  waiters : List τ
  phase : τ → WaitSlot.Phase
  fired : Bool
  released : τ → Bool
  early : Bool

/-- The sections under the lock of a completion, and a wake-up of a task from elsewhere. -/
inductive CompletionMove (τ : Type) where
  | wait (t : τ)
  | resume (t : τ)
  | completeAll
  | reset
  | wake (t : τ)

namespace Completion

variable {τ : Type} [DecidableEq τ]

def init : Completion τ := ⟨false, [], fun _ => .out, false, fun _ => false, false⟩

/-- A round of the loop of `completion_wait`: the task returns, or goes to the end of the list. -/
def look (s : Completion τ) (t : τ) : Completion τ :=
  if s.done then
    { s with
      phase := update s.phase t .out
      released := update s.released t false
      early := s.early || !s.fired }
  else { s with waiters := s.waiters ++ [t], phase := update s.phase t .blocked }

def next (s : Completion τ) : CompletionMove τ → Completion τ
  | .wait t => if s.phase t = .out then s.look t else s
  | .resume t => if s.phase t = .woken then s.look t else s
  | .completeAll =>
    { s with
      done := true
      waiters := []
      phase := fun t => if t ∈ s.waiters then (s.phase t).rouse else s.phase t
      fired := true
      released := fun t => t ∈ s.waiters || s.released t }
  | .reset => if s.waiters = [] then { s with done := false, fired := false } else s
  | .wake t => { s with phase := update s.phase t (s.phase t).rouse }

/-- No task is listed twice, one that `complete_all` found waiting will return when it looks, and no
wait has returned without a `complete_all` since the last reset. -/
structure Ok (s : Completion τ) : Prop where
  once : s.waiters.Nodup
  returns : ∀ t, s.released t = true → s.phase t = .woken ∧ s.done = true
  after : s.early = false

/-- A task woken from elsewhere looks again only once it has left the list, and there is no reset
while a task that was released has still to look. -/
def Calm (s : Completion τ) : CompletionMove τ → Prop
  | .resume t => s.phase t = .woken → t ∉ s.waiters
  | .reset => s.waiters = [] → ∀ t, s.released t = false
  | _ => True

instance decidableCalm [Fintype τ] (s : Completion τ) : DecidablePred s.Calm
  | .resume _ => inferInstanceAs (Decidable (_ → _ ∉ _))
  | .reset => inferInstanceAs (Decidable (_ → ∀ _, _))
  | .wait _ | .completeAll | .wake _ => .isTrue trivial

structure Sound (s : Completion τ) : Prop extends s.Ok where
  listed : ∀ t ∈ s.waiters, s.phase t = .blocked ∨ s.phase t = .woken
  complete : s.done = true → s.waiters = [] ∧ s.fired = true

theorem Sound.look {s : Completion τ} (sound : s.Sound) (away : t ∉ s.waiters) :
    (s.look t).Sound := by
  unfold Completion.look
  split
  · next done =>
    obtain ⟨empty, fired⟩ := sound.complete done
    refine ⟨⟨sound.once, fun u released => ?_, by simp [sound.after, fired]⟩, by simp [empty],
      sound.complete⟩
    rcases update_value released with ⟨-, none⟩ | ⟨other, before⟩
    · cases none
    · simpa [other] using sound.returns u before
  · next waits =>
    refine ⟨⟨by simpa using sound.once.concat away, fun u released => ?_, sound.after⟩,
      fun u mem => ?_, fun done => absurd done waits⟩
    · exact absurd (sound.returns u released).2 waits
    · by_cases self : u = t
      · simp [self]
      · have before : u ∈ s.waiters := by simpa [self] using mem
        simpa [self] using sound.listed u before

theorem Sound.next {s : Completion τ} (sound : s.Sound) (calm : s.Calm move) :
    (s.next move).Sound := by
  cases move with
  | wait t =>
    rw [Completion.next]
    split
    · next out => exact sound.look fun mem => by simpa [out] using sound.listed t mem
    · exact sound
  | resume t =>
    rw [Completion.next]
    split
    · next woken => exact sound.look (calm woken)
    · exact sound
  | completeAll =>
    refine ⟨⟨.nil, fun t released => ⟨?_, rfl⟩, sound.after⟩, nofun, fun _ => ⟨rfl, rfl⟩⟩
    show (if t ∈ s.waiters then (s.phase t).rouse else s.phase t) = .woken
    split
    · next mem => rcases sound.listed t mem with phase | phase <;> rw [phase] <;> rfl
    · next away =>
      have before : s.released t = true := by simpa [Completion.next, away] using released
      exact (sound.returns t before).1
  | reset =>
    rw [Completion.next]
    split
    · next empty =>
      refine ⟨⟨sound.once, fun t released => ?_, sound.after⟩, sound.listed, nofun⟩
      exact absurd (released.symm.trans (calm empty t)) Bool.true_eq_false.mp
    · exact sound
  | wake t =>
    refine ⟨⟨sound.once, fun u released => ?_, sound.after⟩, fun u mem => ?_, sound.complete⟩
    · obtain ⟨woken, done⟩ := sound.returns u released
      by_cases self : u = t
      · subst self
        simp [Completion.next, woken, done, WaitSlot.Phase.rouse]
      · simpa [Completion.next, self] using And.intro woken done
    · by_cases self : u = t
      · subst self
        rcases sound.listed u mem with phase | phase <;>
          simp [Completion.next, phase, WaitSlot.Phase.rouse]
      · simpa [Completion.next, self] using sound.listed u mem

/-- In every run whose steps all meet the condition, the completion does what it should. -/
theorem ok_of_calm {moves : List (CompletionMove τ)} {s : Completion τ}
    (run : Run (Guarded (graph next) Calm) init moves s) : s.Ok :=
  (run.guarded (P := Sound) (fun _ _ sound calm => sound.next calm)
    ⟨⟨.nil, nofun, rfl⟩, nofun, nofun⟩).toOk

end Completion

/-- A task is woken from elsewhere, but `complete_all` comes before it looks. -/
theorem completion_ok_woken :
    ([.wait 0, .wake 0, .completeAll, .resume 0, .reset, .wait 1].foldl Completion.next
      (.init : Completion (Fin 2))).Ok :=
  Completion.ok_of_calm (run_of_passes (fun _ _ => of_decide_eq_true) (by decide +kernel))

/-- A task that is woken from elsewhere is listed twice, and one that `complete_all` released goes
back to sleep after a reset. -/
theorem completion_not_ok :
    ([.wait 0, .wake 0, .resume 0].foldl Completion.next (.init : Completion (Fin 1))).waiters =
    [0, 0] ∧
      let s := [.wait 0, .completeAll, .reset, .resume 0].foldl Completion.next
        (.init : Completion (Fin 1))
      s.released 0 = true ∧ s.phase 0 = .blocked := by
  decide +kernel

end AvatarKernel
