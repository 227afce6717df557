import Mathlib.Algebra.GroupWithZero.Nat
import Mathlib.Logic.Function.Basic

namespace WaitSlot

open Function

/-- Where a task stands with respect to an event that it may sleep on: it has found nothing to do,
has put its name in the slot of waiters, sleeps, or has been woken and does not run yet. -/
inductive Phase where
  | out
  | decided
  | listed
  | blocked
  | woken
  deriving DecidableEq

/-- From its entry in the slot until it runs again a task counts as a waiter. -/
def Phase.waits : Phase → Bool
  | .listed | .blocked | .woken => true
  | .out | .decided => false

/-- Between its check and its sleep a task can miss the event. -/
def Phase.window : Phase → Bool
  | .decided | .listed => true
  | .out | .blocked | .woken => false

/-- A wake-up finds the task asleep or has no effect. -/
def Phase.rouse : Phase → Phase
  | .blocked => .woken
  | phase => phase

/-- The task in the slot is woken. -/
def notify {τ : Type} [DecidableEq τ] (slot : Option τ) (phase : τ → Phase) : τ → Phase :=
  match slot with
  | some t => update phase t (phase t).rouse
  | none => phase

variable {τ : Type} {slot : Option τ} {phase : τ → Phase}

/-- No sleeper is forgotten: a task that is about to sleep has nothing to do (`idle`), one that
sleeps has nothing to do and is in the slot, and there is one waiter at most. -/
structure SafeEach (slot : Option τ) (phase : τ → Phase) (idle : τ → Prop) : Prop where
  window : ∀ t, (phase t).window = true → idle t
  listed : ∀ t, phase t = .listed → slot = some t
  blocked : ∀ t, phase t = .blocked → idle t ∧ slot = some t
  single : ∀ t u, (phase t).waits = true → (phase u).waits = true → t = u

namespace SafeEach

variable {idle other : τ → Prop}

theorem start (all : ∀ t, phase t = .out) : SafeEach slot phase idle where
  window := fun t inside => by rw [all] at inside; cases inside
  listed := fun t inside => by rw [all] at inside; cases inside
  blocked := fun t inside => by rw [all] at inside; cases inside
  single := fun t _ inside => by rw [all] at inside; cases inside

theorem weaken (safe : SafeEach slot phase idle)
    (keeps : ∀ t, (phase t).window = true ∨ phase t = .blocked → idle t → other t) :
    SafeEach slot phase other where
  window := fun t inside => keeps t (.inl inside) (safe.window t inside)
  listed := safe.listed
  blocked := fun t asleep =>
    ⟨keeps t (.inr asleep) (safe.blocked t asleep).1, (safe.blocked t asleep).2⟩
  single := safe.single

variable [DecidableEq τ]

theorem move (safe : SafeEach slot phase idle) (free : next.waits = false)
    (check : next.window = true → other t) (keeps : ∀ u, u ≠ t → idle u → other u) :
    SafeEach slot (update phase t next) other := by
  have away {u : τ} {p : Phase} (waits : p.waits = true) (at_u : update phase t next u = p) :
      u ≠ t ∧ phase u = p := by
    by_cases here : u = t
    · subst here
      rw [update_self] at at_u
      rw [at_u, waits] at free
      cases free
    · rw [update_of_ne here] at at_u
      exact ⟨here, at_u⟩
  constructor
  · intro u inside
    by_cases here : u = t
    · subst here
      rw [update_self] at inside
      exact check inside
    · rw [update_of_ne here] at inside
      exact keeps u here (safe.window u inside)
  · intro u listed
    exact safe.listed u (away rfl listed).2
  · intro u asleep
    obtain ⟨distinct, before⟩ := away rfl asleep
    exact ⟨keeps u distinct (safe.blocked u before).1, (safe.blocked u before).2⟩
  · intro u v first second
    have old {w : τ} (waits : (update phase t next w).waits = true) :
        (phase w).waits = true := by
      rw [(away waits rfl).2]
      exact waits
    exact safe.single u v (old first) (old second)

theorem settle [Decidable sleeps] (safe : SafeEach slot (update phase t .out) idle)
    (check : sleeps → other t) (keeps : ∀ u, u ≠ t → idle u → other u) :
    SafeEach slot (update phase t (if sleeps then .decided else .out)) other := by
  have moved : SafeEach slot (update (update phase t .out) t (if sleeps then .decided else .out))
      other := by
    refine safe.move (by split <;> rfl) ?_ keeps
    split
    · exact fun _ => check ‹_›
    · nofun
  rw [update_idem] at moved
  exact moved

section

variable (safe : SafeEach slot phase idle)
include safe

theorem list (inside : phase t = .decided) (alone : ∀ u, u ≠ t → (phase u).waits = false) :
    SafeEach (some t) (update phase t .listed) idle := by
  have here {u : τ} (waits : (update phase t .listed u).waits = true) : u = t := by
    by_contra away
    rw [update_of_ne away, alone u away] at waits
    cases waits
  have checked : idle t := safe.window t (by rw [inside]; rfl)
  constructor
  · intro u window
    by_cases same : u = t
    · exact same ▸ checked
    · rw [update_of_ne same] at window
      exact safe.window u window
  · intro u listed
    rw [here (u := u) (by rw [listed]; rfl)]
  · intro u asleep
    have same := here (u := u) (by rw [asleep]; rfl)
    exact ⟨same ▸ checked, by rw [same]⟩
  · intro u v first second
    exact (here first).trans (here second).symm

theorem advance (waits : (phase t).waits = true) (listed : next ≠ .woken → idle t ∧ slot = some t) :
    SafeEach slot (update phase t next) idle := by
  have old {u : τ} (inside : (update phase t next u).waits = true) : (phase u).waits = true := by
    by_cases here : u = t
    · subst here
      exact waits
    · rwa [update_of_ne here] at inside
  have sleeping : next = .blocked ∨ next.window = true → next ≠ .woken := by
    intro early late
    rw [late] at early
    rcases early with asleep | window
    · cases asleep
    · cases window
  constructor
  · intro u inside
    by_cases here : u = t
    · subst here
      rw [update_self] at inside
      exact (listed (sleeping (.inr inside))).1
    · rw [update_of_ne here] at inside
      exact safe.window u inside
  · intro u inside
    by_cases here : u = t
    · subst here
      rw [update_self] at inside
      exact (listed (sleeping (.inr (by rw [inside]; rfl)))).2
    · rw [update_of_ne here] at inside
      exact safe.listed u inside
  · intro u inside
    by_cases here : u = t
    · subst here
      rw [update_self] at inside
      exact listed (sleeping (.inl inside))
    · rw [update_of_ne here] at inside
      exact safe.blocked u inside
  · intro u v first second
    exact safe.single u v (old first) (old second)

theorem block (inside : phase t = .listed) : SafeEach slot (update phase t .blocked) idle :=
  safe.advance (by rw [inside]; rfl) fun _ =>
    ⟨safe.window t (by rw [inside]; rfl), safe.listed t inside⟩

theorem rouse (t : τ) :
    SafeEach slot (update phase t (phase t).rouse) idle := by
  cases here : phase t with
  | blocked => exact safe.advance (by rw [here]; rfl) fun away => absurd rfl away
  | out | decided | listed | woken =>
    have same : update phase t (phase t) = phase := update_eq_self t phase
    rw [here] at same
    rw [Phase.rouse.eq_def]
    rw [same]
    exact safe

theorem notify (who : Option τ) :
    SafeEach slot (WaitSlot.notify who phase) idle := by
  cases who with
  | none => exact safe
  | some t => exact safe.rouse t

theorem resume (inside : phase t = .woken) : SafeEach none (update phase t .out) idle := by
  have left : SafeEach slot (update phase t .out) idle :=
    safe.move rfl (fun window => absurd window Bool.false_ne_true) fun _ _ holds => holds
  -- no other task waits, so that nobody is in the slot
  have nobody (u : τ) : (update phase t .out u).waits = false := by
    by_cases here : u = t
    · subst here
      rw [update_self]
      rfl
    · rw [update_of_ne here]
      cases waits : (phase u).waits with
      | false => rfl
      | true => exact absurd (safe.single u t waits (by rw [inside]; rfl)) here
  constructor
  · exact left.window
  · intro u listed
    have none := nobody u
    rw [listed] at none
    cases none
  · intro u asleep
    have none := nobody u
    rw [asleep] at none
    cases none
  · exact left.single

theorem signal (calm : ∀ t, (phase t).window = false) :
    SafeEach none (WaitSlot.notify slot phase) other := by
  cases slot with
  | none =>
    show SafeEach none phase other
    constructor
    · intro t inside
      rw [calm] at inside
      cases inside
    · exact safe.listed
    · intro t asleep
      cases (safe.blocked t asleep).2
    · exact safe.single
  | some w =>
    show SafeEach none (update phase w (phase w).rouse) other
    have roused := safe.rouse w
    have still (t : τ) : (update phase w (phase w).rouse t).window = false := by
      by_cases here : t = w
      · subst here
        rw [update_self]
        have before := calm t
        cases here : phase t with
        | out | blocked | woken => rfl
        | decided | listed =>
          rw [here] at before
          cases before
      · rw [update_of_ne here]
        exact calm t
    constructor
    · intro t inside
      rw [still] at inside
      cases inside
    · intro t inside
      have impossible := still t
      rw [inside] at impossible
      cases impossible
    · -- the only sleeper was the one in the slot
      intro t asleep
      have slot := (roused.blocked t asleep).2
      cases slot
      rw [update_self] at asleep
      cases here : phase w <;> rw [here] at asleep <;> cases asleep
    · exact roused.single

end

end SafeEach

/-- No sleeper is forgotten, with one event for all tasks. -/
abbrev Safe (slot : Option τ) (phase : τ → Phase) (idle : Prop) : Prop :=
  SafeEach slot phase fun _ => idle

end WaitSlot
