import Mathlib.Algebra.GroupWithZero.Nat
import Mathlib.Logic.Relation

namespace AvatarKernel

inductive LineReg where
  | absent
  | pending
  | active
deriving DecidableEq

/-- One interrupt of one vCPU: its software bits, its list register, whether the vCPU is in its
guest, and how often it was raised and acknowledged. `waiting` says that it was raised and has not
been acknowledged since. -/
structure Line where
  pend : Bool
  act : Bool
  reg : LineReg
  inGuest : Bool
  raised : Nat
  acked : Nat
  waiting : Bool

/-- What can happen to a line. A level line is one of INTID 16 or more, which stays pending in
software until its acknowledgement is seen. -/
inductive Line.Step (level : Bool) : Line → Line → Prop
  | raise {l : Line} (free : level = true → l.act = false ∧ l.reg ≠ .active) :
      Step level l { l with pend := true, raised := l.raised + 1, waiting := true }
  | inject {l : Line} (pend : l.pend = true) (act : l.act = false) (reg : l.reg = .absent) :
      Step level l { l with pend := level, reg := .pending }
  | restore {l : Line} (act : l.act = true) (reg : l.reg = .absent) :
      Step level l { l with reg := .active }
  | acknowledge {l : Line} (inGuest : l.inGuest = true) (reg : l.reg = .pending) :
      Step level l { l with reg := .active, acked := l.acked + 1, waiting := false }
  | finish {l : Line} (reg : l.reg = .active) (recorded : level = true → l.act = true) :
      Step level l { l with reg := .absent }
  | record {l : Line} (reg : l.reg = .active) :
      Step level l { l with pend := l.pend && !level, act := true }
  | release {l : Line} (reg : l.reg = .absent) : Step level l { l with act := false }
  | evict {l : Line} (pend : Bool) (recorded : l.reg = .active → l.act = true)
      (same : level = true → pend = l.pend) (grows : l.pend = true → pend = true)
      (returned : level = false → l.reg = .pending → pend = true) :
      Step level l { l with pend := pend, reg := .absent }
  | deactivate {l : Line} (outside : l.inGuest = false) :
      Step level l { l with act := false, reg := if l.reg = .active then .absent else l.reg }
  | enter {l : Line} : Step level l { l with inGuest := true }
  | leave {l : Line} (recorded : l.reg = .active → l.act = true) :
      Step level l { l with inGuest := false }

abbrev Line.Steps (level : Bool) : Line → Line → Prop := Relation.ReflTransGen (Line.Step level)

namespace LineReg

theorem pending_ne_active : pending ≠ active := by
  decide

theorem absent_ne_active : absent ≠ active := by
  decide

theorem absent_ne_pending : absent ≠ pending := by
  decide

end LineReg

namespace Line

structure Balanced (l : Line) : Prop where
  counted : l.acked ≤ l.raised
  quiet : l.act = true → l.pend = false ∧ l.waiting = false
  recorded : l.inGuest = false → l.reg = .active → l.act = true
  owed : l.pend = true → l.acked < l.raised ∨ l.reg = .active
  queued : l.reg = .pending → l.acked < l.raised ∧ l.pend = true
  taken : l.reg = .active → l.waiting = false

structure Good (level : Bool) (l : Line) : Prop where
  represented : l.waiting = true → l.pend = true ∨ l.reg = .pending
  balanced : level = true → l.Balanced

theorem Balanced.step (books : l.Balanced) (step : Step true l m) : m.Balanced := by
  cases step with
  | raise free =>
    obtain ⟨inactive, elsewhere⟩ := free rfl
    exact
      { counted := Nat.le_succ_of_le books.counted
        quiet := fun act => absurd (inactive.symm.trans act) Bool.false_ne_true
        recorded := books.recorded
        owed := fun _ => .inl (Nat.lt_succ_of_le books.counted)
        queued := fun _ => ⟨Nat.lt_succ_of_le books.counted, rfl⟩
        taken := fun reg => absurd reg elsewhere }
  | inject pend inactive absent =>
    have debt : l.acked < l.raised := by
      cases books.owed pend with
      | inl less => exact less
      | inr reg => exact absurd (absent.symm.trans reg) LineReg.absent_ne_active
    exact
      { counted := books.counted
        quiet := fun act => absurd (inactive.symm.trans act) Bool.false_ne_true
        recorded := fun _ reg => absurd reg LineReg.pending_ne_active
        owed := fun _ => .inl debt
        queued := fun _ => ⟨debt, rfl⟩
        taken := fun reg => absurd reg LineReg.pending_ne_active }
  | restore act =>
    exact
      { counted := books.counted
        quiet := books.quiet
        recorded := fun _ _ => act
        owed := fun _ => .inr rfl
        queued := fun reg => absurd reg LineReg.pending_ne_active.symm
        taken := fun _ => (books.quiet act).2 }
  | acknowledge inGuest pending =>
    exact
      { counted := (books.queued pending).1
        quiet := fun act => ⟨(books.quiet act).1, rfl⟩
        recorded := fun outside => absurd (outside.symm.trans inGuest) Bool.false_ne_true
        owed := fun _ => .inr rfl
        queued := fun reg => absurd reg LineReg.pending_ne_active.symm
        taken := fun _ => rfl }
  | finish _ recorded =>
    have idle := (books.quiet (recorded rfl)).1
    exact
      { counted := books.counted
        quiet := books.quiet
        recorded := fun _ reg => absurd reg LineReg.absent_ne_active
        owed := fun pend => absurd (idle.symm.trans pend) Bool.false_ne_true
        queued := fun reg => absurd reg LineReg.absent_ne_pending
        taken := fun reg => absurd reg LineReg.absent_ne_active }
  | record active =>
    have cleared : (l.pend && !true) = false := Bool.and_false _
    exact
      { counted := books.counted
        quiet := fun _ => ⟨cleared, books.taken active⟩
        recorded := fun _ _ => rfl
        owed := fun pend => absurd (cleared.symm.trans pend) Bool.false_ne_true
        queued := fun reg => absurd (active.symm.trans reg) LineReg.pending_ne_active.symm
        taken := books.taken }
  | release absent =>
    exact
      { counted := books.counted
        quiet := fun act => absurd act Bool.false_ne_true
        recorded := fun _ reg => absurd (absent.symm.trans reg) LineReg.absent_ne_active
        owed := books.owed
        queued := books.queued
        taken := books.taken }
  | evict _ recorded same =>
    have same := same rfl
    exact
      { counted := books.counted
        quiet := fun act => ⟨same.trans (books.quiet act).1, (books.quiet act).2⟩
        recorded := fun _ reg => absurd reg LineReg.absent_ne_active
        owed := by
          intro pending
          have before := same.symm.trans pending
          cases books.owed before with
          | inl less => exact .inl less
          | inr active =>
            have idle := (books.quiet (recorded active)).1
            exact absurd (idle.symm.trans before) Bool.false_ne_true
        queued := fun reg => absurd reg LineReg.absent_ne_pending
        taken := fun reg => absurd reg LineReg.absent_ne_active }
  | deactivate outside =>
    by_cases active : l.reg = .active
    · have idle := (books.quiet (books.recorded outside active)).1
      rw [if_pos active]
      exact
        { counted := books.counted
          quiet := fun act => absurd act Bool.false_ne_true
          recorded := fun _ reg => absurd reg LineReg.absent_ne_active
          owed := fun pend => absurd (idle.symm.trans pend) Bool.false_ne_true
          queued := fun reg => absurd reg LineReg.absent_ne_pending
          taken := fun reg => absurd reg LineReg.absent_ne_active }
    · rw [if_neg active]
      exact
        { counted := books.counted
          quiet := fun act => absurd act Bool.false_ne_true
          recorded := fun _ reg => absurd reg active
          owed := books.owed
          queued := books.queued
          taken := books.taken }
  | enter =>
    exact { books with recorded := fun inGuest => absurd inGuest.symm Bool.false_ne_true }
  | leave recorded => exact { books with recorded := fun _ => recorded }

theorem Good.software {l : Line} (good : l.Good level) (elsewhere : l.reg ≠ .pending)
    (waiting : l.waiting = true) : l.pend = true := by
  cases good.represented waiting with
  | inl pend => exact pend
  | inr reg => exact absurd reg elsewhere

section

variable {level : Bool} {l m : Line} (good : l.Good level)

include good

theorem Good.step_represented (step : Step level l m) (waiting : m.waiting = true) :
    m.pend = true ∨ m.reg = .pending := by
  cases step with
  | raise => exact .inl rfl
  | inject => exact .inr rfl
  | restore _ absent =>
    exact .inl (good.software (by rw [absent]; exact LineReg.absent_ne_pending) waiting)
  | acknowledge => exact absurd waiting Bool.false_ne_true
  | finish active => exact .inl (good.software (by rw [active]; decide) waiting)
  | record active =>
    cases level with
    | false =>
      rw [Bool.not_false, Bool.and_true]
      exact good.represented waiting
    | true =>
      have idle := (good.balanced rfl).taken active
      exact absurd (idle.symm.trans waiting) Bool.false_ne_true
  | release | enter | leave => exact good.represented waiting
  | evict _ _ _ grows returned =>
    apply Or.inl
    cases good.represented waiting with
    | inl pending => exact grows pending
    | inr reg =>
      cases level with
      | false => exact returned rfl reg
      | true => exact grows ((good.balanced rfl).queued reg).2
  | deactivate =>
    by_cases active : l.reg = .active
    · exact .inl (good.software (by rw [active]; decide) waiting)
    · rw [if_neg active]
      exact good.represented waiting

theorem Good.step (step : Step level l m) :
    m.Good level where
  represented := good.step_represented step
  balanced := by
    intro high
    subst high
    exact (good.balanced rfl).step step

theorem Good.steps (steps : Steps level l m) : m.Good level := by
  induction steps with
  | refl => exact good
  | tail _ step ih => exact ih.step step

end

end Line

end AvatarKernel
