/-
Module: LibRasta/Lib/Confinement.lean
digest: Programs over a memory of cells, their confinement to the cells they were given, and that a confined program computes a function of these cells.
-/

import Mathlib.Logic.Function.Basic
import Mathlib.Tactic.Common

set_option autoImplicit false
set_option relaxedAutoImplicit false

namespace LibRasta.Lib

/-- A program that reads and writes cells `L` with contents `V` and returns an `α`. -/
inductive Prog (L V α : Type) : Type where
  | done (a : α)
  | read (l : L) (next : V → Prog L V α)
  | write (l : L) (v : V) (next : Prog L V α)

namespace Prog

variable {L V α β : Type}

/-- One program after the other. -/
def bind : Prog L V α → (α → Prog L V β) → Prog L V β
  | done a, f => f a
  | read l next, f => read l fun v => (next v).bind f
  | write l v next, f => write l v (next.bind f)

instance : Monad (Prog L V) where
  pure := done
  bind := bind

/-- Reading cells one after the other. -/
def readAll : List L → Prog L V (List V)
  | [] => done []
  | l :: rest => read l fun v => (readAll rest).bind fun vs => done (v :: vs)

/-- Writing cells one after the other. -/
def writeAll : List (L × V) → Prog L V Unit
  | [] => done ()
  | (l, v) :: rest => write l v (writeAll rest)

/-- The memory of a run, the cells whose contents the run may rely on, and whether it has been
confined to its cells so far. -/
structure State (L V : Type) where
  memory : L → V
  known : L → Bool
  confined : Bool

section Exec

variable [DecidableEq L] (own : L → Bool)

/-- The effect of a read. -/
def State.afterRead (s : State L V) (l : L) : State L V :=
  { s with confined := s.confined && s.known l }

/-- The effect of a write; what was written is known from then on. -/
def State.afterWrite (s : State L V) (l : L) (v : V) : State L V where
  memory := Function.update s.memory l v
  known := Function.update s.known l true
  confined := s.confined && own l

/-- A run. It is confined as long as it reads known cells and writes its own ones. -/
def exec : Prog L V α → State L V → α × State L V
  | done a, s => (a, s)
  | read l next, s => exec (next (s.memory l)) (s.afterRead l)
  | write l v next, s => exec next (s.afterWrite own l v)

@[simp]
theorem exec_pure (a : α) (s : State L V) : exec own (pure a : Prog L V α) s = (a, s) := rfl

theorem exec_bind (p : Prog L V α) (f : α → Prog L V β) (s : State L V) :
    exec own (p >>= f) s = exec own (f (exec own p s).1) (exec own p s).2 := by
  induction p generalizing s with
  | done a => rfl
  | read l next ih => exact ih (s.memory l) (s.afterRead l)
  | write l v next ih => exact ih (s.afterWrite own l v)

/-- A run that left its cells never becomes confined again. -/
theorem confined_of_exec (p : Prog L V α) {s : State L V}
    (h : (exec own p s).2.confined = true) : s.confined = true := by
  induction p generalizing s with
  | done a => exact h
  | read l next ih =>
    have hread : (s.confined && s.known l) = true := ih (s.memory l) h
    exact (Bool.and_eq_true_iff.mp hread).1
  | write l v next ih =>
    have hwrite : (s.confined && own l) = true := ih h
    exact (Bool.and_eq_true_iff.mp hwrite).1

/-- The first of two programs is confined when both together are. -/
theorem confined_of_bind (p : Prog L V α) (f : α → Prog L V β) {s : State L V}
    (h : (exec own (p >>= f) s).2.confined = true) : (exec own p s).2.confined = true := by
  rw [exec_bind] at h
  exact confined_of_exec own _ h

theorem exec_readAll (cells : List L) (s : State L V) :
    exec own (readAll cells) s =
      (cells.map s.memory, { s with confined := s.confined && cells.all s.known }) := by
  induction cells generalizing s with
  | nil =>
    show ([], s) = ([], { s with confined := s.confined && true })
    rw [Bool.and_true]
  | cons l rest ih =>
    show exec own ((readAll rest).bind fun vs => done (s.memory l :: vs)) (s.afterRead l) = _
    have hbind := exec_bind own (readAll rest) (fun vs => done (s.memory l :: vs)) (s.afterRead l)
    rw [ih] at hbind
    refine hbind.trans ?_
    simp only [exec, State.afterRead, List.map_cons, List.all_cons, Bool.and_assoc]

/-- What a run of writes leaves in memory. -/
def written (memory : L → V) : List (L × V) → L → V
  | [] => memory
  | (l, v) :: rest => written (Function.update memory l v) rest

theorem exec_writeAll (cells : List (L × V)) (s : State L V) :
    exec own (writeAll cells) s =
      ((), { memory := written s.memory cells
             known := fun l => s.known l || decide (l ∈ cells.map Prod.fst)
             confined := s.confined && (cells.map Prod.fst).all own }) := by
  induction cells generalizing s with
  | nil =>
    show ((), s) = _
    simp [written]
  | cons cell rest ih =>
    obtain ⟨l, v⟩ := cell
    show exec own (writeAll rest) (s.afterWrite own l v) = _
    rw [ih]
    simp only [State.afterWrite, written, List.map_cons, List.all_cons, Bool.and_assoc]
    congr 2
    funext k
    by_cases hk : k = l
    · simp [hk, Function.update_self]
    · simp only [Function.update_of_ne hk, List.mem_cons, hk, false_or]

theorem written_of_not_mem (memory : L → V) {cells : List (L × V)} {l : L}
    (h : l ∉ cells.map Prod.fst) : written memory cells l = memory l := by
  induction cells generalizing memory with
  | nil => rfl
  | cons cell rest ih =>
    rw [List.map_cons, List.mem_cons, not_or] at h
    rw [written, ih _ h.2, Function.update_of_ne h.1]

/-- Different cells hold what was written to them. -/
theorem map_written (memory : L → V) {cells : List L} {values : List V} (hnodup : cells.Nodup)
    (hlength : values.length = cells.length) :
    cells.map (written memory (cells.zip values)) = values := by
  induction cells generalizing memory values with
  | nil => exact (List.eq_nil_of_length_eq_zero hlength).symm
  | cons l rest ih =>
    cases values with
    | nil => cases hlength
    | cons v values =>
      obtain ⟨hfirst, hrest⟩ := List.nodup_cons.mp hnodup
      have hlater : values.length = rest.length := Nat.succ.inj hlength
      have hkept : l ∉ (rest.zip values).map Prod.fst := by
        rw [List.map_fst_zip (Nat.le_of_eq hlater.symm)]
        exact hfirst
      rw [List.zip_cons_cons, List.map_cons, written, ih _ hrest hlater,
        written_of_not_mem _ hkept, Function.update_self]

end Exec

section Agreement

/-- Two states with the same known cells and the same contents of these. -/
structure Agree (s t : State L V) : Prop where
  known : t.known = s.known
  memory : ∀ l, s.known l = true → t.memory l = s.memory l

theorem Agree.afterRead {s t : State L V} (h : Agree s t) (l : L) :
    Agree (s.afterRead l) (t.afterRead l) :=
  ⟨h.known, h.memory⟩

theorem Agree.afterWrite [DecidableEq L] {s t : State L V} (h : Agree s t) (own : L → Bool) (l : L) (v : V) :
    Agree (s.afterWrite own l v) (t.afterWrite own l v) where
  known := by
    show Function.update t.known l true = Function.update s.known l true
    rw [h.known]
  memory := by
    intro k hk
    show Function.update t.memory l v k = Function.update s.memory l v k
    by_cases hkl : k = l
    · rw [hkl, Function.update_self, Function.update_self]
    · have hknown : s.known k = true := by
        have hsame : Function.update s.known l true k = s.known k := Function.update_of_ne hkl _ _
        exact hsame.symm.trans hk
      rw [Function.update_of_ne hkl, Function.update_of_ne hkl]
      exact h.memory k hknown

/-- A confined program returns the same in every memory that agrees on the known cells. -/
theorem exec_agree [DecidableEq L] (own : L → Bool) (p : Prog L V α) {s t : State L V}
    (h : Agree s t) (hconfined : (exec own p s).2.confined = true) :
    (exec own p t).1 = (exec own p s).1 := by
  induction p generalizing s t with
  | done a => rfl
  | read l next ih =>
    have hread : (s.afterRead l).confined = true := confined_of_exec own _ hconfined
    have hknown : s.known l = true := (Bool.and_eq_true_iff.mp hread).2
    show (exec own (next (t.memory l)) (t.afterRead l)).1 = _
    rw [h.memory l hknown]
    exact ih (s.memory l) (h.afterRead l) hconfined
  | write l v next ih => exact ih (h.afterWrite own l v) hconfined

end Agreement

end Prog

end LibRasta.Lib
