/-
Module: LibRasta/Lib/Runs.lean
digest: Runs of a deterministic state machine, the steps they consist of, and the induction rules for invariants of states and of whole histories.
-/

import Mathlib.Data.List.Induction
import Mathlib.Tactic.Common

set_option autoImplicit false
set_option relaxedAutoImplicit false

namespace LibRasta.Lib

variable {σ ε : Type}

/-- One step of a run. -/
structure Step (σ ε : Type) where
  before : σ
  event : ε
  after : σ

variable (step : σ → ε → σ)

/-- The state after a list of events. -/
def run (s : σ) (events : List ε) : σ := events.foldl step s

/-- The steps of a run, oldest first. -/
def trace : σ → List ε → List (Step σ ε)
  | _, [] => []
  | s, event :: rest =>
    { before := s, event := event, after := step s event } :: trace (step s event) rest

/-- Every step of the run meets the condition. -/
def RunOk (ok : σ → ε → Prop) (s : σ) (events : List ε) : Prop :=
  ∀ t ∈ trace step s events, ok t.before t.event

instance (ok : σ → ε → Prop) [∀ s event, Decidable (ok s event)] (s : σ) (events : List ε) :
    Decidable (RunOk step ok s events) :=
  inferInstanceAs (Decidable (∀ t ∈ trace step s events, ok t.before t.event))

@[simp]
theorem run_nil (s : σ) : run step s [] = s := rfl

@[simp]
theorem run_cons (s : σ) (event : ε) (rest : List ε) :
    run step s (event :: rest) = run step (step s event) rest := rfl

theorem run_append (s : σ) (front back : List ε) :
    run step s (front ++ back) = run step (run step s front) back :=
  List.foldl_append

theorem trace_append (s : σ) (front back : List ε) :
    trace step s (front ++ back) =
      trace step s front ++ trace step (run step s front) back := by
  induction front generalizing s with
  | nil => rfl
  | cons event rest ih =>
    simp only [List.cons_append, trace, run_cons, ih]

theorem runOk_append {ok : σ → ε → Prop} {s : σ} {front back : List ε} :
    RunOk step ok s (front ++ back) ↔
      RunOk step ok s front ∧ RunOk step ok (run step s front) back := by
  simp only [RunOk, trace_append, List.mem_append]
  constructor
  · intro h
    exact ⟨fun t ht => h t (.inl ht), fun t ht => h t (.inr ht)⟩
  · rintro ⟨hfront, hback⟩ t (ht | ht)
    · exact hfront t ht
    · exact hback t ht

theorem runOk_cons {ok : σ → ε → Prop} {s : σ} {event : ε} {rest : List ε} :
    RunOk step ok s (event :: rest) ↔ ok s event ∧ RunOk step ok (step s event) rest := by
  simp only [RunOk, trace, List.mem_cons]
  constructor
  · intro h
    exact ⟨h _ (.inl rfl), fun t ht => h t (.inr ht)⟩
  · rintro ⟨hfirst, hrest⟩ t (rfl | ht)
    · exact hfirst
    · exact hrest t ht

/-- A step of a run starts where the events before it lead. -/
theorem mem_trace {s : σ} {events : List ε} {t : Step σ ε} (h : t ∈ trace step s events) :
    ∃ front back, events = front ++ t.event :: back ∧ t.before = run step s front ∧
      t.after = step t.before t.event := by
  induction events generalizing s with
  | nil => simp [trace] at h
  | cons event rest ih =>
    rcases List.mem_cons.mp h with rfl | h
    · exact ⟨[], rest, rfl, rfl, rfl⟩
    · obtain ⟨front, back, hevents, hbefore, hafter⟩ := ih h
      exact ⟨event :: front, back, by rw [hevents, List.cons_append], hbefore, hafter⟩

/-- What holds at the start and is kept by every admissible step holds at the end. -/
theorem run_invariant {ok : σ → ε → Prop} {inv : σ → Prop}
    (hstep : ∀ s event, inv s → ok s event → inv (step s event)) {s : σ} {events : List ε}
    (hok : RunOk step ok s events) (hstart : inv s) : inv (run step s events) := by
  induction events generalizing s with
  | nil => exact hstart
  | cons event rest ih =>
    obtain ⟨hfirst, hrest⟩ := (runOk_cons step).mp hok
    exact ih hrest (hstep s event hstart hfirst)

/-- A relation that every step of two machines in lockstep keeps holds at the end of both runs. -/
theorem run_related {rel : σ → σ → Prop}
    (hstep : ∀ s t event, rel s t → rel (step s event) (step t event)) {s t : σ}
    (hstart : rel s t) (events : List ε) : rel (run step s events) (run step t events) := by
  induction events generalizing s t with
  | nil => exact hstart
  | cons event rest ih => exact ih (hstep s t event hstart)

/-- The same for a relation between the steps taken so far and the state reached. -/
theorem trace_invariant {ok : σ → ε → Prop} {inv : List (Step σ ε) → σ → Prop}
    (hstep : ∀ history s event, inv history s → ok s event →
      inv (history ++ [{ before := s, event := event, after := step s event }]) (step s event))
    {s : σ} {events : List ε} (hok : RunOk step ok s events) (hstart : inv [] s) :
    inv (trace step s events) (run step s events) := by
  -- the history before the remaining events is generalised along with the state
  suffices hgeneral : ∀ history s, RunOk step ok s events → inv history s →
      inv (history ++ trace step s events) (run step s events) by
    simpa using hgeneral [] s hok hstart
  clear hok hstart s
  induction events with
  | nil =>
    intro history s _ hinv
    simpa [trace] using hinv
  | cons event rest ih =>
    intro history s hok hinv
    obtain ⟨hfirst, hrest⟩ := (runOk_cons step).mp hok
    have hnext := ih _ _ hrest (hstep history s event hinv hfirst)
    simpa [trace] using hnext

/-- Some step of the history, together with the steps before it, satisfied `p`, and every step
after it satisfied `q`. -/
def Since (q : Step σ ε → Prop) (p : List (Step σ ε) → Step σ ε → Prop)
    (history : List (Step σ ε)) : Prop :=
  ∃ front t back, history = front ++ t :: back ∧ p front t ∧ ∀ s ∈ back, q s

variable {q : Step σ ε → Prop} {p : List (Step σ ε) → Step σ ε → Prop}
  {history : List (Step σ ε)} {t : Step σ ε}

theorem since_last (h : p history t) : Since q p (history ++ [t]) :=
  ⟨history, t, [], rfl, h, by simp⟩

theorem Since.snoc (h : Since q p history) (ht : q t) : Since q p (history ++ [t]) := by
  obtain ⟨front, u, back, rfl, hp, hq⟩ := h
  refine ⟨front, u, back ++ [t], by simp, hp, ?_⟩
  intro s hs
  rcases List.mem_append.mp hs with hs | hs
  · exact hq s hs
  · rw [List.mem_singleton.mp hs]
    exact ht

/-- The steps after the last one with the property; all of them if there was none. -/
def sinceLast (p : Step σ ε → Prop) [DecidablePred p] (history : List (Step σ ε)) :
    List (Step σ ε) :=
  (history.reverse.takeWhile fun t => ¬ p t).reverse

section SinceLast

variable {p q : Step σ ε → Prop} [DecidablePred p] [DecidablePred q]

@[simp]
theorem sinceLast_nil : sinceLast p [] = [] := rfl

theorem sinceLast_snoc (history : List (Step σ ε)) (t : Step σ ε) :
    sinceLast p (history ++ [t]) = if p t then [] else sinceLast p history ++ [t] := by
  by_cases ht : p t
  · simp [sinceLast, ht]
  · simp [sinceLast, ht]

theorem countP_sinceLast_snoc (r : Step σ ε → Prop) [DecidablePred r]
    (history : List (Step σ ε)) (t : Step σ ε) :
    (sinceLast p (history ++ [t])).countP r =
      if p t then 0 else (sinceLast p history).countP r + if r t then 1 else 0 := by
  rw [sinceLast_snoc]
  by_cases ht : p t
  · rw [if_pos ht, if_pos ht, List.countP_nil]
  · rw [if_neg ht, if_neg ht, List.countP_append, List.countP_singleton]
    simp only [decide_eq_true_eq]

/-- Where more steps have the property, the last of them is closer. -/
theorem sinceLast_suffix (h : ∀ t, p t → q t) (history : List (Step σ ε)) :
    sinceLast q history <:+ sinceLast p history := by
  induction history using List.reverseRecOn with
  | nil => exact List.suffix_refl _
  | append_singleton history t ih =>
    rw [sinceLast_snoc, sinceLast_snoc]
    by_cases hq : q t
    · rw [if_pos hq]
      exact List.nil_suffix
    · obtain ⟨front, hfront⟩ := ih
      rw [if_neg hq, if_neg fun hp => hq (h t hp), ← hfront, List.append_assoc]
      exact List.suffix_append front _

end SinceLast

end LibRasta.Lib
