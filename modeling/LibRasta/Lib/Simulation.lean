/-
Module: LibRasta/Lib/Simulation.lean
digest: One machine simulates another when each of its admissible steps is matched by an admissible run of the other: what the matching runs lead to, and the rule that carries it over to whole runs.
-/

import LibRasta.Lib.Runs

set_option autoImplicit false
set_option relaxedAutoImplicit false

namespace LibRasta.Lib

variable {σ ε τ δ : Type} (step : σ → ε → σ) (ok : σ → ε → Prop)

/-- Some admissible run leads from the state to one with the property. -/
def Leads (p : σ → Prop) (s : σ) : Prop := ∃ events, RunOk step ok s events ∧ p (run step s events)

section Leads

variable {step ok} {p q inv : σ → Prop} {s : σ} {event : ε}

theorem leads_here (h : p s) : Leads step ok p s :=
  ⟨[], fun _ ht => absurd ht List.not_mem_nil, h⟩

theorem leads_step (hok : ok s event) (h : p (step s event)) : Leads step ok p s := by
  refine ⟨[event], (runOk_cons step).mpr ⟨hok, ?_⟩, h⟩
  intro t ht
  exact absurd ht List.not_mem_nil

theorem Leads.trans (h : Leads step ok p s) (hnext : ∀ s, p s → Leads step ok q s) :
    Leads step ok q s := by
  obtain ⟨front, hfront, hmiddle⟩ := h
  obtain ⟨back, hback, hend⟩ := hnext _ hmiddle
  refine ⟨front ++ back, (runOk_append step).mpr ⟨hfront, hback⟩, ?_⟩
  rw [run_append]
  exact hend

theorem Leads.mono (h : Leads step ok p s) (hweaken : ∀ s, p s → q s) : Leads step ok q s := by
  obtain ⟨events, hok, hend⟩ := h
  exact ⟨events, hok, hweaken _ hend⟩

/-- What the admissible steps keep holds wherever they lead. -/
theorem Leads.invariant (h : Leads step ok p s)
    (hstep : ∀ s event, inv s → ok s event → inv (step s event)) (hstart : inv s) :
    Leads step ok (fun s => p s ∧ inv s) s := by
  obtain ⟨events, hok, hend⟩ := h
  exact ⟨events, hok, hend, run_invariant step hstep hok hstart⟩

end Leads

/-- Where every admissible step of the one machine is matched by a run of the other, so is every
admissible run. -/
theorem run_simulated {step : σ → ε → σ} {ok : σ → ε → Prop} {abstractStep : τ → δ → τ}
    {abstractOk : τ → δ → Prop} {rel : σ → τ → Prop}
    (hstep : ∀ s t event, rel s t → ok s event →
      Leads abstractStep abstractOk (rel (step s event)) t)
    {s : σ} {t : τ} {events : List ε} (hok : RunOk step ok s events) (hstart : rel s t) :
    Leads abstractStep abstractOk (rel (run step s events)) t := by
  induction events generalizing s t with
  | nil => exact leads_here hstart
  | cons event rest ih =>
    obtain ⟨hfirst, hrest⟩ := (runOk_cons step).mp hok
    exact (hstep s t event hstart hfirst).trans fun t' hrel => ih hrest hrel

end LibRasta.Lib
