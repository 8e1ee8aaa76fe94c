/-
Module: LibRasta/Retransmission/EventSystem.lean
source: src/c/util/event_system.c
digest: The timed events of the event loop over any number of its runs. The loop waits for the enabled event that is due first, and a timer is due once its interval has passed since it was last enabled, rescheduled or fired, unless the loop was started again in between.
-/

import LibRasta.Lib.Minimum
import LibRasta.Lib.Runs
import LibRasta.Retransmission.Connection

set_option autoImplicit false
set_option relaxedAutoImplicit false

namespace LibRasta.Retransmission

open LibRasta.Lib

section Translation

/-- The loop of `calc_next_timed_event` from the event with index `i` on, where `found` holds
`time_to_wait` and the index last written to `next_timed_event`. -/
def nextTimedEvent (curTime : UInt64) :
    ℕ → List TimedEvent → UInt64 × Option ℕ → UInt64 × Option ℕ
  | _, [], found => found
  | i, event :: rest, found =>
    if event.enabled then
      let continueAt := event.lastCall + event.interval
      if continueAt ≤ curTime then (0, some i)
      else
        let newTimeToWait := continueAt - curTime
        nextTimedEvent curTime (i + 1) rest
          (if newTimeToWait < found.1 then (newTimeToWait, some i) else found)
    else nextTimedEvent curTime (i + 1) rest found

/-- `calc_next_timed_event`: the time to wait and the event to wait for. -/
def calcNextTimedEvent (timedEvents : List TimedEvent) (curTime : UInt64) :
    UInt64 × Option ℕ :=
  nextTimedEvent curTime 0 timedEvents (0xFFFFFFFFFFFFFFFF, none)

/-- The calls that callbacks and the application make on timed events, with the clock reading
each takes. -/
inductive TimerCall where
  | reschedule (now : UInt64)
  | enable (now : UInt64)
  | disable

/-- `reschedule_event`, `enable_timed_event` and `disable_timed_event`. -/
def TimerCall.apply : TimerCall → TimedEvent → TimedEvent
  | reschedule now, event => { event with lastCall := now }
  | enable now, event => { event with enabled := true, lastCall := now }
  | disable, event => { event with enabled := false }

/-- Where `event_system_start` stands. -/
inductive LoopPhase where
  -- not running
  | idle
  -- at the head of the loop
  | running
  -- in the callback of a timed event that was due at `curTime`
  | firing (next : ℕ) (curTime : UInt64)
  -- in `event_system_sleep`, or in the callback of a file descriptor
  | sleeping
deriving DecidableEq

structure EventLoop where
  timedEvents : List TimedEvent
  phase : LoopPhase

/-- What happens next. Whatever callbacks and the application do between two steps of the loop
reaches it through calls on the timed events. -/
inductive LoopAction where
  | start (now : UInt64)
  | iterate (now : UInt64)
  | call (i : ℕ) (timerCall : TimerCall)
  | callbackReturn (leave : Bool)

/-- The beginning of `event_system_start`. -/
def restartTimers (timedEvents : List TimedEvent) (curTime : UInt64) : List TimedEvent :=
  timedEvents.map fun event => { event with lastCall := curTime }

/-- The phase after `calc_next_timed_event`: only an event with no time left to wait is fired,
since a sleep always ends with a new round. -/
def nextPhase (timedEvents : List TimedEvent) (curTime : UInt64) : LoopPhase :=
  match calcNextTimedEvent timedEvents curTime with
  | (timeToWait, some next) => if timeToWait = 0 then .firing next curTime else .sleeping
  | (_, none) => .sleeping

def loopStep (loop : EventLoop) : LoopAction → EventLoop
  | .start now =>
    if loop.phase = .idle then
      { timedEvents := restartTimers loop.timedEvents now, phase := .running }
    else loop
  | .iterate now =>
    if loop.phase = .running then { loop with phase := nextPhase loop.timedEvents now } else loop
  | .call i timerCall =>
    { loop with timedEvents := loop.timedEvents.modify i timerCall.apply }
  | .callbackReturn leave =>
    match loop.phase with
    | .firing next curTime =>
      if leave then { loop with phase := .idle }
      else
        { timedEvents := loop.timedEvents.modify next fun event =>
            { event with lastCall := curTime }
          phase := .running }
    | .sleeping => { loop with phase := if leave then .idle else .running }
    | .idle | .running => loop

end Translation

section Deadlines

/-- The action enables, reschedules or fires event `i` at the time `armedAt`. -/
def Arms (i : ℕ) (armedAt : UInt64) (loop : EventLoop) : LoopAction → Prop
  | .call j (.reschedule now) => j = i ∧ now = armedAt
  | .call j (.enable now) => j = i ∧ now = armedAt
  | .call _ .disable => False
  | .iterate now =>
    loop.phase = .running ∧ nextPhase loop.timedEvents now = .firing i armedAt
  | .callbackReturn leave => leave = false ∧ loop.phase = .firing i armedAt
  | .start _ => False

/-- The callback of event `i` is running. -/
def LoopPhase.Fires (i : ℕ) : LoopPhase → Prop
  | firing next _ => next = i
  | _ => False

instance (i : ℕ) : (phase : LoopPhase) → Decidable (phase.Fires i)
  | .firing next _ => inferInstanceAs (Decidable (next = i))
  | .idle => inferInstanceAs (Decidable False)
  | .running => inferInstanceAs (Decidable False)
  | .sleeping => inferInstanceAs (Decidable False)

/-- The action enables, reschedules, disables or fires event `i`. -/
def Touches (i : ℕ) (loop : EventLoop) : LoopAction → Prop
  | .call j _ => j = i
  | .iterate now => loop.phase = .running ∧ (nextPhase loop.timedEvents now).Fires i
  | .callbackReturn leave => leave = false ∧ loop.phase.Fires i
  | .start _ => False

instance (i : ℕ) (loop : EventLoop) (action : LoopAction) : Decidable (Touches i loop action) := by
  cases action <;> unfold Touches <;> infer_instance

/-- The action starts the loop again, after the time `armedAt`. -/
def Restarts (armedAt : UInt64) (loop : EventLoop) : LoopAction → Prop
  | .start now => loop.phase = .idle ∧ armedAt < now
  | _ => False

instance (armedAt : UInt64) (loop : EventLoop) (action : LoopAction) :
    Decidable (Restarts armedAt loop action) := by
  cases action <;> unfold Restarts <;> infer_instance

/-- Event `i` is due no later than `interval` after `armedAt`. -/
def DueBy (i : ℕ) (armedAt : UInt64) (timedEvents : List TimedEvent) : Prop :=
  ∀ event, timedEvents[i]? = some event →
    (event.lastCall + event.interval).toNat ≤ armedAt.toNat + event.interval.toNat

variable {i : ℕ} {armedAt : UInt64} {loop : EventLoop} {action : LoopAction}

/-- An enabled event whose time has come ends the search. -/
theorem nextTimedEvent_eq_zero {timedEvents : List TimedEvent} {curTime : UInt64}
    {event : TimedEvent} (hget : timedEvents[i]? = some event) (henabled : event.enabled = true)
    (hdue : event.lastCall + event.interval ≤ curTime) (j : ℕ) (found : UInt64 × Option ℕ) :
    (nextTimedEvent curTime j timedEvents found).1 = 0 := by
  induction timedEvents generalizing i j found with
  | nil => simp at hget
  | cons head rest ih =>
    unfold nextTimedEvent
    cases i with
    | zero =>
      obtain rfl : head = event := by simpa using hget
      simp [henabled, hdue]
    | succ i =>
      have hrest : rest[i]? = some event := by simpa using hget
      simp only
      split
      · split
        · rfl
        · exact ih hrest _ _
      · exact ih hrest _ _

/-- The event the search ends with is due. -/
theorem nextTimedEvent_due {curTime : UInt64} {next : ℕ} {timedEvents : List TimedEvent}
    (j : ℕ) (found : UInt64 × Option ℕ) (hfound : found.1 ≠ 0)
    (h : nextTimedEvent curTime j timedEvents found = (0, some next)) :
    ∃ k event, next = j + k ∧ timedEvents[k]? = some event ∧
      event.lastCall + event.interval ≤ curTime := by
  induction timedEvents generalizing j found with
  | nil =>
    rw [nextTimedEvent] at h
    rw [h] at hfound
    exact absurd rfl hfound
  | cons head rest ih =>
    have hshift : ∀ found : UInt64 × Option ℕ, found.1 ≠ 0 →
        nextTimedEvent curTime (j + 1) rest found = (0, some next) →
        ∃ k event, next = j + k ∧ (head :: rest)[k]? = some event ∧
          event.lastCall + event.interval ≤ curTime := by
      intro found hnonzero hrest
      obtain ⟨k, event, hnext, hget, hdue⟩ := ih (j + 1) found hnonzero hrest
      exact ⟨k + 1, event, by omega, by simpa using hget, hdue⟩
    unfold nextTimedEvent at h
    simp only at h
    split at h
    · split at h
      · rename_i hdue
        obtain rfl : j = next := by simpa using h
        exact ⟨0, head, by omega, rfl, hdue⟩
      · rename_i hnot
        refine hshift _ ?_ h
        split
        · intro hzero
          apply hnot
          rw [UInt64.le_iff_toNat_le]
          have hsub := congrArg UInt64.toNat hzero
          have hlt : curTime < head.lastCall + head.interval := UInt64.not_le.mp hnot
          rw [UInt64.toNat_sub_of_le _ _ (UInt64.le_of_lt hlt)] at hsub
          have hzeroNat : (0 : UInt64).toNat = 0 := rfl
          omega
        · exact hfound
    · exact hshift found hfound h

theorem nextPhase_firing {timedEvents : List TimedEvent} {now curTime : UInt64}
    (h : nextPhase timedEvents now = .firing i curTime) :
    curTime = now ∧ ∃ event, timedEvents[i]? = some event ∧
      event.lastCall + event.interval ≤ now := by
  unfold nextPhase at h
  split at h
  · rename_i timeToWait next hcalc
    split at h
    · rename_i hzero
      obtain ⟨rfl, rfl⟩ : next = i ∧ now = curTime := by simpa using h
      rw [hzero] at hcalc
      obtain ⟨k, event, hnext, hget, hdue⟩ := nextTimedEvent_due 0 _ (by decide) hcalc
      obtain rfl : next = k := by omega
      exact ⟨rfl, event, hget, hdue⟩
    · cases h
  · cases h

theorem toNat_add_le (a b : UInt64) : (a + b).toNat ≤ a.toNat + b.toNat := by
  rw [UInt64.toNat_add]
  exact Nat.mod_le _ _

/-- An event whose `last_call` is set to a time up to `armedAt` is due in time. -/
theorem dueBy_modify {timedEvents : List TimedEvent} {f : TimedEvent → TimedEvent}
    (hf : ∀ event, (f event).lastCall ≤ armedAt) : DueBy i armedAt (timedEvents.modify i f) := by
  intro event hget
  rw [List.getElem?_modify_eq] at hget
  obtain ⟨before, -, rfl⟩ := Option.map_eq_some_iff.mp hget
  have hle := UInt64.le_iff_toNat_le.mp (hf before)
  have hsum := toNat_add_le (f before).lastCall (f before).interval
  omega

theorem dueBy_modify_of_ne {timedEvents : List TimedEvent} {f : TimedEvent → TimedEvent} {j : ℕ}
    (hne : j ≠ i) (h : DueBy i armedAt timedEvents) :
    DueBy i armedAt (timedEvents.modify j f) := by
  intro event hget
  rw [List.getElem?_modify_ne f timedEvents hne] at hget
  exact h event hget

theorem Arms.dueBy (harm : Arms i armedAt loop action) :
    DueBy i armedAt (loopStep loop action).timedEvents := by
  cases action with
  | start now => exact harm.elim
  | iterate now =>
    obtain ⟨hrunning, hfiring⟩ := harm
    obtain ⟨rfl, event, hget, hdue⟩ := nextPhase_firing hfiring
    have hevents : (loopStep loop (.iterate armedAt)).timedEvents = loop.timedEvents := by
      simp [loopStep, hrunning]
    rw [hevents]
    intro other hother
    obtain rfl : event = other := by
      rw [hget] at hother
      exact Option.some.inj hother
    have hle := UInt64.le_iff_toNat_le.mp hdue
    omega
  | call j timerCall =>
    cases timerCall with
    | reschedule now =>
      obtain ⟨rfl, rfl⟩ := harm
      exact dueBy_modify fun event => UInt64.le_refl _
    | enable now =>
      obtain ⟨rfl, rfl⟩ := harm
      exact dueBy_modify fun event => UInt64.le_refl _
    | disable => exact harm.elim
  | callbackReturn leave =>
    obtain ⟨rfl, hfiring⟩ := harm
    simp only [loopStep, hfiring, Bool.false_eq_true, if_false]
    exact dueBy_modify fun event => UInt64.le_refl _

theorem loopStep_dueBy (h : DueBy i armedAt loop.timedEvents) (huntouched : ¬ Touches i loop action)
    (hgoing : ¬ Restarts armedAt loop action) :
    DueBy i armedAt (loopStep loop action).timedEvents := by
  cases action with
  | start now =>
    simp only [loopStep]
    split
    · rename_i hidle
      have hle : now ≤ armedAt := UInt64.not_lt.mp fun hlt => hgoing ⟨hidle, hlt⟩
      intro event hget
      simp only [restartTimers, List.getElem?_map] at hget
      obtain ⟨before, -, rfl⟩ := Option.map_eq_some_iff.mp hget
      have hleNat := UInt64.le_iff_toNat_le.mp hle
      have hsum := toNat_add_le now before.interval
      simp only
      omega
    · exact h
  | iterate now =>
    simp only [loopStep]
    split
    · exact h
    · exact h
  | call j timerCall => exact dueBy_modify_of_ne huntouched h
  | callbackReturn leave =>
    simp only [loopStep]
    split
    · rename_i next curTime hfiring
      split
      · exact h
      · rename_i hstays
        refine dueBy_modify_of_ne ?_ h
        rintro rfl
        refine huntouched ⟨by simpa using hstays, ?_⟩
        rw [hfiring]
        rfl
    · exact h
    · exact h
    · exact h

/-- In every run of the loop, as often as it is left and started: once the interval has passed
since an enabled event was last enabled, rescheduled or fired, `calc_next_timed_event` finds an
event due, provided the loop was not started again since then. -/
theorem due_after_interval (loop : EventLoop) (front rest : List LoopAction) (arm : LoopAction)
    (harm : Arms i armedAt (run loopStep loop front) arm)
    (huntouched : RunOk loopStep (fun loop action => ¬ Touches i loop action)
      (run loopStep loop (front ++ [arm])) rest)
    (hok : RunOk loopStep (fun loop action => ¬ Restarts armedAt loop action)
      (run loopStep loop (front ++ [arm])) rest)
    {event : TimedEvent}
    (hevent : (run loopStep loop (front ++ arm :: rest)).timedEvents[i]? = some event)
    (henabled : event.enabled = true) (curTime : UInt64)
    (hdue : armedAt.toNat + event.interval.toNat ≤ curTime.toNat) :
    (calcNextTimedEvent (run loopStep loop (front ++ arm :: rest)).timedEvents curTime).1 =
      0 := by
  have hone : run loopStep loop (front ++ [arm]) =
      loopStep (run loopStep loop front) arm := by
    rw [run_append, run_cons, run_nil]
  have hsplit : front ++ arm :: rest = front ++ [arm] ++ rest := by simp
  rw [hone] at huntouched hok
  rw [hsplit, run_append, hone] at hevent ⊢
  have hboth : RunOk loopStep
      (fun loop action => ¬ Touches i loop action ∧ ¬ Restarts armedAt loop action)
      (loopStep (run loopStep loop front) arm) rest :=
    fun t ht => ⟨huntouched t ht, hok t ht⟩
  have hdueBy := @run_invariant _ _ loopStep _
    (fun loop => DueBy i armedAt loop.timedEvents)
    (fun loop action h hrespected => loopStep_dueBy h hrespected.1 hrespected.2) _ _ hboth
    harm.dueBy
  have hcome : event.lastCall + event.interval ≤ curTime := by
    rw [UInt64.le_iff_toNat_le]
    exact (hdueBy event hevent).trans hdue
  exact nextTimedEvent_eq_zero hevent henabled hcome 0 _

end Deadlines

/-- A disabled heartbeat timer with an interval of 300 ms, before the loop was ever started. -/
def exampleLoop : EventLoop where
  timedEvents := [{ enabled := false, interval := 300000000, lastCall := 0 }]
  phase := .idle

/-- The timer is enabled at 1 s; a round of the loop that ends with a received message follows. -/
theorem due_after_interval_heartbeat :
    (calcNextTimedEvent (run loopStep exampleLoop
        ([.start 900000000, .iterate 1000000000] ++
          .call 0 (.enable 1000000000) ::
            [.callbackReturn false, .iterate 1200000000, .callbackReturn true])).timedEvents
      1300000000).1 = 0 :=
  due_after_interval exampleLoop [.start 900000000, .iterate 1000000000]
    [.callbackReturn false, .iterate 1200000000, .callbackReturn true]
    (.call 0 (.enable 1000000000)) ⟨rfl, rfl⟩
    (by decide +kernel) (by decide +kernel) rfl rfl 1300000000 (by decide)

/-- The same timer when the message ends the loop and `rasta_recv` starts it again: in the round
at 1.4 s, 100 ms after its deadline, it still has 100 ms to wait. -/
theorem restart_postpones_heartbeat :
    Arms 0 1000000000
        (run loopStep exampleLoop [.start 900000000, .iterate 1000000000])
        (.call 0 (.enable 1000000000)) ∧
      RunOk loopStep (fun loop action => ¬ Touches 0 loop action)
        (run loopStep exampleLoop
          [.start 900000000, .iterate 1000000000, .call 0 (.enable 1000000000)])
        [.callbackReturn false, .iterate 1200000000, .callbackReturn true, .start 1200000000] ∧
      (run loopStep exampleLoop
        [.start 900000000, .iterate 1000000000, .call 0 (.enable 1000000000),
          .callbackReturn false, .iterate 1200000000, .callbackReturn true,
          .start 1200000000]).phase = .running ∧
      (run loopStep exampleLoop
        [.start 900000000, .iterate 1000000000, .call 0 (.enable 1000000000),
          .callbackReturn false, .iterate 1200000000, .callbackReturn true,
          .start 1200000000]).timedEvents.map (·.enabled) = [true] ∧
      (calcNextTimedEvent (run loopStep exampleLoop
        [.start 900000000, .iterate 1000000000, .call 0 (.enable 1000000000),
          .callbackReturn false, .iterate 1200000000, .callbackReturn true,
          .start 1200000000]).timedEvents 1400000000).1 = 100000000 := by
  refine ⟨⟨rfl, rfl⟩, ?_⟩
  decide +kernel

section Choice

/-- The time left until an event is due, without wrap-around. -/
def remaining (curTime : UInt64) (event : TimedEvent) : ℕ :=
  event.lastCall.toNat + event.interval.toNat - curTime.toNat

/-- What the search compares: nothing for a disabled event. -/
def waitingTime (curTime : UInt64) (event : TimedEvent) : Option ℕ :=
  if event.enabled then some (remaining curTime event) else none

/-- The event has a due time below `UINT64_MAX`. -/
def Schedulable (event : TimedEvent) : Prop :=
  event.lastCall.toNat + event.interval.toNat < 2 ^ 64 - 1

instance (event : TimedEvent) : Decidable (Schedulable event) :=
  inferInstanceAs (Decidable (_ < _))

/-- The event is enabled and its time has come. -/
def Due (curTime : UInt64) (event : TimedEvent) : Prop :=
  event.enabled = true ∧ remaining curTime event = 0

variable {curTime : UInt64} {event : TimedEvent} {timedEvents : List TimedEvent}

theorem Schedulable.toNat_continueAt (h : Schedulable event) :
    (event.lastCall + event.interval).toNat = event.lastCall.toNat + event.interval.toNat := by
  unfold Schedulable at h
  rw [UInt64.toNat_add]
  exact Nat.mod_eq_of_lt (by omega)

theorem Schedulable.le_iff (h : Schedulable event) :
    event.lastCall + event.interval ≤ curTime ↔ remaining curTime event = 0 := by
  rw [UInt64.le_iff_toNat_le, h.toNat_continueAt, remaining]
  omega

theorem Schedulable.toNat_wait (h : Schedulable event) (hnot : remaining curTime event ≠ 0) :
    (event.lastCall + event.interval - curTime).toNat = remaining curTime event := by
  have hlt : curTime < event.lastCall + event.interval :=
    UInt64.not_le.mp fun hle => hnot (h.le_iff.mp hle)
  rw [UInt64.toNat_sub_of_le _ _ (UInt64.le_of_lt hlt), h.toNat_continueAt, remaining]

/-- While no event is due, the search is a pass with a running minimum. -/
theorem nextTimedEvent_eq_scanMin (hbound : ∀ event ∈ timedEvents, Schedulable event)
    (hnone : ∀ event ∈ timedEvents, ¬ Due curTime event) (i : ℕ) (found : UInt64 × Option ℕ) :
    ((nextTimedEvent curTime i timedEvents found).1.toNat,
        (nextTimedEvent curTime i timedEvents found).2) =
      scanMin (waitingTime curTime) i timedEvents (found.1.toNat, found.2) := by
  induction timedEvents generalizing i found with
  | nil => rfl
  | cons head rest ih =>
    have hrest := ih (fun e he => hbound e (List.mem_cons_of_mem head he))
      (fun e he => hnone e (List.mem_cons_of_mem head he)) (i + 1)
    have hhead := hbound head List.mem_cons_self
    have hnotDue := hnone head List.mem_cons_self
    unfold nextTimedEvent scanMin waitingTime
    by_cases henabled : head.enabled = true
    · have hfuture : remaining curTime head ≠ 0 := fun hzero => hnotDue ⟨henabled, hzero⟩
      have hlater : ¬ head.lastCall + head.interval ≤ curTime :=
        fun hle => hfuture (hhead.le_iff.mp hle)
      simp only [henabled, if_true, hlater, if_false]
      rw [hrest]
      congr 1
      simp only [UInt64.lt_iff_toNat_lt, hhead.toNat_wait hfuture]
      split
      · rw [hhead.toNat_wait hfuture]
      · rfl
    · simp only [henabled]
      exact hrest found

/-- The first due event in list order ends the search. -/
theorem nextTimedEvent_of_due {front back : List TimedEvent}
    (hbound : ∀ other ∈ front ++ event :: back, Schedulable other)
    (hfirst : ∀ other ∈ front, ¬ Due curTime other) (hdue : Due curTime event) (i : ℕ)
    (found : UInt64 × Option ℕ) :
    nextTimedEvent curTime i (front ++ event :: back) found = (0, some (i + front.length)) := by
  induction front generalizing i found with
  | nil =>
    have hcome := (hbound event List.mem_cons_self).le_iff.mpr hdue.2
    simp [nextTimedEvent, hdue.1, hcome]
  | cons head rest ih =>
    have hrest := ih (fun e he => hbound e (List.mem_cons_of_mem head he))
      (fun e he => hfirst e (List.mem_cons_of_mem head he)) (i + 1)
    have hindex : i + (head :: rest).length = i + 1 + rest.length := by
      simp only [List.length_cons]
      omega
    rw [List.cons_append, nextTimedEvent, hindex]
    by_cases henabled : head.enabled = true
    · have hlater : ¬ head.lastCall + head.interval ≤ curTime := fun hle =>
        hfirst head List.mem_cons_self
          ⟨henabled, (hbound head List.mem_cons_self).le_iff.mp hle⟩
      simp only [henabled, if_true, hlater, if_false]
      exact hrest _
    · simp only [henabled]
      exact hrest _

/-- The list is split at its first due event, if it has one. -/
theorem exists_first_due (h : ∃ event ∈ timedEvents, Due curTime event) :
    ∃ front event back, timedEvents = front ++ event :: back ∧ Due curTime event ∧
      ∀ other ∈ front, ¬ Due curTime other := by
  induction timedEvents with
  | nil => simp at h
  | cons head rest ih =>
    by_cases hhead : Due curTime head
    · exact ⟨[], head, rest, rfl, hhead, by simp⟩
    · have hrest : ∃ event ∈ rest, Due curTime event := by
        obtain ⟨event, hmem, hdue⟩ := h
        rcases List.mem_cons.mp hmem with rfl | hmem
        · exact absurd hdue hhead
        · exact ⟨event, hmem, hdue⟩
      obtain ⟨front, event, back, rfl, hdue, hfirst⟩ := ih hrest
      refine ⟨head :: front, event, back, rfl, hdue, fun e he => ?_⟩
      rcases List.mem_cons.mp he with rfl | he
      · exact hhead
      · exact hfirst e he

/-- The times that are left until the enabled events are due. -/
def waitingTimes (curTime : UInt64) (timedEvents : List TimedEvent) : Set ℕ :=
  {wait | ∃ event ∈ timedEvents, event.enabled = true ∧ remaining curTime event = wait}

/-- What `calc_next_timed_event` finds when an event is enabled: the least time to wait, with the
index of an event that has it, which is the first due one if any is due. -/
structure Chosen (curTime : UInt64) (timedEvents : List TimedEvent)
    (found : UInt64 × Option ℕ) : Prop where
  least : IsLeast (waitingTimes curTime timedEvents) found.1.toNat
  attained : ∃ next event, found.2 = some next ∧ timedEvents[next]? = some event ∧
    event.enabled = true ∧ remaining curTime event = found.1.toNat
  first : ∀ next, found.2 = some next → ∀ i event, timedEvents[i]? = some event →
    Due curTime event → next ≤ i

theorem chosen_of_due (hbound : ∀ event ∈ timedEvents, Schedulable event)
    (hdue : ∃ event ∈ timedEvents, Due curTime event) :
    Chosen curTime timedEvents (calcNextTimedEvent timedEvents curTime) := by
  obtain ⟨front, event, back, rfl, hnow, hfirst⟩ := exists_first_due hdue
  unfold calcNextTimedEvent
  rw [nextTimedEvent_of_due hbound hfirst hnow]
  refine ⟨⟨⟨event, by simp, hnow⟩, fun wait _ => Nat.zero_le wait⟩,
    ⟨front.length, event, by simp, by simp, hnow⟩, ?_⟩
  intro next hnext i other hget hother
  obtain rfl : 0 + front.length = next := Option.some.inj hnext
  by_contra hlt
  have hi : i < front.length := by omega
  rw [List.getElem?_append_left hi] at hget
  exact hfirst other (List.mem_of_getElem? hget) hother

theorem chosen_of_enabled (hbound : ∀ event ∈ timedEvents, Schedulable event)
    (hnone : ∀ event ∈ timedEvents, ¬ Due curTime event)
    (henabled : ∃ event ∈ timedEvents, event.enabled = true) :
    Chosen curTime timedEvents (calcNextTimedEvent timedEvents curTime) := by
  have hscan : ((calcNextTimedEvent timedEvents curTime).1.toNat,
      (calcNextTimedEvent timedEvents curTime).2) =
        scanMin (waitingTime curTime) 0 timedEvents (2 ^ 64 - 1, none) :=
    nextTimedEvent_eq_scanMin hbound hnone 0 _
  have hkey : ∀ event : TimedEvent, event.enabled = true →
      waitingTime curTime event = some (remaining curTime event) := by
    intro event hevent
    simp [waitingTime, hevent]
  rcases scanMin_spec (waitingTime curTime) 0 timedEvents (2 ^ 64 - 1, none) with
    hkept | himproved
  · -- no due time reaches `UINT64_MAX`, so an enabled event would have been taken
    obtain ⟨event, hmem, hevent⟩ := henabled
    have hle := hkept.least event hmem _ (hkey event hevent)
    have hlt := hbound event hmem
    unfold Schedulable at hlt
    unfold remaining at hle
    simp only at hle
    omega
  · rw [← hscan] at himproved
    obtain ⟨next, event, hindex, hget, hwait⟩ := himproved.attained
    have hevent : event.enabled = true ∧
        remaining curTime event = (calcNextTimedEvent timedEvents curTime).1.toNat := by
      unfold waitingTime at hwait
      split at hwait
      · rename_i henabledEvent
        exact ⟨henabledEvent, Option.some.inj hwait⟩
      · cases hwait
    refine ⟨⟨⟨event, List.mem_of_getElem? hget, hevent⟩, ?_⟩,
      ⟨next, event, by simpa using hindex, hget, hevent⟩, ?_⟩
    · rintro wait ⟨other, hmem, hother, rfl⟩
      exact himproved.least other hmem _ (hkey other hother)
    · intro _ _ i other hother hdue
      exact absurd hdue (hnone other (List.mem_of_getElem? hother))

/-- For every list of timed events with due times below `UINT64_MAX`: without an enabled event
`UINT64_MAX` is returned and the out parameter is not written, and otherwise the time and the
event are those of the first event to become due. -/
theorem calcNextTimedEvent_chooses (timedEvents : List TimedEvent) (curTime : UInt64)
    (hbound : ∀ event ∈ timedEvents, Schedulable event) :
    ((∀ event ∈ timedEvents, event.enabled = false) →
        calcNextTimedEvent timedEvents curTime = (0xFFFFFFFFFFFFFFFF, none)) ∧
      ((∃ event ∈ timedEvents, event.enabled = true) →
        Chosen curTime timedEvents (calcNextTimedEvent timedEvents curTime)) := by
  refine ⟨fun hdisabled => ?_, fun henabled => ?_⟩
  · unfold calcNextTimedEvent
    generalize (0 : ℕ) = i
    induction timedEvents generalizing i with
    | nil => rfl
    | cons head rest ih =>
      rw [nextTimedEvent, hdisabled head List.mem_cons_self]
      exact ih (fun e he => hbound e (List.mem_cons_of_mem head he))
        (fun e he => hdisabled e (List.mem_cons_of_mem head he)) (i + 1)
  · by_cases hdue : ∃ event ∈ timedEvents, Due curTime event
    · exact chosen_of_due hbound hdue
    · refine chosen_of_enabled hbound (fun event hmem hnow => hdue ⟨event, hmem, hnow⟩) henabled

/-- A disabled timer, one that is due 500 ns from now and one that is due 300 ns from now. -/
theorem calcNextTimedEvent_chooses_example :
    Chosen 1000
      [{ enabled := false, interval := 1, lastCall := 0 },
        { enabled := true, interval := 1500, lastCall := 0 },
        { enabled := true, interval := 400, lastCall := 900 }]
      (300, some 2) :=
  (calcNextTimedEvent_chooses
    [{ enabled := false, interval := 1, lastCall := 0 },
      { enabled := true, interval := 1500, lastCall := 0 },
      { enabled := true, interval := 400, lastCall := 900 }] 1000 (by decide +kernel)).2
    ⟨{ enabled := true, interval := 1500, lastCall := 0 }, by simp, rfl⟩

end Choice

end LibRasta.Retransmission
