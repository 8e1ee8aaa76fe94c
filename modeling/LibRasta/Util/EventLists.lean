/-
Module: LibRasta/Util/EventLists.lean
source: src/c/util/event_system.c, src/c/rasta.c
digest: The doubly linked lists of timed and file descriptor events. Exactly as long as no event that left others behind is added again unzeroed, and no file descriptor event is removed as the only one, no assertion fails, and both directions enumerate the events in the order in which they were added.
-/

import LibRasta.Lib.LinkedList
import LibRasta.Lib.Runs

set_option autoImplicit false
set_option relaxedAutoImplicit false

namespace LibRasta.Util

open LibRasta.Lib

/-- `timed_event_linked_list_s` or `fd_event_linked_list_s`, with the fields `next` and `prev` of
all events by address. -/
structure LinkedEvents where
  first : Option ℕ
  last : Option ℕ
  next : ℕ → Option ℕ
  prev : ℕ → Option ℕ

/-- `event_system`, with the field `options` of the file descriptor events. -/
structure EventSystem where
  timedEvents : LinkedEvents
  fdEvents : LinkedEvents
  options : ℕ → Int

section Translation

/-- What `add_timed_event` and `add_fd_event` share; `none` when an assertion fails. -/
def addEvent (list : LinkedEvents) (event : ℕ) : Option LinkedEvents :=
  if list.prev event = none ∧ list.next event = none then
    match list.last with
    | some last =>
      some
        { first := list.first
          last := some event
          next := Function.update (Function.update list.next event none) last (some event)
          prev := Function.update list.prev event (some last) }
    | none =>
      some
        { first := some event
          last := some event
          next := Function.update list.next event none
          prev := Function.update list.prev event none }
  else none

/-- What `remove_timed_event` and `remove_fd_event` share; the links of the removed event itself
stay as they are. -/
def removeEvent (list : LinkedEvents) (event : ℕ) : LinkedEvents :=
  let next := bypass list.next (list.prev event) event
  { first := if list.first = some event then list.next event else list.first
    last := if list.last = some event then list.prev event else list.last
    next := next
    prev := bypass list.prev (next event) event }

/-- `add_timed_event`. -/
def addTimedEvent (evSys : EventSystem) (event : ℕ) : Option EventSystem :=
  (addEvent evSys.timedEvents event).map fun timedEvents =>
    { evSys with timedEvents := timedEvents }

/-- `remove_timed_event`. -/
def removeTimedEvent (evSys : EventSystem) (event : ℕ) : Option EventSystem :=
  some { evSys with timedEvents := removeEvent evSys.timedEvents event }

/-- `add_fd_event`. -/
def addFdEvent (evSys : EventSystem) (event : ℕ) (options : Int) : Option EventSystem :=
  (addEvent evSys.fdEvents event).map fun fdEvents =>
    { evSys with fdEvents := fdEvents, options := Function.update evSys.options event options }

/-- `remove_fd_event`, which has an assertion that `remove_timed_event` lacks. -/
def removeFdEvent (evSys : EventSystem) (event : ℕ) : Option EventSystem :=
  if evSys.fdEvents.prev event ≠ none ∨ evSys.fdEvents.next event ≠ none then
    some { evSys with fdEvents := removeEvent evSys.fdEvents event }
  else none

/-- An event that is set to zero before it is added, as in `rasta_accept_with_cancel`. -/
def zeroLinks (list : LinkedEvents) (event : ℕ) : LinkedEvents :=
  { list with
    next := Function.update list.next event none
    prev := Function.update list.prev event none }

end Translation

section Calls

inductive EventCall where
  | zeroTimed (event : ℕ)
  | zeroFd (event : ℕ)
  | addTimed (event : ℕ)
  | removeTimed (event : ℕ)
  | addFd (event : ℕ) (options : Int)
  | removeFd (event : ℕ)

/-- One call; `none` when an assertion fails. -/
def eventStep (evSys : EventSystem) : EventCall → Option EventSystem
  | .zeroTimed event => some { evSys with timedEvents := zeroLinks evSys.timedEvents event }
  | .zeroFd event =>
    some
      { evSys with
        fdEvents := zeroLinks evSys.fdEvents event
        options := Function.update evSys.options event 0 }
  | .addTimed event => addTimedEvent evSys event
  | .removeTimed event => removeTimedEvent evSys event
  | .addFd event options => addFdEvent evSys event options
  | .removeFd event => removeFdEvent evSys event

/-- A sequence of calls. -/
def eventSteps (evSys : EventSystem) (calls : List EventCall) : Option EventSystem :=
  calls.foldlM eventStep evSys

/-- What last happened to an event that is not in the list. -/
inductive Former where
  | unknown
  | zeroed
  -- it was removed when it was the only event of the list
  | removedAlone
  | removedFromOthers
deriving DecidableEq

/-- The events of a list in the order in which they were added, and the past of the others. -/
structure Roster where
  present : List ℕ
  former : ℕ → Former

namespace Roster

def zero (roster : Roster) (event : ℕ) : Roster :=
  { roster with former := Function.update roster.former event .zeroed }

def add (roster : Roster) (event : ℕ) : Roster :=
  { roster with present := roster.present ++ [event] }

def remove (roster : Roster) (event : ℕ) : Roster where
  present := roster.present.erase event
  former := Function.update roster.former event
    (if roster.present = [event] then .removedAlone else .removedFromOthers)

end Roster

/-- The events that the callers know to be in the two lists. -/
structure Rosters where
  timed : Roster
  fd : Roster

def rosterStep (rosters : Rosters) : EventCall → Rosters
  | .zeroTimed event => { rosters with timed := rosters.timed.zero event }
  | .zeroFd event => { rosters with fd := rosters.fd.zero event }
  | .addTimed event => { rosters with timed := rosters.timed.add event }
  | .removeTimed event => { rosters with timed := rosters.timed.remove event }
  | .addFd event _ => { rosters with fd := rosters.fd.add event }
  | .removeFd event => { rosters with fd := rosters.fd.remove event }

/-- An event that may be added: it is not in the list, and it was set to zero or removed. -/
def Addable (roster : Roster) (event : ℕ) : Prop :=
  event ∉ roster.present ∧ roster.former event ≠ .unknown

instance (roster : Roster) (event : ℕ) : Decidable (Addable roster event) :=
  inferInstanceAs (Decidable (_ ∧ _))

/-- Only events not in the list are set to zero and added, and only events in it are removed. -/
def Permitted (rosters : Rosters) : EventCall → Prop
  | .zeroTimed event => event ∉ rosters.timed.present
  | .zeroFd event => event ∉ rosters.fd.present
  | .addTimed event => Addable rosters.timed event
  | .removeTimed event => event ∈ rosters.timed.present
  | .addFd event _ => Addable rosters.fd event
  | .removeFd event => event ∈ rosters.fd.present

instance (rosters : Rosters) : (call : EventCall) → Decidable (Permitted rosters call)
  | .zeroTimed event => inferInstanceAs (Decidable (event ∉ rosters.timed.present))
  | .zeroFd event => inferInstanceAs (Decidable (event ∉ rosters.fd.present))
  | .addTimed event => inferInstanceAs (Decidable (Addable rosters.timed event))
  | .removeTimed event => inferInstanceAs (Decidable (event ∈ rosters.timed.present))
  | .addFd event _ => inferInstanceAs (Decidable (Addable rosters.fd event))
  | .removeFd event => inferInstanceAs (Decidable (event ∈ rosters.fd.present))

/-- An event that was removed from among others is set to zero before it is added again, and a
file descriptor event is not removed as the only one. -/
def Careful (rosters : Rosters) : EventCall → Prop
  | .addTimed event => rosters.timed.former event ≠ .removedFromOthers
  | .addFd event _ => rosters.fd.former event ≠ .removedFromOthers
  | .removeFd event => rosters.fd.present ≠ [event]
  | .zeroTimed _ | .zeroFd _ | .removeTimed _ => True

instance (rosters : Rosters) : (call : EventCall) → Decidable (Careful rosters call)
  | .addTimed event => inferInstanceAs (Decidable (rosters.timed.former event ≠ _))
  | .addFd event _ => inferInstanceAs (Decidable (rosters.fd.former event ≠ _))
  | .removeFd event => inferInstanceAs (Decidable (rosters.fd.present ≠ [event]))
  | .zeroTimed _ | .zeroFd _ | .removeTimed _ => .isTrue trivial

end Calls

section Tracking

variable {list : LinkedEvents} {roster : Roster} {event : ℕ}

/-- Both directions enumerate the events present, and the links of the others are NULL unless
they were left over when the event was removed. -/
structure Tracks (list : LinkedEvents) (roster : Roster) : Prop where
  forward : Spells list.next list.first roster.present
  backward : Spells list.prev list.last roster.present.reverse
  absent : ∀ event, event ∉ roster.present → roster.former event ≠ .unknown →
    (roster.former event ≠ .removedFromOthers ↔
      list.prev event = none ∧ list.next event = none)

namespace Tracks

theorem zero (h : Tracks list roster) (habsent : event ∉ roster.present) :
    Tracks (zeroLinks list event) (roster.zero event) := by
  have hsame : ∀ (link : ℕ → Option ℕ) (l : List ℕ), (∀ a ∈ l, a ∈ roster.present) →
      ∀ a ∈ l, Function.update link event none a = link a := by
    intro link l hl a ha
    exact Function.update_of_ne (ne_of_mem_of_not_mem (hl a ha) habsent) _ _
  refine ⟨h.forward.congr (hsame _ _ fun a ha => ha),
    h.backward.congr (hsame _ _ fun a ha => List.mem_reverse.mp ha), ?_⟩
  intro other hother hknown
  by_cases heq : other = event
  · subst heq
    simp [zeroLinks, Roster.zero]
  · simpa [zeroLinks, Roster.zero, heq] using
      h.absent other hother (by simpa [Roster.zero, heq] using hknown)

/-- The assertions of adding hold exactly when the event was not removed from among others. -/
theorem addEvent_isSome_iff (h : Tracks list roster) (haddable : Addable roster event) :
    (addEvent list event).isSome = true ↔ roster.former event ≠ .removedFromOthers := by
  rw [h.absent event haddable.1 haddable.2]
  unfold addEvent
  split
  · rename_i hnull
    simp only [hnull, and_self, iff_true]
    split <;> rfl
  · rename_i hlinked
    simp [hlinked]

theorem add (h : Tracks list roster) (habsent : event ∉ roster.present) {after : LinkedEvents}
    (hadd : addEvent list event = some after) : Tracks after (roster.add event) := by
  have hothers : ∀ a ∈ roster.present, a ≠ event := fun a ha => ne_of_mem_of_not_mem ha habsent
  unfold addEvent at hadd
  split at hadd
  · rename_i hnull
    have hnext : Function.update list.next event none = list.next :=
      Function.update_eq_self_iff.mpr hnull.2.symm
    split at hadd
    · rename_i last hlast
      obtain rfl := Option.some.inj hadd
      obtain ⟨front, hpresent⟩ : ∃ front, roster.present = front ++ [last] := by
        have hhead := h.backward.head_eq
        rw [hlast, List.head?_reverse] at hhead
        exact List.getLast?_eq_some_iff.mp hhead.symm
      refine ⟨?_, ?_, ?_⟩
      · have hforward := h.forward
        rw [hpresent] at hforward habsent
        simp only [Roster.add, hnext, hpresent]
        exact hforward.snoc habsent hnull.2
      · simp only [Roster.add, List.reverse_append, List.reverse_singleton, List.singleton_append]
        refine spells_cons.mpr ⟨rfl, ?_⟩
        rw [Function.update_self, ← hlast]
        exact h.backward.congr fun a ha =>
          Function.update_of_ne (hothers a (List.mem_reverse.mp ha)) _ _
      · intro other hother hknown
        obtain ⟨hother, hne⟩ : other ∉ roster.present ∧ other ≠ event := by
          simpa [Roster.add] using hother
        have hlastNe : other ≠ last := by
          rintro rfl
          exact hother (by simp [hpresent])
        simpa [Roster.add, hnext, hne, hlastNe] using h.absent other hother hknown
    · rename_i hlast
      obtain rfl := Option.some.inj hadd
      have hpresent : roster.present = [] :=
        List.reverse_eq_nil_iff.mp (h.backward.eq_none_iff.mp hlast)
      refine ⟨?_, ?_, ?_⟩
      · simp [Roster.add, hpresent, Spells, Segment]
      · simp [Roster.add, hpresent, Spells, Segment]
      · intro other hother hknown
        obtain ⟨hother, hne⟩ : other ∉ roster.present ∧ other ≠ event := by
          simpa [Roster.add] using hother
        simpa [Roster.add, hne] using h.absent other hother hknown
  · cases hadd

/-- The links of a present event are its neighbours. -/
theorem links (h : Tracks list roster) {front back : List ℕ}
    (hpresent : roster.present = front ++ event :: back) :
    list.prev event = front.getLast? ∧ list.next event = back.head? := by
  have hforward := h.forward
  have hbackward := h.backward
  rw [hpresent] at hforward hbackward
  rw [List.reverse_append, List.reverse_cons, List.append_assoc, List.singleton_append]
    at hbackward
  rw [hbackward.next_eq, hforward.next_eq, List.head?_reverse]
  exact ⟨rfl, rfl⟩

/-- The assertion of `remove_fd_event` holds exactly when the event is not the only one. -/
theorem linked_iff (h : Tracks list roster) (hmem : event ∈ roster.present) :
    list.prev event ≠ none ∨ list.next event ≠ none ↔ roster.present ≠ [event] := by
  obtain ⟨front, back, hpresent⟩ := List.append_of_mem hmem
  obtain ⟨hprev, hnext⟩ := h.links hpresent
  rw [hprev, hnext, hpresent]
  cases front with
  | nil => cases back <;> simp
  | cons a front => simp

theorem remove (h : Tracks list roster) (hmem : event ∈ roster.present) :
    Tracks (removeEvent list event) (roster.remove event) := by
  obtain ⟨front, back, hpresent⟩ := List.append_of_mem hmem
  obtain ⟨hprev, hnext⟩ := h.links hpresent
  have hnodup := h.forward.nodup
  rw [hpresent, List.nodup_append, List.nodup_cons] at hnodup
  obtain ⟨-, ⟨hback, -⟩, hdisjoint⟩ := hnodup
  have hfront : event ∉ front := fun hm => hdisjoint event hm event List.mem_cons_self rfl
  have herase : roster.present.erase event = front ++ back := by
    rw [hpresent, List.erase_append_right _ hfront, List.erase_cons_head]
  -- the successor is read after the predecessor was written, which did not change it
  have hsuccessor : bypass list.next (list.prev event) event event = list.next event := by
    rw [hprev]
    exact bypass_of_not_mem hfront
  have hkept : ∀ other, other ∉ front → other ∉ back →
      (removeEvent list event).next other = list.next other ∧
        (removeEvent list event).prev other = list.prev other := by
    intro other hotherFront hotherBack
    have hreverse : other ∉ back.reverse := fun hm => hotherBack (List.mem_reverse.mp hm)
    have hlast : back.head? = back.reverse.getLast? := List.getLast?_reverse.symm
    simp only [removeEvent, hsuccessor]
    rw [hprev, hnext, hlast]
    exact ⟨bypass_of_not_mem hotherFront, bypass_of_not_mem hreverse⟩
  refine ⟨?_, ?_, ?_⟩
  · have hforward := h.forward
    rw [hpresent] at hforward
    simp only [removeEvent, Roster.remove, herase, hprev]
    exact hforward.unlink
  · have hbackward := h.backward
    rw [hpresent, List.reverse_append, List.reverse_cons, List.append_assoc,
      List.singleton_append] at hbackward
    have hunlinked := hbackward.unlink
    rw [List.getLast?_reverse, ← hnext] at hunlinked
    simp only [removeEvent, Roster.remove, herase, List.reverse_append, hsuccessor]
    exact hunlinked
  · intro other hother hknown
    simp only [Roster.remove, herase, List.mem_append, not_or] at hother
    obtain ⟨hnextKept, hprevKept⟩ := hkept other hother.1 hother.2
    rw [hnextKept, hprevKept]
    by_cases heq : other = event
    · subst heq
      have hlinked := h.linked_iff hmem
      simp only [Roster.remove, Function.update_self]
      by_cases halone : roster.present = [other]
      · rw [if_pos halone]
        rw [halone] at hlinked
        simpa using hlinked
      · rw [if_neg halone]
        have hleft := hlinked.mpr halone
        simpa [or_iff_not_imp_left] using hleft
    · have habsent : other ∉ roster.present := by simp [hpresent, hother, heq]
      simpa [Roster.remove, heq] using
        h.absent other habsent (by simpa [Roster.remove, heq] using hknown)

end Tracks

end Tracking

section Runs

/-- Both lists are tracked. -/
structure Enumerates (evSys : EventSystem) (rosters : Rosters) : Prop where
  timed : Tracks evSys.timedEvents rosters.timed
  fd : Tracks evSys.fdEvents rosters.fd

variable {evSys after : EventSystem} {rosters : Rosters} {call : EventCall}

theorem Enumerates.eventStep_isSome_iff (h : Enumerates evSys rosters)
    (hpermitted : Permitted rosters call) :
    (eventStep evSys call).isSome = true ↔ Careful rosters call := by
  cases call with
  | zeroTimed event => simp [eventStep, Careful]
  | zeroFd event => simp [eventStep, Careful]
  | addTimed event =>
    rw [eventStep, addTimedEvent, Option.isSome_map]
    exact h.timed.addEvent_isSome_iff hpermitted
  | removeTimed event => simp [eventStep, removeTimedEvent, Careful]
  | addFd event options =>
    rw [eventStep, addFdEvent, Option.isSome_map]
    exact h.fd.addEvent_isSome_iff hpermitted
  | removeFd event =>
    have hlinked := h.fd.linked_iff hpermitted
    rw [eventStep, removeFdEvent, Careful, ← hlinked]
    split
    · rename_i hsome
      simpa using hsome
    · rename_i hnone
      simpa using hnone

theorem Enumerates.step (h : Enumerates evSys rosters) (hpermitted : Permitted rosters call)
    (hstep : eventStep evSys call = some after) : Enumerates after (rosterStep rosters call) := by
  cases call with
  | zeroTimed event =>
    obtain rfl := Option.some.inj hstep
    exact ⟨h.timed.zero hpermitted, h.fd⟩
  | zeroFd event =>
    obtain rfl := Option.some.inj hstep
    exact ⟨h.timed, h.fd.zero hpermitted⟩
  | addTimed event =>
    obtain ⟨timedEvents, hadd, rfl⟩ := Option.map_eq_some_iff.mp hstep
    exact ⟨h.timed.add hpermitted.1 hadd, h.fd⟩
  | removeTimed event =>
    obtain rfl := Option.some.inj hstep
    exact ⟨h.timed.remove hpermitted, h.fd⟩
  | addFd event options =>
    obtain ⟨fdEvents, hadd, rfl⟩ := Option.map_eq_some_iff.mp hstep
    exact ⟨h.timed, h.fd.add hpermitted.1 hadd⟩
  | removeFd event =>
    rw [eventStep, removeFdEvent] at hstep
    split at hstep
    · obtain rfl := Option.some.inj hstep
      exact ⟨h.timed, h.fd.remove hpermitted⟩
    · cases hstep

/-- A run fails no assertion exactly when every call is careful, and it keeps both lists. -/
theorem Enumerates.steps (h : Enumerates evSys rosters) (calls : List EventCall)
    (hpermitted : RunOk rosterStep Permitted rosters calls) :
    ((eventSteps evSys calls).isSome = true ↔ RunOk rosterStep Careful rosters calls) ∧
      ∀ after, eventSteps evSys calls = some after →
        Enumerates after (run rosterStep rosters calls) := by
  induction calls generalizing evSys rosters with
  | nil =>
    refine ⟨by simp [eventSteps, RunOk, trace], fun after hafter => ?_⟩
    obtain rfl := Option.some.inj hafter
    exact h
  | cons call rest ih =>
    obtain ⟨hfirst, hrest⟩ := (runOk_cons rosterStep).mp hpermitted
    have hcareful := h.eventStep_isSome_iff hfirst
    have hsplit : eventSteps evSys (call :: rest) =
        (eventStep evSys call).bind fun middle => eventSteps middle rest := rfl
    rw [hsplit, runOk_cons, ← hcareful]
    cases hstep : eventStep evSys call with
    | none => simp
    | some middle =>
      obtain ⟨hok, hkept⟩ := ih (h.step hfirst hstep) hrest
      simp only [Option.bind_some, Option.isSome_some, true_and, run_cons]
      exact ⟨hok, hkept⟩

/-- An event system without events. -/
structure Empty (evSys : EventSystem) : Prop where
  timedFirst : evSys.timedEvents.first = none
  timedLast : evSys.timedEvents.last = none
  fdFirst : evSys.fdEvents.first = none
  fdLast : evSys.fdEvents.last = none

/-- Nothing was added yet. -/
def noRosters : Rosters where
  timed := { present := [], former := fun _ => .unknown }
  fd := { present := [], former := fun _ => .unknown }

theorem Empty.enumerates (h : Empty evSys) : Enumerates evSys noRosters :=
  ⟨⟨h.timedFirst, h.timedLast, fun _ _ hknown => absurd rfl hknown⟩,
    ⟨h.fdFirst, h.fdLast, fun _ _ hknown => absurd rfl hknown⟩⟩

/-- A list is traversed completely in both directions, and its ends are NULL iff it is empty. -/
structure Traversed (list : LinkedEvents) (present : List ℕ) : Prop where
  forward : Spells list.next list.first present
  backward : Spells list.prev list.last present.reverse
  first : list.first = none ↔ present = []
  last : list.last = none ↔ present = []

theorem Tracks.traversed {list : LinkedEvents} {roster : Roster} (h : Tracks list roster) :
    Traversed list roster.present :=
  ⟨h.forward, h.backward, h.forward.eq_none_iff,
    h.backward.eq_none_iff.trans List.reverse_eq_nil_iff⟩

/-- For every permitted sequence of calls: no assertion fails and both lists can be traversed
exactly when every call is careful. -/
theorem eventLists_traversed_iff (evSys : EventSystem) (hempty : Empty evSys)
    (calls : List EventCall) (hpermitted : RunOk rosterStep Permitted noRosters calls) :
    (∃ after, eventSteps evSys calls = some after ∧
        Traversed after.timedEvents (run rosterStep noRosters calls).timed.present ∧
        Traversed after.fdEvents (run rosterStep noRosters calls).fd.present) ↔
      RunOk rosterStep Careful noRosters calls := by
  obtain ⟨hok, hkept⟩ := hempty.enumerates.steps calls hpermitted
  rw [← hok, Option.isSome_iff_exists]
  constructor
  · rintro ⟨after, hafter, -⟩
    exact ⟨after, hafter⟩
  · rintro ⟨after, hafter⟩
    have h := hkept after hafter
    exact ⟨after, hafter, h.timed.traversed, h.fd.traversed⟩

end Runs

section Example

/-- An event system on memory that was not written. -/
def exampleEventSystem : EventSystem where
  timedEvents := { first := none, last := none, next := fun _ => some 0, prev := fun _ => some 0 }
  fdEvents := { first := none, last := none, next := fun _ => some 0, prev := fun _ => some 0 }
  options := fun _ => 0

/-- A cancel event joins the event of a socket and leaves again, as in `rasta_accept_with_cancel`,
and a timer is added again after it was the only one. -/
def exampleCalls : List EventCall :=
  [.zeroFd 1, .addFd 1 1, .zeroFd 2, .addFd 2 1, .removeFd 2, .zeroTimed 3, .addTimed 3,
    .removeTimed 3, .addTimed 3]

theorem eventLists_traversed_iff_example :
    ∃ after, eventSteps exampleEventSystem exampleCalls = some after ∧
      Traversed after.timedEvents [3] ∧ Traversed after.fdEvents [1] :=
  (eventLists_traversed_iff exampleEventSystem ⟨rfl, rfl, rfl, rfl⟩ exampleCalls
    (by decide +kernel)).mpr (by decide +kernel)

/-- Two permitted sequences that fail an assertion: the only file descriptor event is removed,
and a timer that was removed from in front of another one is added again. -/
theorem eventLists_assertions_fail :
    (RunOk rosterStep Permitted noRosters [.zeroFd 1, .addFd 1 1, .removeFd 1] ∧
        eventSteps exampleEventSystem [.zeroFd 1, .addFd 1 1, .removeFd 1] = none) ∧
      RunOk rosterStep Permitted noRosters
        [.zeroTimed 1, .zeroTimed 2, .addTimed 1, .addTimed 2, .removeTimed 1, .addTimed 1] ∧
      eventSteps exampleEventSystem
        [.zeroTimed 1, .zeroTimed 2, .addTimed 1, .addTimed 2, .removeTimed 1, .addTimed 1] =
          none :=
  ⟨⟨by decide +kernel, rfl⟩, by decide +kernel, rfl⟩

end Example

end LibRasta.Util
