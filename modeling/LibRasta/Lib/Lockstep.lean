/-
Module: LibRasta/Lib/Lockstep.lean
digest: Two ends that number their frames and confirm each other's numbers and clock readings, over links that neither lose nor reorder: the frames under way are determined by the two ends.
-/

import Mathlib.Data.List.Basic
import Mathlib.Tactic.Common

set_option autoImplicit false
set_option relaxedAutoImplicit false

namespace LibRasta.Lib.Lockstep

variable {α : Type}

/-- A numbered frame. It confirms a number of the other end, and echoes the last stamp its sender
received. -/
structure Frame (α : Type) where
  number : ℕ
  confirms : ℕ
  stamp : ℕ
  echo : ℕ
  messages : List α

/-- What one end counts and stores. -/
structure Side (α : Type) where
  next : ℕ
  -- the number it expects from the other end
  expected : ℕ
  -- the last of its own numbers that the other end confirmed
  confirmed : ℕ
  clock : ℕ
  -- the last stamp it received, and the last of its own stamps that came back
  seen : ℕ
  echoed : ℕ
  queue : List α
  pushed : List α
  delivered : List α

/-- One direction, with the frames under way in it and in the other: the numbers under way are the
ones between the two ends, what is confirmed was taken, stamps come back in order, and no message
is missing. -/
structure Ordered (sender receiver : Side α) (flight back : List (Frame α)) : Prop where
  numbers : flight.map Frame.number = List.range' receiver.expected flight.length
  next : receiver.expected + flight.length = sender.next
  rising : (receiver.confirmed :: flight.map Frame.confirms).Pairwise (· ≤ ·)
  heard : ∀ c ∈ receiver.confirmed :: flight.map Frame.confirms, c < sender.expected
  stamps : (receiver.echoed :: (flight.map Frame.echo ++ sender.seen ::
    (back.map Frame.stamp ++ [receiver.clock]))).Pairwise (· ≤ ·)
  messages : receiver.delivered ++ (flight.flatMap Frame.messages ++ sender.queue) = sender.pushed

/-- The side sends frames, takes messages over from its user, and time passes. -/
inductive Emission : Side α → Side α → List (Frame α) → Prop
  | refl (s : Side α) : Emission s s []
  | push (s : Side α) (more : List α) :
      Emission s { s with queue := s.queue ++ more, pushed := s.pushed ++ more } []
  | wait (s : Side α) (clock : ℕ) (hclock : s.clock ≤ clock) :
      Emission s { s with clock := clock } []
  | emit (s : Side α) (messages queue : List α) (hsplit : messages ++ queue = s.queue) :
      Emission s { s with next := s.next + 1, queue := queue }
        [{ number := s.next, confirms := s.expected - 1, stamp := s.clock, echo := s.seen
           messages := messages }]
  | trans {a b c : Side α} {first second : List (Frame α)} (hab : Emission a b first)
      (hbc : Emission b c second) : Emission a c (first ++ second)

/-- The side after it took a frame; `echoed` is its own stamp it remembers from then on. -/
def Side.take (s : Side α) (frame : Frame α) (echoed : ℕ) : Side α :=
  { s with
    expected := frame.number + 1
    confirmed := frame.confirms
    seen := frame.stamp
    echoed := echoed
    delivered := s.delivered ++ frame.messages }

/-- What sending never changes. -/
structure SameHearing (a b : Side α) : Prop where
  expected : b.expected = a.expected
  confirmed : b.confirmed = a.confirmed
  seen : b.seen = a.seen
  echoed : b.echoed = a.echoed
  delivered : b.delivered = a.delivered

section Stamps

variable {xs ys : List ℕ} {x y : ℕ}

theorem pairwise_twice (h : (xs ++ x :: ys).Pairwise (· ≤ ·)) :
    (xs ++ x :: x :: ys).Pairwise (· ≤ ·) := by
  rw [List.pairwise_append] at h ⊢
  obtain ⟨hxs, hback, hbetween⟩ := h
  refine ⟨hxs, List.pairwise_cons.mpr ⟨?_, hback⟩, ?_⟩
  · intro c hc
    rcases List.mem_cons.mp hc with rfl | hc
    · exact Nat.le_refl _
    · exact (List.pairwise_cons.mp hback).1 c hc
  · intro a ha c hc
    rcases List.mem_cons.mp hc with rfl | hc
    · exact hbetween a ha c List.mem_cons_self
    · exact hbetween a ha c hc

theorem pairwise_later (h : (xs ++ [x]).Pairwise (· ≤ ·)) (hxy : x ≤ y) :
    (xs ++ [y]).Pairwise (· ≤ ·) := by
  rw [List.pairwise_append] at h ⊢
  refine ⟨h.1, List.pairwise_singleton _ _, ?_⟩
  intro a ha c hc
  rw [List.mem_singleton.mp hc]
  exact Nat.le_trans (h.2.2 a ha x List.mem_cons_self) hxy

end Stamps

section Direction

variable {s s' r r' : Side α} {flight back more : List (Frame α)} {frame : Frame α}

theorem Emission.sameHearing (h : Emission s s' more) : SameHearing s s' := by
  induction h with
  | refl s => exact ⟨rfl, rfl, rfl, rfl, rfl⟩
  | push s more => exact ⟨rfl, rfl, rfl, rfl, rfl⟩
  | wait s clock hclock => exact ⟨rfl, rfl, rfl, rfl, rfl⟩
  | emit s messages queue hsplit => exact ⟨rfl, rfl, rfl, rfl, rfl⟩
  | trans _ _ ihab ihbc =>
    exact ⟨ihbc.expected.trans ihab.expected, ihbc.confirmed.trans ihab.confirmed,
      ihbc.seen.trans ihab.seen, ihbc.echoed.trans ihab.echoed,
      ihbc.delivered.trans ihab.delivered⟩

theorem Emission.next (h : Emission s s' more) : s'.next = s.next + more.length := by
  induction h with
  | refl s => rfl
  | push s more => rfl
  | wait s clock hclock => rfl
  | emit s messages queue hsplit => rfl
  | trans _ _ ihab ihbc =>
    rw [ihbc, ihab, List.length_append]
    omega

/-- Nothing is under way. -/
theorem Ordered.clear (hnext : r.expected = s.next) (hheard : r.confirmed < s.expected)
    (hseen : r.echoed ≤ s.seen) (hclock : s.seen ≤ r.clock)
    (hmessages : r.delivered ++ s.queue = s.pushed) : Ordered s r [] [] where
  numbers := rfl
  next := hnext
  rising := List.pairwise_singleton _ _
  heard c hc := by
    rw [List.mem_singleton.mp hc]
    exact hheard
  stamps := by
    simp only [List.map_nil, List.nil_append]
    refine List.pairwise_cons.mpr ⟨?_, List.pairwise_pair.mpr hclock⟩
    intro c hc
    rcases List.mem_pair.mp hc with rfl | rfl
    · exact hseen
    · exact Nat.le_trans hseen hclock
  messages := hmessages

theorem Ordered.expected_pos (h : Ordered s r flight back) : 0 < s.expected := by
  have hheard := h.heard r.confirmed List.mem_cons_self
  omega

theorem Ordered.expected_le (h : Ordered s r flight back) : r.expected ≤ s.next := by
  have hnext := h.next
  omega

theorem Ordered.push (h : Ordered s r flight back) (more : List α) :
    Ordered { s with queue := s.queue ++ more, pushed := s.pushed ++ more } r flight back where
  numbers := h.numbers
  next := h.next
  rising := h.rising
  heard := h.heard
  stamps := h.stamps
  messages := by
    rw [← h.messages]
    simp only [List.append_assoc]

theorem Ordered.wait (h : Ordered s r flight back) (clock : ℕ) :
    Ordered { s with clock := clock } r flight back where
  numbers := h.numbers
  next := h.next
  rising := h.rising
  heard := h.heard
  stamps := h.stamps
  messages := h.messages

theorem Ordered.emit (h : Ordered s r flight back) {messages queue : List α}
    (hsplit : messages ++ queue = s.queue) :
    Ordered { s with next := s.next + 1, queue := queue } r
      (flight ++ [{ number := s.next, confirms := s.expected - 1, stamp := s.clock, echo := s.seen
                    messages := messages }]) back := by
  have hnext := h.next
  have hpos := h.expected_pos
  constructor
  · rw [List.map_append, h.numbers, List.length_append, List.length_singleton, List.range'_concat]
    simp only [List.map_cons, List.map_nil, Nat.one_mul]
    rw [hnext]
  · rw [List.length_append, List.length_singleton]
    show r.expected + (flight.length + 1) = s.next + 1
    omega
  · rw [List.map_append, ← List.cons_append, List.pairwise_append]
    refine ⟨h.rising, List.pairwise_singleton _ _, ?_⟩
    intro c hc d hd
    have hheard := h.heard c hc
    rw [List.map_singleton, List.mem_singleton] at hd
    rw [hd]
    show c ≤ s.expected - 1
    omega
  · intro c hc
    rw [List.map_append, ← List.cons_append] at hc
    rcases List.mem_append.mp hc with hold | hnew
    · exact h.heard c hold
    · rw [List.map_singleton, List.mem_singleton] at hnew
      rw [hnew]
      show s.expected - 1 < s.expected
      omega
  · have hstamps := h.stamps
    rw [← List.cons_append] at hstamps
    have htwice := pairwise_twice hstamps
    rw [List.map_append, List.append_assoc, ← List.cons_append]
    exact htwice
  · have hmessages := h.messages
    rw [← hsplit] at hmessages
    rw [← hmessages]
    simp only [List.flatMap_append, List.flatMap_cons, List.flatMap_nil, List.append_nil,
      List.append_assoc]

theorem Ordered.emission (h : Ordered s r flight back) (hsent : Emission s s' more) :
    Ordered s' r (flight ++ more) back := by
  induction hsent generalizing flight with
  | refl s =>
    rw [List.append_nil]
    exact h
  | push s more =>
    rw [List.append_nil]
    exact h.push more
  | wait s clock hclock =>
    rw [List.append_nil]
    exact h.wait clock
  | emit s messages queue hsplit => exact h.emit hsplit
  | trans _ _ ihab ihbc =>
    rw [← List.append_assoc]
    exact ihbc (ihab h)

/-- The receiver sends frames in the other direction. -/
theorem Ordered.answered (h : Ordered s r flight back) (hsent : Emission r r' more) :
    Ordered s r' flight (back ++ more) := by
  induction hsent generalizing back with
  | refl r =>
    rw [List.append_nil]
    exact h
  | push r more =>
    rw [List.append_nil]
    exact ⟨h.numbers, h.next, h.rising, h.heard, h.stamps, h.messages⟩
  | wait r clock hclock =>
    rw [List.append_nil]
    refine ⟨h.numbers, h.next, h.rising, h.heard, ?_, h.messages⟩
    have hstamps := h.stamps
    rw [← List.cons_append, ← List.cons_append, ← List.append_assoc] at hstamps ⊢
    exact pairwise_later hstamps hclock
  | emit r messages queue hsplit =>
    refine ⟨h.numbers, h.next, h.rising, h.heard, ?_, h.messages⟩
    have hstamps := h.stamps
    rw [← List.cons_append, ← List.cons_append, ← List.append_assoc] at hstamps
    have htwice := pairwise_twice hstamps
    rw [List.map_append, List.append_assoc, ← List.cons_append, ← List.cons_append,
      ← List.append_assoc]
    exact htwice
  | trans _ _ ihab ihbc =>
    rw [← List.append_assoc]
    exact ihbc (ihab h)

/-- The receiver takes the oldest frame. -/
theorem Ordered.take (h : Ordered s r (frame :: flight) back) {echoed : ℕ}
    (hechoed : echoed = r.echoed ∨ echoed = frame.echo) :
    Ordered s (r.take frame echoed) flight back := by
  have hnumbers := h.numbers
  have hnext := h.next
  rw [List.map_cons, List.length_cons, List.range'_succ] at hnumbers
  rw [List.length_cons] at hnext
  obtain ⟨hnumber, hrest⟩ := List.cons.inj hnumbers
  constructor
  · rw [hrest, Side.take, hnumber]
  · show frame.number + 1 + flight.length = s.next
    omega
  · exact (List.pairwise_cons.mp h.rising).2
  · intro c hc
    exact h.heard c (List.mem_cons_of_mem _ hc)
  · have hstamps := h.stamps
    rw [List.map_cons, List.cons_append] at hstamps
    rcases hechoed with rfl | rfl
    · exact hstamps.sublist (.cons_cons _ (List.sublist_cons_self _ _))
    · exact hstamps.sublist (List.sublist_cons_self _ _)
  · rw [← h.messages, Side.take]
    simp only [List.flatMap_cons, List.append_assoc]

/-- The sender takes a frame of the other direction. -/
theorem Ordered.hear (h : Ordered s r flight (frame :: back)) (hframe : s.expected ≤ frame.number)
    (echoed : ℕ) : Ordered (s.take frame echoed) r flight back where
  numbers := h.numbers
  next := h.next
  rising := h.rising
  heard c hc := by
    have hheard := h.heard c hc
    show c < frame.number + 1
    omega
  stamps := by
    have hstamps := h.stamps
    refine hstamps.sublist (.cons_cons _ ?_)
    refine List.Sublist.append_left ?_ _
    exact List.sublist_cons_self _ _
  messages := h.messages

/-- The oldest frame has the expected number, confirms and echoes no less than before, and echoes
what was read before now. -/
theorem Ordered.head (h : Ordered s r (frame :: flight) back) :
    frame.number = r.expected ∧ r.confirmed ≤ frame.confirms ∧ frame.confirms < s.expected ∧
      r.echoed ≤ frame.echo ∧ frame.echo ≤ r.clock := by
  have hnumbers := h.numbers
  rw [List.map_cons, List.length_cons, List.range'_succ] at hnumbers
  have hstamps := h.stamps
  rw [List.map_cons, List.cons_append] at hstamps
  obtain ⟨hfirst, hrest⟩ := List.pairwise_cons.mp hstamps
  refine ⟨(List.cons.inj hnumbers).1, ?_, ?_, hfirst _ List.mem_cons_self, ?_⟩
  · exact (List.pairwise_cons.mp h.rising).1 _ List.mem_cons_self
  · exact h.heard _ (List.mem_cons_of_mem _ List.mem_cons_self)
  · refine (List.pairwise_cons.mp hrest).1 _ ?_
    simp

end Direction

section Both

variable {a a' b : Side α} {there back more : List (Frame α)} {frame : Frame α}

/-- Both directions. -/
structure InStep (a b : Side α) (there back : List (Frame α)) : Prop where
  sends : Ordered a b there back
  hears : Ordered b a back there

theorem InStep.symm (h : InStep a b there back) : InStep b a back there :=
  ⟨h.hears, h.sends⟩

theorem InStep.emission (h : InStep a b there back) (hsent : Emission a a' more) :
    InStep a' b (there ++ more) back :=
  ⟨h.sends.emission hsent, h.hears.answered hsent⟩

theorem InStep.take (h : InStep a b there (frame :: back)) {echoed : ℕ}
    (hechoed : echoed = a.echoed ∨ echoed = frame.echo) :
    InStep (a.take frame echoed) b there back :=
  ⟨h.sends.hear (Nat.le_of_eq h.hears.head.1.symm) echoed, h.hears.take hechoed⟩

/-- The oldest frame confirms a number that was sent. -/
theorem InStep.head_confirms (h : InStep a b there (frame :: back)) : frame.confirms < a.next :=
  Nat.lt_of_lt_of_le h.hears.head.2.2.1 h.sends.expected_le

end Both

end LibRasta.Lib.Lockstep
