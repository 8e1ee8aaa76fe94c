/-
Module: LibRasta/Lib/Renumbering.lean
digest: One direction of a protocol that retransmits unconfirmed batches under new numbers on request, over a link that loses but neither reorders nor duplicates: what is delivered is a subsequence of what was queued.
-/

import Mathlib.Data.List.Flatten
import Mathlib.Data.List.Sublists
import Mathlib.Logic.Relation
import Mathlib.Tactic.Common

set_option autoImplicit false
set_option relaxedAutoImplicit false

namespace LibRasta.Lib.Renumbering

variable {α : Type}

/-- A PDU of kind `final` shares its number with the PDU after it. -/
inductive Kind where
  | data
  | response
  | final
  | plain
deriving DecidableEq

structure Pdu (α : Type) where
  number : ℕ
  kind : Kind
  messages : List α

/-- The first number free after the PDU. -/
def Pdu.stop (pdu : Pdu α) : ℕ := if pdu.kind = .final then pdu.number else pdu.number + 1

/-- What the receiver does with numbers: it has not met the sender yet, follows them, waits for a
response, or has given up. -/
inductive Mode where
  | idle
  | accepting
  | waiting
  | closed
deriving DecidableEq

/-- Sender, link and receiver of one direction. -/
structure Direction (α : Type) where
  -- messages queued so far, and those of them that still wait
  pushed : List α
  queue : List α
  sent : List (Pdu α)
  flight : List (Pdu α)
  -- unconfirmed batches with the numbers they were last sent under
  kept : List (ℕ × List α)
  next : ℕ
  mode : Mode
  expected : ℕ
  delivered : List α
  -- retransmission requests on their way back, each with the last number received
  requests : List ℕ

/-- The batches among the PDUs. -/
def batches (sent : List (Pdu α)) : List (ℕ × List α) :=
  (sent.filter (·.kind = .data)).map fun pdu => (pdu.number, pdu.messages)

/-- The messages in the batches from a number on. -/
def payload (first : ℕ) (sent : List (Pdu α)) : List α :=
  ((batches sent).filter (first ≤ ·.1)).flatMap Prod.snd

/-- The batches under fresh numbers from `first` on. -/
def copies : ℕ → List (ℕ × List α) → List (Pdu α)
  | _, [] => []
  | first, batch :: rest =>
    { number := first, kind := .data, messages := batch.2 } :: copies (first + 1) rest

namespace Direction

/-- The sender emits a PDU. -/
def emit (s : Direction α) (pdu : Pdu α) : Direction α :=
  { s with sent := s.sent ++ [pdu], flight := s.flight ++ [pdu], next := pdu.stop }

def respond (s : Direction α) : Direction α :=
  let pdus := { number := s.next, kind := .response, messages := [] } :: copies (s.next + 1) s.kept
  { s with
    sent := s.sent ++ pdus
    flight := s.flight ++ pdus
    kept := batches (copies (s.next + 1) s.kept)
    next := s.next + 1 + s.kept.length
    requests := s.requests.tail }

/-- The receiver takes the next PDU off the link. -/
def take (s : Direction α) (rest : List (Pdu α)) : Direction α := { s with flight := rest }

end Direction

/-- Everything that can happen in one direction. -/
inductive Move : Direction α → Direction α → Prop
  | push (s : Direction α) (message : α) :
      Move s { s with pushed := s.pushed ++ [message], queue := s.queue ++ [message] }
  | batch (s : Direction α) (n : ℕ) (kept : List (ℕ × List α))
      (hkept : kept = s.kept ∨ kept = s.kept ++ [(s.next, s.queue.take n)]) :
      Move s
        { s.emit { number := s.next, kind := .data, messages := s.queue.take n } with
          queue := s.queue.drop n, kept := kept }
  | control (s : Direction α) (kind : Kind) (hkind : kind = .plain ∨ kind = .final) :
      Move s (s.emit { number := s.next, kind := kind, messages := [] })
  | confirm (s : Direction α) (n : ℕ) : Move s { s with kept := s.kept.drop n }
  | respond (s : Direction α) (last : ℕ) (hrequest : s.requests.head? = some last)
      (hkept : ∀ batch ∈ s.kept, last < batch.1) : Move s s.respond
  | lose (s : Direction α) (flight : List (Pdu α)) (hflight : flight.Sublist s.flight) :
      Move s { s with flight := flight }
  | loseRequest (s : Direction α) (requests : List ℕ) (hrequests : requests.Sublist s.requests) :
      Move s { s with requests := requests }
  | stop (s : Direction α) (mode : Mode) (hmode : mode = .closed ∨ mode = .waiting) :
      Move s { s with mode := mode }
  | establish (s : Direction α) (hmode : s.mode = .idle) : Move s { s with mode := .accepting }
  | skip (s : Direction α) (pdu : Pdu α) (rest : List (Pdu α)) (hflight : s.flight = pdu :: rest)
      (hkind : pdu.kind = .data ∨ pdu.kind = .plain)
      (hnumber : pdu.number = s.expected ∨ s.mode = .idle) :
      Move s { s.take rest with expected := pdu.number + 1 }
  | deliver (s : Direction α) (pdu : Pdu α) (rest : List (Pdu α)) (n : ℕ)
      (hflight : s.flight = pdu :: rest) (hkind : pdu.kind = .data) (hmode : s.mode = .accepting)
      (hnumber : pdu.number = s.expected) :
      Move s
        { s.take rest with
          expected := pdu.number + 1, delivered := s.delivered ++ pdu.messages.take n }
  | ask (s : Direction α) (pdu : Pdu α) (rest : List (Pdu α)) (last : ℕ)
      (hflight : s.flight = pdu :: rest) (hkind : pdu.kind = .data) (hmode : s.mode = .accepting)
      (hnumber : pdu.number ≠ s.expected) (hlast : last + 1 = s.expected) :
      Move s { s.take rest with mode := .waiting, requests := s.requests ++ [last] }
  | resume (s : Direction α) (pdu : Pdu α) (rest : List (Pdu α)) (hflight : s.flight = pdu :: rest)
      (hkind : pdu.kind = .response) :
      Move s { s.take rest with mode := .accepting, expected := pdu.number + 1 }

section Lists

variable {first : ℕ} {sent : List (Pdu α)}

theorem batches_append (sent more : List (Pdu α)) :
    batches (sent ++ more) = batches sent ++ batches more := by
  simp [batches]

theorem mem_batches {batch : ℕ × List α} (h : batch ∈ batches sent) :
    ∃ pdu ∈ sent, pdu.kind = .data ∧ batch = (pdu.number, pdu.messages) := by
  obtain ⟨pdu, hpdu, rfl⟩ := List.mem_map.mp h
  obtain ⟨hmem, hkind⟩ := List.mem_filter.mp hpdu
  exact ⟨pdu, hmem, by simpa using hkind, rfl⟩

theorem payload_append (first : ℕ) (sent more : List (Pdu α)) :
    payload first (sent ++ more) = payload first sent ++ payload first more := by
  simp [payload, batches_append]

theorem payload_of_below (h : ∀ pdu ∈ sent, pdu.kind = .data → pdu.number < first) :
    payload first sent = [] := by
  have hnone : (batches sent).filter (first ≤ ·.1) = [] := by
    rw [List.filter_eq_nil_iff]
    intro batch hbatch
    obtain ⟨pdu, hpdu, hkind, rfl⟩ := mem_batches hbatch
    simpa using h pdu hpdu hkind
  rw [payload, hnone]
  rfl

theorem payload_of_empty (h : ∀ pdu ∈ sent, pdu.messages = []) : payload first sent = [] := by
  rw [payload, List.flatMap_eq_nil_iff]
  intro batch hbatch
  obtain ⟨pdu, hpdu, -, rfl⟩ := mem_batches (List.mem_filter.mp hbatch).1
  exact h pdu hpdu

theorem payload_singleton {pdu : Pdu α} (hkind : pdu.kind = .data ∨ pdu.messages = [])
    (h : first ≤ pdu.number) : payload first [pdu] = pdu.messages := by
  by_cases hdata : pdu.kind = .data
  · simp [payload, batches, hdata, h]
  · have hempty := hkind.resolve_left hdata
    simp [payload, batches, hdata, hempty]

theorem payload_all (h : ∀ pdu ∈ sent, first ≤ pdu.number) :
    payload first sent = (batches sent).flatMap Prod.snd := by
  have hall : (batches sent).filter (first ≤ ·.1) = batches sent := by
    rw [List.filter_eq_self]
    intro batch hbatch
    obtain ⟨pdu, hpdu, -, rfl⟩ := mem_batches hbatch
    simpa using h pdu hpdu
  rw [payload, hall]

/-- Raising the first number drops messages. -/
theorem payload_sublist {second : ℕ} (h : first ≤ second) :
    (payload second sent).Sublist (payload first sent) := by
  have hfilter : (batches sent).filter (second ≤ ·.1) =
      ((batches sent).filter (first ≤ ·.1)).filter (second ≤ ·.1) := by
    rw [List.filter_filter]
    refine List.filter_congr fun batch _ => ?_
    by_cases hsecond : second ≤ batch.1
    · simp [hsecond, Nat.le_trans h hsecond]
    · simp [hsecond]
  rw [payload, hfilter]
  exact List.Sublist.flatMap List.filter_sublist _

/-- The messages of batches that were all sent from `first` on. -/
theorem flatMap_sublist_payload {kept : List (ℕ × List α)} (hkept : kept.Sublist (batches sent))
    (hfirst : ∀ batch ∈ kept, first ≤ batch.1) :
    (kept.flatMap Prod.snd).Sublist (payload first sent) := by
  have hsame : kept.filter (first ≤ ·.1) = kept := by
    rw [List.filter_eq_self]
    intro batch hbatch
    simpa using hfirst batch hbatch
  have hfilter := hkept.filter (first ≤ ·.1)
  rw [hsame] at hfilter
  exact hfilter.flatMap Prod.snd

theorem mem_copies {kept : List (ℕ × List α)} {first : ℕ} {pdu : Pdu α}
    (h : pdu ∈ copies first kept) :
    pdu.kind = .data ∧ first ≤ pdu.number ∧ pdu.number < first + kept.length := by
  induction kept generalizing first with
  | nil => cases h
  | cons batch rest ih =>
    rcases List.mem_cons.mp h with rfl | hrest
    · exact ⟨rfl, Nat.le_refl _, by simp⟩
    · obtain ⟨hkind, hle, hlt⟩ := ih hrest
      simp only [List.length_cons]
      exact ⟨hkind, by omega, by omega⟩

theorem payload_copies (kept : List (ℕ × List α)) {first second : ℕ} (h : first ≤ second) :
    payload first (copies second kept) = kept.flatMap Prod.snd := by
  induction kept generalizing second with
  | nil => rfl
  | cons batch rest ih =>
    have hfirst : payload first (copies second (batch :: rest)) =
        batch.2 ++ payload first (copies (second + 1) rest) := by
      simp [copies, payload, batches, h]
    rw [hfirst, ih (Nat.le_succ_of_le h), List.flatMap_cons]

theorem copies_pairwise (kept : List (ℕ × List α)) (first : ℕ) :
    (copies first kept).Pairwise fun p q => p.stop ≤ q.number := by
  induction kept generalizing first with
  | nil => exact List.Pairwise.nil
  | cons batch rest ih =>
    refine List.Pairwise.cons ?_ (ih (first + 1))
    intro pdu hpdu
    exact (mem_copies hpdu).2.1

end Lists

/-- The invariant: while the receiver follows the numbers, or its request is on the way, what it
can still deliver is in the PDUs from the expected number on; while a response is on the way, it
is in the PDUs after the response. -/
structure Inv (s : Direction α) : Prop where
  base : (s.delivered ++ s.queue).Sublist s.pushed
  direct : s.mode = .accepting ∨ s.mode = .idle ∨ s.requests ≠ [] →
    (s.delivered ++ (payload s.expected s.sent ++ s.queue)).Sublist s.pushed
  resumed : ∀ pdu ∈ s.flight, pdu.kind = .response →
    (s.delivered ++ (payload (pdu.number + 1) s.sent ++ s.queue)).Sublist s.pushed
  -- one exchange at a time, and none while the receiver follows the numbers
  single : s.requests.length + (s.flight.filter (·.kind = .response)).length ≤ 1
  quiet : s.mode = .accepting ∨ s.mode = .idle →
    s.requests = [] ∧ ∀ pdu ∈ s.flight, pdu.kind ≠ .response
  -- between a request and its response the expected number cannot arrive
  frozen : ∀ last ∈ s.requests, last + 1 = s.expected ∧ s.expected < s.next ∧
    ∀ pdu ∈ s.flight, s.expected < pdu.number
  sorted : s.sent.Pairwise fun p q => p.stop ≤ q.number
  below : ∀ pdu ∈ s.sent, pdu.stop ≤ s.next
  flight : s.flight.Sublist s.sent
  ahead : ∀ pdu ∈ s.flight, s.expected ≤ pdu.number
  reached : s.expected ≤ s.next
  kept : s.kept.Sublist (batches s.sent)

section Sender

variable {s : Direction α}

theorem Pdu.number_le_stop (pdu : Pdu α) : pdu.number ≤ pdu.stop := by
  unfold Pdu.stop
  split <;> omega

theorem Pdu.stop_of_ne {pdu : Pdu α} (h : pdu.kind ≠ .final) : pdu.stop = pdu.number + 1 :=
  if_neg h

/-- Everything on the link was sent, so it lies below the next number. -/
theorem Inv.flight_below (h : Inv s) {pdu : Pdu α} (hpdu : pdu ∈ s.flight) : pdu.stop ≤ s.next :=
  h.below pdu (h.flight.subset hpdu)

/-- Messages that leave the queue in a new PDU stay deliverable. -/
theorem emit_sublist {first : ℕ} {pdu : Pdu α} {queue : List α}
    (hkind : pdu.kind = .data ∨ pdu.messages = []) (hfirst : first ≤ pdu.number)
    (hsplit : pdu.messages ++ queue = s.queue)
    (h : (s.delivered ++ (payload first s.sent ++ s.queue)).Sublist s.pushed) :
    (s.delivered ++ (payload first (s.sent ++ [pdu]) ++ queue)).Sublist s.pushed := by
  rw [payload_append, payload_singleton hkind hfirst, List.append_assoc, hsplit]
  exact h

/-- A new PDU with the first messages of the queue, or without messages. -/
theorem Inv.emit (h : Inv s) {kind : Kind} (hkind : kind ≠ .response) {messages queue : List α}
    (hdata : kind = .data ∨ messages = []) (hsplit : messages ++ queue = s.queue) :
    Inv { s.emit { number := s.next, kind := kind, messages := messages } with
      queue := queue } := by
  have hqueue : queue.Sublist s.queue := hsplit ▸ List.sublist_append_right messages queue
  have hstop : s.next ≤ (Pdu.mk s.next kind messages).stop :=
    Pdu.number_le_stop (Pdu.mk s.next kind messages)
  constructor
  · exact (List.Sublist.append_left hqueue _).trans h.base
  · intro hmode
    exact emit_sublist hdata h.reached hsplit (h.direct hmode)
  · intro pdu hpdu hresponse
    rcases List.mem_append.mp hpdu with hold | hnew
    · have hbelow := h.flight_below hold
      rw [Pdu.stop_of_ne (by rw [hresponse]; decide)] at hbelow
      exact emit_sublist hdata hbelow hsplit (h.resumed pdu hold hresponse)
    · rw [List.mem_singleton.mp hnew] at hresponse
      exact absurd hresponse hkind
  · have hsingle := h.single
    simpa [Direction.emit, List.filter_append, hkind] using hsingle
  · intro hmode
    obtain ⟨hrequests, hnone⟩ := h.quiet hmode
    refine ⟨hrequests, fun pdu hpdu => ?_⟩
    rcases List.mem_append.mp hpdu with hold | hnew
    · exact hnone pdu hold
    · rw [List.mem_singleton.mp hnew]
      exact hkind
  · intro last hlast
    obtain ⟨hexpected, hnext, hflight⟩ := h.frozen last hlast
    refine ⟨hexpected, Nat.lt_of_lt_of_le hnext hstop, fun pdu hpdu => ?_⟩
    rcases List.mem_append.mp hpdu with hold | hnew
    · exact hflight pdu hold
    · rw [List.mem_singleton.mp hnew]
      exact hnext
  · refine List.pairwise_append.mpr ⟨h.sorted, List.pairwise_singleton _ _, ?_⟩
    intro pdu hpdu new hnew
    rw [List.mem_singleton.mp hnew]
    exact h.below pdu hpdu
  · intro pdu hpdu
    rcases List.mem_append.mp hpdu with hold | hnew
    · exact (h.below pdu hold).trans hstop
    · rw [List.mem_singleton.mp hnew]
      exact Nat.le_refl _
  · exact List.Sublist.append h.flight (List.Sublist.refl _)
  · intro pdu hpdu
    rcases List.mem_append.mp hpdu with hold | hnew
    · exact h.ahead pdu hold
    · rw [List.mem_singleton.mp hnew]
      exact h.reached
  · exact h.reached.trans hstop
  · have hmore : (batches s.sent).Sublist (batches (s.emit ⟨s.next, kind, messages⟩).sent) := by
      rw [Direction.emit, batches_append]
      exact List.sublist_append_left _ _
    exact h.kept.trans hmore

/-- Only the batches that are kept change. -/
theorem Inv.setKept (h : Inv s) {kept : List (ℕ × List α)} (hkept : kept.Sublist (batches s.sent)) :
    Inv { s with kept := kept } :=
  ⟨h.base, h.direct, h.resumed, h.single, h.quiet, h.frozen, h.sorted, h.below, h.flight, h.ahead,
    h.reached, hkept⟩

theorem Inv.batch (h : Inv s) (n : ℕ) {kept : List (ℕ × List α)}
    (hkept : kept = s.kept ∨ kept = s.kept ++ [(s.next, s.queue.take n)]) :
    Inv { s.emit { number := s.next, kind := .data, messages := s.queue.take n } with
      queue := s.queue.drop n, kept := kept } := by
  have hdata : Kind.data ≠ .response := by decide
  have hemitted := h.emit hdata (.inl rfl) (List.take_append_drop n s.queue)
  refine hemitted.setKept ?_
  rcases hkept with rfl | rfl
  · exact hemitted.kept
  · simp only [Direction.emit, batches_append]
    exact List.Sublist.append h.kept (List.Sublist.refl _)

theorem Inv.push (h : Inv s) (message : α) :
    Inv { s with pushed := s.pushed ++ [message], queue := s.queue ++ [message] } := by
  have hgrow : ∀ front : List α, (s.delivered ++ (front ++ s.queue)).Sublist s.pushed →
      (s.delivered ++ (front ++ (s.queue ++ [message]))).Sublist (s.pushed ++ [message]) := by
    intro front hfront
    have hmore := List.Sublist.append hfront (List.Sublist.refl [message])
    simpa only [List.append_assoc] using hmore
  exact ⟨hgrow [] h.base, fun hmode => hgrow _ (h.direct hmode),
    fun pdu hpdu hresponse => hgrow _ (h.resumed pdu hpdu hresponse), h.single, h.quiet, h.frozen,
    h.sorted, h.below, h.flight, h.ahead, h.reached, h.kept⟩

theorem Inv.respond (h : Inv s) {last : ℕ} (hrequest : s.requests.head? = some last)
    (hkept : ∀ batch ∈ s.kept, last < batch.1) : Inv s.respond := by
  obtain ⟨tail, hrequests⟩ := List.head?_eq_some_iff.mp hrequest
  have hone := h.single
  rw [hrequests, List.length_cons] at hone
  have htail : tail = [] := List.length_eq_zero_iff.mp (by omega)
  have hnone : ∀ pdu ∈ s.flight, pdu.kind ≠ .response := by
    have hcount : (s.flight.filter (·.kind = .response)).length = 0 := by omega
    intro pdu hpdu hresponse
    rw [List.length_eq_zero_iff, List.filter_eq_nil_iff] at hcount
    exact hcount pdu hpdu (by simpa using hresponse)
  obtain ⟨hlast, hnext, -⟩ := h.frozen last (by rw [hrequests]; exact List.mem_cons_self)
  have hafter : s.respond.requests = [] := by
    simp [Direction.respond, hrequests, htail]
  have hstopped : ¬ (s.mode = .accepting ∨ s.mode = .idle) := by
    intro hmode
    rw [(h.quiet hmode).1] at hrequests
    cases hrequests
  -- the messages after the response are those of the batches that were kept
  have hpayload : payload (s.next + 1) s.respond.sent = s.kept.flatMap Prod.snd := by
    have hold : payload (s.next + 1) s.sent = [] := by
      refine payload_of_below fun pdu hpdu _ => ?_
      have hbelow := h.below pdu hpdu
      have hstop := pdu.number_le_stop
      omega
    have hresponse : payload (s.next + 1)
        [({ number := s.next, kind := .response, messages := [] } : Pdu α)] = [] :=
      payload_of_empty (by simp)
    rw [Direction.respond]
    simp only
    rw [← List.singleton_append, payload_append, payload_append, hold, hresponse,
      payload_copies _ (Nat.le_refl _), List.nil_append, List.nil_append]
  have hdirect := h.direct (.inr (.inr (by simp [hrequests])))
  have hresumed : (s.delivered ++ (payload (s.next + 1) s.respond.sent ++ s.queue)).Sublist
      s.pushed := by
    rw [hpayload]
    have hfirst : ∀ batch ∈ s.kept, s.expected ≤ batch.1 := by
      intro batch hbatch
      have hlt := hkept batch hbatch
      omega
    have hmessages := flatMap_sublist_payload h.kept hfirst
    exact (List.Sublist.append_left (List.Sublist.append_right hmessages _) _).trans hdirect
  have hmem : ∀ pdu, pdu ∈ ({ number := s.next, kind := .response, messages := [] } : Pdu α) ::
      copies (s.next + 1) s.kept → s.next ≤ pdu.number ∧ pdu.stop ≤ s.respond.next ∧
        (pdu.kind = .response → pdu.number = s.next) := by
    intro pdu hpdu
    rcases List.mem_cons.mp hpdu with rfl | hcopy
    · refine ⟨Nat.le_refl _, ?_, fun _ => rfl⟩
      simp [Pdu.stop, Direction.respond]
    · obtain ⟨hkind, hle, hlt⟩ := mem_copies hcopy
      refine ⟨by omega, ?_, fun hresponse => ?_⟩
      · rw [Pdu.stop_of_ne (by rw [hkind]; decide)]
        simp only [Direction.respond]
        omega
      · rw [hkind] at hresponse
        cases hresponse
  have hgrown : s.next ≤ s.respond.next := by
    simp only [Direction.respond]
    omega
  constructor
  · exact h.base
  · rintro (hmode | hmode | hpending)
    · exact absurd (.inl hmode) hstopped
    · exact absurd (.inr hmode) hstopped
    · exact absurd hafter hpending
  · intro pdu hpdu hresponse
    rcases List.mem_append.mp hpdu with hold | hnew
    · exact absurd hresponse (hnone pdu hold)
    · rw [(hmem pdu hnew).2.2 hresponse]
      exact hresumed
  · have hcopies : (copies (s.next + 1) s.kept).filter (·.kind = .response) = [] := by
      rw [List.filter_eq_nil_iff]
      intro pdu hpdu
      simp [(mem_copies hpdu).1]
    have hflight : s.flight.filter (·.kind = .response) = [] := by
      rw [List.filter_eq_nil_iff]
      intro pdu hpdu
      simpa using hnone pdu hpdu
    rw [hafter]
    simp [Direction.respond, List.filter_append, hflight, hcopies]
  · intro hmode
    exact absurd hmode hstopped
  · rw [hafter]
    simp
  · refine List.pairwise_append.mpr ⟨h.sorted, ?_, ?_⟩
    · refine List.Pairwise.cons ?_ (copies_pairwise _ _)
      intro pdu hpdu
      exact (mem_copies hpdu).2.1
    · intro pdu hpdu new hnew
      exact (h.below pdu hpdu).trans (hmem new hnew).1
  · intro pdu hpdu
    rcases List.mem_append.mp hpdu with hold | hnew
    · exact (h.below pdu hold).trans hgrown
    · exact (hmem pdu hnew).2.1
  · exact List.Sublist.append h.flight (List.Sublist.refl _)
  · intro pdu hpdu
    rcases List.mem_append.mp hpdu with hold | hnew
    · exact h.ahead pdu hold
    · exact h.reached.trans (hmem pdu hnew).1
  · exact h.reached.trans hgrown
  · have hsent : batches s.respond.sent = batches s.sent ++ s.respond.kept := by
      simp only [Direction.respond, batches_append]
      rfl
    rw [hsent]
    exact List.sublist_append_right _ _

end Sender

section Receiver

variable {s : Direction α}

/-- Losing PDUs keeps the invariant. -/
theorem Inv.lose (h : Inv s) {flight : List (Pdu α)} (hflight : flight.Sublist s.flight) :
    Inv { s with flight := flight } := by
  have hsub : ∀ pdu ∈ flight, pdu ∈ s.flight := fun pdu hpdu => hflight.subset hpdu
  refine ⟨h.base, h.direct, fun pdu hpdu => h.resumed pdu (hsub pdu hpdu), ?_, ?_, ?_, h.sorted,
    h.below, hflight.trans h.flight, fun pdu hpdu => h.ahead pdu (hsub pdu hpdu), h.reached, h.kept⟩
  · have hcount := (hflight.filter (·.kind = .response)).length_le
    have hsingle := h.single
    simp only
    omega
  · intro hmode
    obtain ⟨hrequests, hnone⟩ := h.quiet hmode
    exact ⟨hrequests, fun pdu hpdu => hnone pdu (hsub pdu hpdu)⟩
  · intro last hlast
    obtain ⟨hexpected, hnext, hfar⟩ := h.frozen last hlast
    exact ⟨hexpected, hnext, fun pdu hpdu => hfar pdu (hsub pdu hpdu)⟩

theorem Inv.loseRequest (h : Inv s) {requests : List ℕ} (hrequests : requests.Sublist s.requests) :
    Inv { s with requests := requests } := by
  have hempty : s.requests = [] → requests = [] := by
    intro hnone
    rw [hnone] at hrequests
    exact List.sublist_nil.mp hrequests
  refine ⟨h.base, ?_, h.resumed, ?_, ?_, fun last hlast => h.frozen last (hrequests.subset hlast),
    h.sorted, h.below, h.flight, h.ahead, h.reached, h.kept⟩
  · rintro (hmode | hmode | hpending)
    · exact h.direct (.inl hmode)
    · exact h.direct (.inr (.inl hmode))
    · exact h.direct (.inr (.inr fun hnone => hpending (hempty hnone)))
  · have hlength := hrequests.length_le
    have hsingle := h.single
    simp only
    omega
  · intro hmode
    obtain ⟨hnone, hflight⟩ := h.quiet hmode
    exact ⟨hempty hnone, hflight⟩

theorem Inv.stop (h : Inv s) {mode : Mode} (hmode : mode = .closed ∨ mode = .waiting) :
    Inv { s with mode := mode } := by
  have hnot : ¬ (mode = .accepting ∨ mode = .idle) := by
    rcases hmode with rfl | rfl <;> decide
  refine ⟨h.base, ?_, h.resumed, h.single, fun hmode => absurd hmode hnot, h.frozen, h.sorted,
    h.below, h.flight, h.ahead, h.reached, h.kept⟩
  rintro (haccepting | hidle | hpending)
  · exact absurd (.inl haccepting) hnot
  · exact absurd (.inr hidle) hnot
  · exact h.direct (.inr (.inr hpending))

theorem Inv.establish (h : Inv s) (hmode : s.mode = .idle) : Inv { s with mode := .accepting } :=
  ⟨h.base, fun _ => h.direct (.inr (.inl hmode)), h.resumed, h.single,
    fun _ => h.quiet (.inr hmode), h.frozen, h.sorted, h.below, h.flight, h.ahead, h.reached, h.kept⟩

/-- What follows a PDU on the link lies behind it. -/
theorem Inv.behind (h : Inv s) {pdu : Pdu α} {rest : List (Pdu α)} (hflight : s.flight = pdu :: rest)
    {later : Pdu α} (hlater : later ∈ rest) : pdu.stop ≤ later.number := by
  have hsorted := h.sorted.sublist h.flight
  rw [hflight] at hsorted
  exact (List.pairwise_cons.mp hsorted).1 later hlater

/-- The receiver takes the next PDU and moves on to the number after it. -/
theorem Inv.advance (h : Inv s) {pdu : Pdu α} {rest : List (Pdu α)} (hflight : s.flight = pdu :: rest)
    (hkind : pdu.kind ≠ .final) {delivered : List α}
    (hbase : (delivered ++ s.queue).Sublist s.pushed)
    (hdirect : s.mode = .accepting ∨ s.mode = .idle →
      (delivered ++ (payload (pdu.number + 1) s.sent ++ s.queue)).Sublist s.pushed)
    (hrequests : s.requests = [])
    (hresumed : ∀ later ∈ rest, later.kind = .response →
      (delivered ++ (payload (later.number + 1) s.sent ++ s.queue)).Sublist s.pushed) :
    Inv { s.take rest with expected := pdu.number + 1, delivered := delivered } := by
  have hlost := h.lose (hflight ▸ List.sublist_cons_self pdu rest : rest.Sublist s.flight)
  have hbelow := h.flight_below (hflight ▸ List.mem_cons_self : pdu ∈ s.flight)
  rw [Pdu.stop_of_ne hkind] at hbelow
  refine ⟨hbase, ?_, hresumed, hlost.single, hlost.quiet, ?_, h.sorted, h.below, hlost.flight, ?_,
    hbelow, h.kept⟩
  · rintro (hmode | hmode | hpending)
    · exact hdirect (.inl hmode)
    · exact hdirect (.inr hmode)
    · exact absurd hrequests hpending
  · intro last hlast
    have hnone : last ∈ s.requests := hlast
    rw [hrequests] at hnone
    cases hnone
  · intro later hlater
    have hbehind := h.behind hflight hlater
    rwa [Pdu.stop_of_ne hkind] at hbehind

theorem Inv.skip (h : Inv s) {pdu : Pdu α} {rest : List (Pdu α)} (hflight : s.flight = pdu :: rest)
    (hkind : pdu.kind = .data ∨ pdu.kind = .plain)
    (hnumber : pdu.number = s.expected ∨ s.mode = .idle) :
    Inv { s.take rest with expected := pdu.number + 1 } := by
  have hmem : pdu ∈ s.flight := hflight ▸ List.mem_cons_self
  have hahead := h.ahead pdu hmem
  have hfinal : pdu.kind ≠ .final := by rcases hkind with hk | hk <;> rw [hk] <;> decide
  have hrequests : s.requests = [] := by
    rcases hnumber with hexpected | hidle
    · rw [List.eq_nil_iff_forall_not_mem]
      intro last hlast
      have hfar := (h.frozen last hlast).2.2 pdu hmem
      omega
    · exact (h.quiet (.inr hidle)).1
  refine h.advance hflight hfinal h.base (fun hmode => ?_) hrequests fun later hlater => ?_
  · have hdirect := h.direct (hmode.imp_right .inl)
    have hfewer : (payload (pdu.number + 1) s.sent).Sublist (payload s.expected s.sent) :=
      payload_sublist (Nat.le_succ_of_le hahead)
    exact (List.Sublist.append_left (List.Sublist.append_right hfewer _) _).trans hdirect
  · exact h.resumed later (hflight ▸ List.mem_cons_of_mem pdu hlater)

/-- The messages of an expected PDU come first among what can still be delivered. -/
theorem Inv.payload_expected (h : Inv s) {pdu : Pdu α} (hflight : pdu ∈ s.flight)
    (hkind : pdu.kind = .data) :
    payload pdu.number s.sent = pdu.messages ++ payload (pdu.number + 1) s.sent := by
  obtain ⟨front, back, hsplit⟩ := List.append_of_mem (h.flight.subset hflight)
  have hsorted := h.sorted
  rw [hsplit] at hsorted
  obtain ⟨-, hback, hcross⟩ := List.pairwise_append.mp hsorted
  have hstop : pdu.stop = pdu.number + 1 := Pdu.stop_of_ne (by rw [hkind]; decide)
  have hfront : ∀ first, pdu.number ≤ first → payload first front = [] := by
    intro first hfirst
    refine payload_of_below fun before hbefore hdata => ?_
    have hle := hcross before hbefore pdu List.mem_cons_self
    rw [Pdu.stop_of_ne (by rw [hdata]; decide)] at hle
    omega
  have hbehind : ∀ after ∈ back, pdu.number + 1 ≤ after.number := by
    intro after hafter
    have hle := (List.pairwise_cons.mp hback).1 after hafter
    omega
  have hself : payload (pdu.number + 1) [pdu] = [] :=
    payload_of_below (by simp)
  rw [hsplit, ← List.singleton_append, payload_append, payload_append, payload_append,
    payload_append, hfront _ (Nat.le_refl _), hfront _ (Nat.le_succ _), hself,
    payload_singleton (.inl hkind) (Nat.le_refl _), payload_all hbehind,
    payload_all fun after hafter => Nat.le_of_succ_le (hbehind after hafter)]
  simp

theorem Inv.deliver (h : Inv s) {pdu : Pdu α} {rest : List (Pdu α)} (n : ℕ)
    (hflight : s.flight = pdu :: rest) (hkind : pdu.kind = .data) (hmode : s.mode = .accepting)
    (hnumber : pdu.number = s.expected) :
    Inv { s.take rest with
      expected := pdu.number + 1, delivered := s.delivered ++ pdu.messages.take n } := by
  have hmem : pdu ∈ s.flight := hflight ▸ List.mem_cons_self
  obtain ⟨hrequests, hnone⟩ := h.quiet (.inl hmode)
  have hdirect := h.direct (.inl hmode)
  rw [← hnumber, h.payload_expected hmem hkind] at hdirect
  have hfew : (s.delivered ++ pdu.messages.take n ++
      (payload (pdu.number + 1) s.sent ++ s.queue)).Sublist s.pushed := by
    refine List.Sublist.trans ?_ hdirect
    simp only [List.append_assoc]
    exact List.Sublist.append_left (List.Sublist.append_right (List.take_sublist _ _) _) _
  have hbase : (s.delivered ++ pdu.messages.take n ++ s.queue).Sublist s.pushed :=
    (List.Sublist.append_left (List.sublist_append_right _ _) _).trans hfew
  refine h.advance hflight (by rw [hkind]; decide) hbase (fun _ => hfew) hrequests ?_
  intro later hlater hresponse
  exact absurd hresponse (hnone later (hflight ▸ List.mem_cons_of_mem pdu hlater))

theorem Inv.ask (h : Inv s) {pdu : Pdu α} {rest : List (Pdu α)} {last : ℕ}
    (hflight : s.flight = pdu :: rest) (hkind : pdu.kind = .data) (hmode : s.mode = .accepting)
    (hnumber : pdu.number ≠ s.expected) (hlast : last + 1 = s.expected) :
    Inv { s.take rest with mode := .waiting, requests := s.requests ++ [last] } := by
  have hmem : pdu ∈ s.flight := hflight ▸ List.mem_cons_self
  have hlost := h.lose (hflight ▸ List.sublist_cons_self pdu rest : rest.Sublist s.flight)
  obtain ⟨hrequests, hnone⟩ := hlost.quiet (.inl hmode)
  have hahead := h.ahead pdu hmem
  have hbelow := h.flight_below hmem
  have hstop : pdu.stop = pdu.number + 1 := Pdu.stop_of_ne (by rw [hkind]; decide)
  have hpending : s.requests = [] := hrequests
  have hgap : s.expected < pdu.number := Nat.lt_of_le_of_ne hahead (Ne.symm hnumber)
  refine ⟨h.base, fun _ => h.direct (.inl hmode), hlost.resumed, ?_, ?_, ?_, h.sorted, h.below,
    hlost.flight, hlost.ahead, h.reached, h.kept⟩
  · have hcount : rest.filter (·.kind = .response) = [] := by
      rw [List.filter_eq_nil_iff]
      intro later hlater
      simpa using hnone later hlater
    simp [Direction.take, hpending, hcount]
  · rintro (haccepting | hidle)
    · cases haccepting
    · cases hidle
  · intro asked hasked
    rw [hpending, List.nil_append, List.mem_singleton] at hasked
    refine ⟨hasked ▸ hlast, ?_, fun later hlater => ?_⟩
    · simp only [Direction.take]
      omega
    · have hbehind := h.behind hflight hlater
      simp only [Direction.take]
      omega

theorem Inv.resume (h : Inv s) {pdu : Pdu α} {rest : List (Pdu α)}
    (hflight : s.flight = pdu :: rest) (hkind : pdu.kind = .response) :
    Inv { s.take rest with mode := .accepting, expected := pdu.number + 1 } := by
  have hmem : pdu ∈ s.flight := hflight ▸ List.mem_cons_self
  have hlost := h.lose (hflight ▸ List.sublist_cons_self pdu rest : rest.Sublist s.flight)
  have hbelow := h.flight_below hmem
  have hstop : pdu.stop = pdu.number + 1 := Pdu.stop_of_ne (by rw [hkind]; decide)
  have hsingle := h.single
  rw [hflight, List.filter_cons_of_pos (by simpa using hkind), List.length_cons] at hsingle
  have hrequests : s.requests = [] := List.length_eq_zero_iff.mp (by omega)
  have hnone : ∀ later ∈ rest, later.kind ≠ .response := by
    have hcount : (rest.filter (·.kind = .response)).length = 0 := by omega
    rw [List.length_eq_zero_iff, List.filter_eq_nil_iff] at hcount
    intro later hlater
    simpa using hcount later hlater
  refine ⟨h.base, fun _ => h.resumed pdu hmem hkind, hlost.resumed, hlost.single,
    fun _ => ⟨hrequests, hnone⟩, ?_, h.sorted, h.below, hlost.flight, ?_, ?_, h.kept⟩
  · intro last hlast
    have hpending : last ∈ s.requests := hlast
    rw [hrequests] at hpending
    cases hpending
  · intro later hlater
    have hbehind := h.behind hflight hlater
    simp only
    omega
  · simp only [Direction.take]
    omega

end Receiver

/-- Every move keeps the invariant. -/
theorem Inv.move {s t : Direction α} (h : Inv s) (hmove : Move s t) : Inv t := by
  cases hmove with
  | push message => exact h.push message
  | batch n kept hkept => exact h.batch n hkept
  | control kind hkind =>
    have hresponse : kind ≠ .response := by rcases hkind with rfl | rfl <;> decide
    exact h.emit hresponse (.inr rfl) rfl
  | confirm n => exact h.setKept ((List.drop_sublist n s.kept).trans h.kept)
  | respond last hrequest hkept => exact h.respond hrequest hkept
  | lose flight hflight => exact h.lose hflight
  | loseRequest requests hrequests => exact h.loseRequest hrequests
  | stop mode hmode => exact h.stop hmode
  | establish hmode => exact h.establish hmode
  | skip pdu rest hflight hkind hnumber => exact h.skip hflight hkind hnumber
  | deliver pdu rest n hflight hkind hmode hnumber =>
    exact h.deliver n hflight hkind hmode hnumber
  | ask pdu rest last hflight hkind hmode hnumber hlast =>
    exact h.ask hflight hkind hmode hnumber hlast
  | resume pdu rest hflight hkind => exact h.resume hflight hkind

/-- Any number of moves. -/
abbrev Moves : Direction α → Direction α → Prop := Relation.ReflTransGen Move

theorem Inv.moves {s t : Direction α} (h : Inv s) (hmoves : Moves s t) : Inv t := by
  induction hmoves with
  | refl => exact h
  | tail _ hmove ih => exact ih.move hmove

/-- A direction in which nothing has happened yet. -/
def Direction.start (pushed : List α) (next : ℕ) : Direction α where
  pushed := pushed
  queue := []
  sent := []
  flight := []
  kept := []
  next := next
  mode := .idle
  expected := 0
  delivered := []
  requests := []

theorem Inv.start (pushed : List α) (next : ℕ) : Inv (Direction.start pushed next) where
  base := List.nil_sublist _
  direct _ := List.nil_sublist _
  resumed := by simp [Direction.start]
  single := by simp [Direction.start]
  quiet := by simp [Direction.start]
  frozen := by simp [Direction.start]
  sorted := List.Pairwise.nil
  below := by simp [Direction.start]
  flight := List.nil_sublist _
  ahead := by simp [Direction.start]
  reached := Nat.zero_le _
  kept := List.nil_sublist _

/-- The numbers of the batches that are kept rise. -/
theorem Inv.kept_pairwise {s : Direction α} (h : Inv s) : s.kept.Pairwise fun a b => a.1 < b.1 := by
  have hbatches : (batches s.sent).Pairwise fun a b => a.1 < b.1 := by
    rw [batches, List.pairwise_map]
    refine (h.sorted.filter _).imp_of_mem ?_
    intro p q hp _ hle
    have hkind : p.kind = .data := by simpa using (List.mem_filter.mp hp).2
    rw [Pdu.stop_of_ne (by rw [hkind]; decide)] at hle
    exact hle
  exact hbatches.sublist h.kept

theorem Inv.kept_below {s : Direction α} (h : Inv s) {batch : ℕ × List α} (hbatch : batch ∈ s.kept) :
    batch.1 < s.next := by
  obtain ⟨pdu, hpdu, hkind, rfl⟩ := mem_batches (h.kept.subset hbatch)
  have hbelow := h.below pdu hpdu
  rw [Pdu.stop_of_ne (by rw [hkind]; decide)] at hbelow
  exact hbelow

end LibRasta.Lib.Renumbering
