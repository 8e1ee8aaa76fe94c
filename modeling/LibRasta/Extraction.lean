/-
Module: LibRasta/Extraction.lean
source: src/c/rastafactory.c
digest: The two passes of extractMessageData with the indices they read, the payloads on which they stay inside the data array, and the round trips between message lists and payloads.
-/

import LibRasta.Factory

set_option autoImplicit false
set_option relaxedAutoImplicit false

namespace LibRasta.Factory

open LibRasta.Lib
open LibRasta.Util

section Passes

variable (P : Platform)

/-- The counting loop of `extractMessageData` at `currentLength`: the number of records and
the indices read, or `none` if `rounds` do not suffice. -/
def countLoop (data : Bytes) : ℕ → ℕ → Option (ℕ × List ℕ)
  | 0, currentLength => if currentLength < data.length then none else some (0, [])
  | rounds + 1, currentLength =>
    if currentLength < data.length then
      let length := (leShortToHost P data currentLength).toNat
      (countLoop data rounds (currentLength + length + 2)).map fun rest =>
        (rest.1 + 1, currentLength :: (currentLength + 1) :: rest.2)
    else some (0, [])

/-- The copying loop of `extractMessageData` with `count` records to go: the messages and the
indices read. -/
def copyLoop (data : Bytes) : ℕ → ℕ → List Bytes × List ℕ
  | 0, _ => ([], [])
  | count + 1, currentLength =>
    let length := (leShortToHost P data currentLength).toNat
    let rest := copyLoop data count (currentLength + length + 2)
    (readBytes P data (2 + currentLength) length :: rest.1,
      currentLength :: (currentLength + 1) ::
        ((List.range length).map fun j => 2 + currentLength + j) ++ rest.2)

/-- What a call of `extractMessageData` does: the messages it returns, and the indices of the
data array it reads in each pass. -/
structure Extraction where
  messages : List Bytes
  counted : List ℕ
  copied : List ℕ
deriving DecidableEq, Repr

/-- `extractMessageData`, pass after pass. A record has at least two bytes, so the counting
loop ends within as many rounds as there are data bytes. -/
def extractPasses (packet : RastaPacket) : Option Extraction :=
  (countLoop P packet.data packet.data.length 0).map fun counting =>
    let copying := copyLoop P packet.data counting.1 0
    { messages := copying.1, counted := counting.2, copied := copying.2 }

/-- Every read of both passes is inside the data array, and the messages with their length
fields have no more bytes than it. -/
structure Extraction.Inside (extraction : Extraction) (data : Bytes) : Prop where
  counted : ∀ i ∈ extraction.counted, i < data.length
  copied : ∀ i ∈ extraction.copied, i < data.length
  total : (extraction.messages.map fun message => message.length + 2).sum ≤ data.length

/-- The indices of the data array the fill loop of `createDataMessage` writes, from
`messageLength` on. -/
def fillWrites : ℕ → List Bytes → List ℕ
  | _, [] => []
  | messageLength, message :: rest =>
    messageLength :: (messageLength + 1) ::
      ((List.range message.length).map fun j => 2 + messageLength + j) ++
        fillWrites (messageLength + message.length + 2) rest

/-- The bytes are a sequence of complete records, each a 16 bit length field and as many
bytes as it says. -/
def Framed (data : Bytes) : Prop :=
  ∃ messages : List Bytes, (∀ message ∈ messages, message.length < 2 ^ 16) ∧
    messageStream messages = data

end Passes

section Records

variable (P : Platform)

theorem framed_nil : Framed [] := by
  refine ⟨[], ?_, rfl⟩
  intro message hmem
  exact absurd hmem List.not_mem_nil

theorem messageStream_cons (message : Bytes) (rest : List Bytes) :
    messageStream (message :: rest) =
      hostShortToLe (UInt16.ofNat message.length) ++ (message ++ messageStream rest) := by
  simp [messageStream]

theorem length_messageStream_cons (message : Bytes) (rest : List Bytes) :
    (messageStream (message :: rest)).length =
      message.length + 2 + (messageStream rest).length := by
  rw [messageStream_cons]
  simp only [List.length_append, hostShortToLe, length_le16]
  omega

theorem sum_record_lengths (messages : List Bytes) :
    (messages.map fun message => message.length + 2).sum = (messageStream messages).length := by
  induction messages with
  | nil => rfl
  | cons message rest ih =>
    rw [List.map_cons, List.sum_cons, ih, length_messageStream_cons]

theorem fillWrites_lt (messages : List Bytes) (offset : ℕ) :
    ∀ i ∈ fillWrites offset messages, i < offset + (messageStream messages).length := by
  induction messages generalizing offset with
  | nil => exact fun _ hi => absurd hi List.not_mem_nil
  | cons message rest ih =>
    have hlen := length_messageStream_cons message rest
    intro i hi
    simp only [fillWrites, List.mem_append, List.mem_cons, List.mem_map, List.mem_range] at hi
    rcases hi with (rfl | rfl | ⟨j, hj, rfl⟩) | hi
    · omega
    · omega
    · omega
    · have hrest := ih _ i hi
      omega

/-- The two bytes of the length field at an offset inside the array. -/
theorem drop_eq_lengthField {data : Bytes} {offset : ℕ} (h : offset + 2 ≤ data.length) :
    data.drop offset =
      hostShortToLe (leShortToHost P data offset) ++ data.drop (offset + 2) := by
  have hfirst : offset < data.length := by omega
  have hsecond : offset + 1 < data.length := by omega
  have hfield : hostShortToLe (leShortToHost P data offset) =
      [byteAt P data offset, byteAt P data (offset + 1)] :=
    le16_ofLe16 _ _
  have hbytes : byteAt P data offset = data[offset] ∧
      byteAt P data (offset + 1) = data[offset + 1] := by
    constructor
    · simp [byteAt, hfirst]
    · simp [byteAt, hsecond]
  rw [hfield, hbytes.1, hbytes.2, List.drop_eq_getElem_cons hfirst,
    List.drop_eq_getElem_cons hsecond]
  rfl

/-- The length field of the first record, read where the record starts. -/
theorem leShortToHost_of_drop {data message : Bytes} {rest : List Bytes} {offset : ℕ}
    (hmessage : message.length < 2 ^ 16)
    (hdata : messageStream (message :: rest) = data.drop offset) :
    (leShortToHost P data offset).toNat = message.length := by
  have hlen : message.length + 2 + (messageStream rest).length = data.length - offset := by
    rw [← length_messageStream_cons, hdata, List.length_drop]
  have hsplit : data = data.take offset ++ (hostShortToLe (UInt16.ofNat message.length) ++
      (message ++ messageStream rest)) := by
    rw [← messageStream_cons, hdata, List.take_append_drop]
  have htake : (data.take offset).length = offset := by
    rw [List.length_take]
    omega
  have hfield := leShortToHost_append P (data.take offset) (message ++ messageStream rest)
    (UInt16.ofNat message.length)
  rw [← hsplit, htake] at hfield
  rw [hfield, UInt16.toNat_ofNat', Nat.mod_eq_of_lt hmessage]

/-- From an offset inside the array on there are complete records exactly when the record
there ends inside the array and complete records follow. -/
theorem framed_drop_iff {data : Bytes} {offset : ℕ} (h : offset < data.length) :
    Framed (data.drop offset) ↔
      offset + (leShortToHost P data offset).toNat + 2 ≤ data.length ∧
        Framed (data.drop (offset + (leShortToHost P data offset).toNat + 2)) := by
  constructor
  · rintro ⟨messages, hfit, hdata⟩
    cases messages with
    | nil =>
      have hlen := congrArg List.length hdata
      simp only [messageStream, List.flatMap_nil, List.length_nil, List.length_drop] at hlen
      omega
    | cons message rest =>
      have hfield := leShortToHost_of_drop P (hfit message List.mem_cons_self) hdata
      have hlen := congrArg List.length hdata
      rw [length_messageStream_cons, List.length_drop] at hlen
      rw [hfield]
      refine ⟨by omega, rest, ?_, ?_⟩
      · intro other hmem
        exact hfit other (List.mem_cons_of_mem _ hmem)
      · have hdrop := congrArg (List.drop (message.length + 2)) hdata
        rw [List.drop_drop, messageStream_cons, ← List.append_assoc] at hdrop
        rw [List.drop_left' (by simp only [List.length_append, hostShortToLe, length_le16]; omega)]
          at hdrop
        rw [hdrop]
        congr 1
  · rintro ⟨hle, messages, hfit, hdata⟩
    have hfield : data.drop offset =
        hostShortToLe (leShortToHost P data offset) ++ data.drop (offset + 2) :=
      drop_eq_lengthField P (by omega)
    generalize hword : leShortToHost P data offset = word at *
    have hmessage : ((data.drop (offset + 2)).take word.toNat).length = word.toNat := by
      rw [List.length_take, List.length_drop]
      omega
    refine ⟨(data.drop (offset + 2)).take word.toNat :: messages, ?_, ?_⟩
    · intro message hmem
      rcases List.mem_cons.mp hmem with rfl | hmem
      · rw [hmessage]
        exact word.toNat_lt
      · exact hfit message hmem
    · have hrest : data.drop (offset + word.toNat + 2) =
          (data.drop (offset + 2)).drop word.toNat := by
        rw [List.drop_drop]
        congr 1
        omega
      rw [messageStream_cons, hmessage, UInt16.ofNat_toNat, hdata, hrest,
        List.take_append_drop, ← hfield]

end Records

section Safety

variable (P : Platform)

/-- What one record is read at: its length field, and its bytes in the copying pass. -/
theorem record_reads_iff {size offset length : ℕ} (h : offset < size) :
    (offset + 1 < size ∧ ∀ j ∈ List.range length, 2 + offset + j < size) ↔
      offset + length + 2 ≤ size := by
  constructor
  · rintro ⟨hfield, hbytes⟩
    cases length with
    | zero => omega
    | succ last =>
      have hlast := hbytes last (List.mem_range.mpr (Nat.lt_succ_self last))
      omega
  · intro hle
    refine ⟨by omega, ?_⟩
    intro j hj
    have hlt := List.mem_range.mp hj
    omega

/-- Both passes from an offset on. The count of the first makes the second return what the
single loop does, and the reads of both stay inside exactly on complete records. -/
theorem passes_at (data : Bytes) (rounds offset : ℕ) (h : data.length ≤ offset + rounds) :
    ∃ counted copied,
      countLoop P data rounds offset =
        some ((extractLoop P data rounds offset).length, counted) ∧
      copyLoop P data (extractLoop P data rounds offset).length offset =
        (extractLoop P data rounds offset, copied) ∧
      (offset ≤ data.length →
        (((∀ i ∈ counted, i < data.length) ∧ ∀ i ∈ copied, i < data.length) ↔
          Framed (data.drop offset))) := by
  induction rounds generalizing offset with
  | zero =>
    have hend : ¬ offset < data.length := by omega
    refine ⟨[], [], ?_, rfl, ?_⟩
    · rw [countLoop, if_neg hend]
      rfl
    · intro _
      have hnil : data.drop offset = [] := List.drop_eq_nil_of_le (by omega)
      simp [hnil, framed_nil]
  | succ rounds ih =>
    by_cases hin : offset < data.length
    · obtain ⟨counted, copied, hcount, hcopy, hframed⟩ :=
        ih (offset + (leShortToHost P data offset).toNat + 2) (by omega)
      have hloop : extractLoop P data (rounds + 1) offset =
          readBytes P data (2 + offset) (leShortToHost P data offset).toNat ::
            extractLoop P data rounds (offset + (leShortToHost P data offset).toNat + 2) := by
        rw [extractLoop, if_pos hin]
      refine ⟨offset :: (offset + 1) :: counted, offset :: (offset + 1) ::
        ((List.range (leShortToHost P data offset).toNat).map fun j => 2 + offset + j) ++ copied,
        ?_, ?_, ?_⟩
      · simp only [countLoop, if_pos hin, hcount, hloop, Option.map_some, List.length_cons]
      · simp only [hloop, List.length_cons, copyLoop, hcopy]
      · intro _
        have hrecord := @record_reads_iff data.length offset (leShortToHost P data offset).toNat hin
        rw [framed_drop_iff P hin]
        simp only [List.mem_cons, List.mem_append, List.mem_map, or_imp,
          forall_and, forall_exists_index, and_imp, forall_apply_eq_imp_iff₂, forall_eq, List.cons_append]
        constructor
        · rintro ⟨⟨_, hnext, hcounted⟩, _, _, hbytes, hcopied⟩
          have hle := hrecord.mp ⟨hnext, hbytes⟩
          exact ⟨hle, (hframed hle).mp ⟨hcounted, hcopied⟩⟩
        · rintro ⟨hle, hrest⟩
          obtain ⟨hcounted, hcopied⟩ := (hframed hle).mpr hrest
          obtain ⟨hnext, hbytes⟩ := hrecord.mpr hle
          exact ⟨⟨hin, hnext, hcounted⟩, hin, hnext, hbytes, hcopied⟩
    · have hloop : extractLoop P data (rounds + 1) offset = [] := by
        rw [extractLoop, if_neg hin]
      refine ⟨[], [], ?_, ?_, ?_⟩
      · rw [countLoop, if_neg hin, hloop]
        rfl
      · rw [hloop]
        rfl
      · intro _
        have hnil : data.drop offset = [] := List.drop_eq_nil_of_le (by omega)
        simp [hnil, framed_nil]

/-- `extractMessageData` returns on every payload, and it stays inside the data array exactly
on sequences of complete records. -/
theorem extractPasses_inside_iff (packet : RastaPacket) :
    ∃ extraction, extractPasses P packet = some extraction ∧
      extraction.messages = extractMessageData P packet ∧
      (extraction.Inside packet.data ↔ Framed packet.data) := by
  obtain ⟨counted, copied, hcount, hcopy, hframed⟩ :=
    passes_at P packet.data packet.data.length 0 (by omega)
  have hreads := hframed (Nat.zero_le _)
  rw [List.drop_zero] at hreads
  refine ⟨⟨extractMessageData P packet, counted, copied⟩, ?_, rfl, ?_⟩
  · rw [extractPasses, hcount, Option.map_some, hcopy]
    rfl
  · constructor
    · intro hinside
      exact hreads.mp ⟨hinside.counted, hinside.copied⟩
    · intro hdata
      obtain ⟨hcounted, hcopied⟩ := hreads.mpr hdata
      refine ⟨hcounted, hcopied, ?_⟩
      obtain ⟨messages, hfit, hstream⟩ := hdata
      have hextract : extractMessageData P packet = messages := by
        have hloop := extractLoop_messageStream P messages hfit [] packet.data.length (by
          rw [← hstream, length_messageStream]
          omega)
        rwa [List.nil_append, hstream] at hloop
      show ((extractMessageData P packet).map fun message => message.length + 2).sum ≤ _
      rw [hextract, sum_record_lengths, hstream]

/-- A Data packet as a peer can send it: 28 header bytes, no safety code, and a record whose
length field says 1 while the packet ends after it. -/
def truncatedRecord : Bytes :=
  [30, 0, 0x60, 0x18] ++ List.replicate 24 0 ++ [1, 0]

theorem truncatedRecord_read_outside :
    let packet := (bytesToRastaPacket referencePlatform .none truncatedRecord
      ⟨.none, .md4, []⟩ zeroPacket).1
    packet.type = .data ∧ packet.checksumCorrect = true ∧ packet.data = [1, 0] ∧
      extractPasses referencePlatform packet = some ⟨[[0]], [0, 1], [0, 1, 2]⟩ ∧
      ¬ (⟨[[0]], [0, 1], [0, 1, 2]⟩ : Extraction).Inside packet.data := by
  refine ⟨by decide, by decide, by decide, by decide, ?_⟩
  intro hinside
  exact absurd (hinside.copied 2 (by decide)) (by decide)

end Safety

section RoundTrip

variable (P : Platform)

theorem messagesFit_iff (ctx : RastaHashingContext) (messages : List Bytes) :
    MessagesFit ctx messages ↔
      (messages.map fun message => message.length + 2).sum ≤
        65535 - 28 - 8 * ctx.hashLength.toNat := by
  have hcode := ctx.checksumLen_le
  rw [sum_record_lengths]
  unfold MessagesFit
  unfold RastaHashingContext.checksumLen at hcode ⊢
  omega

/-- Messages that fit into one packet come back from it, and complete records that fit come
back from the messages in them. -/
theorem messageData_roundTrip (header : PacketHeader) (ctx : RastaHashingContext) :
    (∀ messages : List Bytes,
      (messages.map fun message => message.length + 2).sum ≤
        65535 - 28 - 8 * ctx.hashLength.toNat →
      extractMessageData P (createDataMessage P header messages ctx) = messages ∧
      extractMessageData P (createRetransmittedDataMessage P header messages ctx) =
        messages) ∧
    (∀ packet : RastaPacket, Framed packet.data →
      packet.data.length ≤ 65535 - 28 - 8 * ctx.hashLength.toNat →
      (createDataMessage P header (extractMessageData P packet) ctx).data = packet.data) := by
  constructor
  · intro messages hle
    have hfit : MessagesFit ctx messages := (messagesFit_iff ctx messages).mpr hle
    have hdata := @createDataMessage_data P header messages ctx hfit
    exact ⟨extractMessageData_of_data P hfit hdata, extractMessageData_of_data P hfit hdata⟩
  · rintro packet ⟨messages, _, hstream⟩ hle
    have hfit : MessagesFit ctx messages := by
      rw [messagesFit_iff, sum_record_lengths, hstream]
      exact hle
    rw [extractMessageData_of_data P hfit hstream.symm, createDataMessage_data P hfit, hstream]

theorem messageData_roundTrip_mixed :
    let header : PacketHeader := ⟨97, 96, 5, 4, 0, 0⟩
    let ctx : RastaHashingContext := ⟨.b8, .md4, []⟩
    extractMessageData referencePlatform
      (createDataMessage referencePlatform header [[1, 2, 3], [], [7]] ctx) =
        [[1, 2, 3], [], [7]] ∧
    (createDataMessage referencePlatform header (extractMessageData referencePlatform
      { zeroPacket with data := [0, 0, 2, 0, 9, 8] }) ctx).data = [0, 0, 2, 0, 9, 8] := by
  refine ⟨((messageData_roundTrip referencePlatform _ _).1 _ (by decide)).1, ?_⟩
  exact (messageData_roundTrip referencePlatform _ _).2 _ ⟨[[], [9, 8]], by decide, by decide⟩
    (by decide)

end RoundTrip

end LibRasta.Factory
