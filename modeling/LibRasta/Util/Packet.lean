/-
Module: LibRasta/Util/Packet.lean
source: src/c/util/rastamodule.h, src/c/util/rastahashing.h, src/c/util/rastacrc.h, src/include/rasta/config.h
digest: Data types of both packet layers, the platform they are processed on, and reads and writes of raw memory.
-/

import LibRasta.Lib.LittleEndian
import Mathlib.Data.List.Sort

set_option autoImplicit false
set_option relaxedAutoImplicit false

namespace LibRasta.Util

open LibRasta.Lib (ofLe16 ofLe32 le16 le32)

/-- A byte array whose length is its allocated length. -/
abbrev Bytes := List UInt8

/-- `rasta_error_type`. -/
inductive RastaErrorType where
  | none
  | wrongPackageFormat
  | packageLengthInvalid
deriving DecidableEq, Repr

/-- The codes of `rasta_conn_type`, those of the key exchange included. -/
def knownTypeCodes : List UInt16 :=
  [6200, 6201, 6212, 6213, 6216, 6220, 6240, 6241, 6250, 6251, 6252]

/-- `rasta_conn_type`; a received type field may also hold a code that names no type. -/
inductive RastaConnType where
  | connReq
  | connResp
  | retrReq
  | retrResp
  | discReq
  | hb
  | data
  | retrData
  | kexRequest
  | kexResponse
  | kexAuthentication
  | other (code : UInt16) (unknown : code ∉ knownTypeCodes)
deriving DecidableEq, Repr

namespace RastaConnType

/-- The 16 bit code a type has on the wire. -/
def code : RastaConnType → UInt16
  | connReq => 6200
  | connResp => 6201
  | retrReq => 6212
  | retrResp => 6213
  | discReq => 6216
  | hb => 6220
  | data => 6240
  | retrData => 6241
  | kexRequest => 6250
  | kexResponse => 6251
  | kexAuthentication => 6252
  | other code _ => code

/-- The cast of a received 16 bit value to `rasta_conn_type`. -/
def ofCode (c : UInt16) : RastaConnType :=
  if unknown : c ∉ knownTypeCodes then other c unknown
  else if c = 6200 then connReq
  else if c = 6201 then connResp
  else if c = 6212 then retrReq
  else if c = 6213 then retrResp
  else if c = 6216 then discReq
  else if c = 6220 then hb
  else if c = 6240 then data
  else if c = 6241 then retrData
  else if c = 6250 then kexRequest
  else if c = 6251 then kexResponse
  else kexAuthentication

theorem code_ofCode (c : UInt16) : (ofCode c).code = c := by
  unfold ofCode
  split
  · rfl
  · rename_i hknown
    simp only [knownTypeCodes, List.mem_cons, List.not_mem_nil, or_false, not_not] at hknown
    rcases hknown with h | h | h | h | h | h | h | h | h | h | h <;> subst h <;> decide

theorem ofCode_code (t : RastaConnType) : ofCode t.code = t := by
  cases t with
  | other c unknown => simp [code, ofCode, unknown]
  | _ => decide

end RastaConnType

/-- `rasta_checksum_type`, the configured length of the safety code. -/
inductive RastaChecksumType where
  | none
  | b8
  | b16
deriving DecidableEq, Repr

/-- The value of `hash_length`. -/
def RastaChecksumType.toNat : RastaChecksumType → ℕ
  | none => 0
  | b8 => 1
  | b16 => 2

/-- `rasta_hash_algorithm`. -/
inductive RastaHashAlgorithm where
  | md4
  | blake2b
  | siphash24
deriving DecidableEq, Repr

/-- `rasta_hashing_context_t`. -/
structure RastaHashingContext where
  hashLength : RastaChecksumType
  algorithm : RastaHashAlgorithm
  key : Bytes
deriving DecidableEq, Repr

/-- The number of safety code bytes, `hash_length * 8`. -/
def RastaHashingContext.checksumLen (ctx : RastaHashingContext) : ℕ :=
  ctx.hashLength.toNat * 8

theorem RastaHashingContext.checksumLen_le (ctx : RastaHashingContext) :
    ctx.checksumLen ≤ 16 := by
  cases h : ctx.hashLength <;> simp [checksumLen, h, RastaChecksumType.toNat]

/-- `struct crc_options`. -/
structure CrcOptions where
  width : UInt16
  polynom : UInt64
  initial : UInt64
  initialOptimized : UInt64
  refin : Bool
  refout : Bool
  finalXor : UInt64
  crcMask : UInt64
  crcHighBit : UInt64
  isTableGenerated : Bool
  table : List UInt64
deriving DecidableEq, Repr

/-- The number of checksum bytes, `width / 8`. -/
def CrcOptions.crcLen (options : CrcOptions) : ℕ :=
  options.width.toNat / 8

/-- `struct RastaPacket`, a PDU of the safety and retransmission layer. -/
structure RastaPacket where
  length : UInt16
  type : RastaConnType
  receiverId : UInt32
  senderId : UInt32
  sequenceNumber : UInt32
  confirmedSequenceNumber : UInt32
  timestamp : UInt32
  confirmedTimestamp : UInt32
  data : Bytes
  checksum : Bytes
  checksumCorrect : Bool
deriving DecidableEq, Repr

/-- `struct RastaRedundancyPacket`, a PDU of the redundancy layer. -/
structure RastaRedundancyPacket where
  length : UInt16
  reserve : UInt16
  sequenceNumber : UInt32
  data : RastaPacket
  checksumCorrect : Bool
  checksumType : CrcOptions
deriving DecidableEq, Repr

/-- `struct rasta_redundancy_packet_wrapper`, an element of a defer queue. -/
structure RastaRedundancyPacketWrapper where
  packet : RastaRedundancyPacket
  receivedTimestamp : UInt64
deriving DecidableEq, Repr

/-- A comparison function for `qsort` is consistent when it orders like a total preorder. -/
structure ConsistentComparison {α : Type} (compare : α → α → Int) : Prop where
  antisymm_sign : ∀ a b, compare a b ≤ 0 ↔ 0 ≤ compare b a
  trans_le : ∀ a b c, compare a b ≤ 0 → compare b c ≤ 0 → compare a c ≤ 0

/-- The sign of `strncmp` on two character arrays, as the C standard defines it: characters
compare as unsigned bytes, and a null character ends the comparison. -/
def strncmpSign : ℕ → Bytes → Bytes → Int
  | 0, _, _ => 0
  | n + 1, a, b =>
    let x := a.headD 0
    let y := b.headD 0
    if x < y then -1
    else if y < x then 1
    else if x = 0 then 0
    else strncmpSign n a.tail b.tail

/-- The functions of libopaque the key exchange calls, as arbitrary functions of their inputs
and of the number of the call. A first component other than 0 reports failure. -/
structure LibOpaque where
  /-- `opaque_Register`: password, server id, client id. -/
  register : ℕ → Bytes → Bytes → Bytes → Int × Bytes
  /-- `opaque_CreateCredentialRequest`: the secret and the public part. -/
  createCredentialRequest : ℕ → Bytes → Int × Bytes × Bytes
  /-- `opaque_CreateCredentialResponse`: the response, the session key and the expected
  authentication, from the public part, the user record, both ids and the context. -/
  createCredentialResponse : ℕ → Bytes → Bytes → Bytes → Bytes → Bytes → Int × Bytes × Bytes × Bytes
  /-- `opaque_RecoverCredentials`: the session key and the authentication, from the response,
  the secret, the context and both ids. -/
  recoverCredentials : ℕ → Bytes → Bytes → Bytes → Bytes → Bytes → Int × Bytes × Bytes
  /-- `opaque_UserAuth`. -/
  userAuth : ℕ → Bytes → Bytes → Int
  /-- `OPAQUE_USER_SESSION_PUBLIC_LEN`. -/
  userSessionPublicLen : UInt16
  /-- `OPAQUE_SERVER_SESSION_LEN`. -/
  serverSessionLen : UInt16
  /-- `crypto_auth_hmacsha512_BYTES`. -/
  authLen : UInt16
  /-- The three lengths are constants of at most a few hundred bytes. -/
  lens_le : userSessionPublicLen.toNat ≤ 1024 ∧ serverSessionLen.toNat ≤ 1024 ∧
    authLen.toNat ≤ 1024

/-- What the library is linked against and what the C abstract machine leaves open:
the safety code function, the sort and the string comparison of the C library, the clock
resolution, the key exchange, and the contents of memory that was never written. -/
structure Platform where
  /-- `rasta_calculate_hash`; the digest buffer of every caller has 16 bytes. -/
  calculateHash : RastaHashingContext → Bytes → Bytes
  length_calculateHash : ∀ ctx data, (calculateHash ctx data).length = 16
  /-- The value read at an index past the end of an array. -/
  beyond : Bytes → ℕ → UInt8
  /-- The contents of a local `struct RastaPacket` before its first assignment. -/
  uninitPacket : RastaPacket
  /-- The contents of the local packet of `receive_packet` before decoding. -/
  uninitRedundancyPacket : Bytes → RastaRedundancyPacket
  /-- `qsort` on the elements of a defer queue. -/
  qsort : (RastaRedundancyPacketWrapper → RastaRedundancyPacketWrapper → Int) →
    List RastaRedundancyPacketWrapper → List RastaRedundancyPacketWrapper
  qsort_perm : ∀ compare elements, (qsort compare elements).Perm elements
  qsort_sorted : ∀ compare elements, ConsistentComparison compare →
    (qsort compare elements).Pairwise fun a b => compare a b ≤ 0
  /-- `strncmp(a, b, n)`; only the sign of the result is fixed. -/
  strncmp : Bytes → Bytes → ℕ → Int
  strncmp_sign : ∀ a b n, (strncmp a b n).sign = strncmpSign n a b
  /-- `sysconf(_SC_CLK_TCK)`. -/
  clkTck : ℕ
  /-- Whether the library was built with `ENABLE_OPAQUE`. -/
  enableOpaque : Bool
  libOpaque : LibOpaque

/-- A packet with every field zero. -/
def zeroPacket : RastaPacket where
  length := 0
  type := RastaConnType.ofCode 0
  receiverId := 0
  senderId := 0
  sequenceNumber := 0
  confirmedSequenceNumber := 0
  timestamp := 0
  confirmedTimestamp := 0
  data := []
  checksum := []
  checksumCorrect := false

/-- A redundancy packet with every field zero. -/
def zeroRedundancyPacket : RastaRedundancyPacket where
  length := 0
  reserve := 0
  sequenceNumber := 0
  data := zeroPacket
  checksumCorrect := false
  checksumType :=
    { width := 0, polynom := 0, initial := 0, initialOptimized := 0, refin := false,
      refout := false, finalXor := 0, crcMask := 0, crcHighBit := 0,
      isTableGenerated := false, table := [] }

/-- A small digest: 16 weighted sums of the key and the data. -/
def sumDigest (ctx : RastaHashingContext) (data : Bytes) : Bytes :=
  (List.range 16).map fun i =>
    (ctx.key ++ data).foldl (fun acc byte => acc * 31 + byte + UInt8.ofNat i) 7

/-- A platform on which everything can be evaluated: memory is zero where it was never
written, sorting is insertion sort, and there is no key exchange. -/
def referencePlatform : Platform where
  calculateHash := sumDigest
  length_calculateHash := by
    intro ctx data
    simp [sumDigest]
  beyond := fun _ _ => 0
  uninitPacket := zeroPacket
  uninitRedundancyPacket := fun _ => zeroRedundancyPacket
  qsort := fun compare elements => elements.insertionSort fun a b => compare a b ≤ 0
  qsort_perm := fun _ _ => List.perm_insertionSort _ _
  qsort_sorted := by
    intro compare elements h
    have htotal : ∀ a b, compare a b ≤ 0 ∨ compare b a ≤ 0 := by
      intro a b
      have hsign := h.antisymm_sign a b
      omega
    have : Std.Total fun a b => compare a b ≤ 0 := ⟨htotal⟩
    have : IsTrans _ fun a b => compare a b ≤ 0 := ⟨h.trans_le⟩
    exact List.pairwise_insertionSort _ _
  strncmp := fun a b n => strncmpSign n a b
  strncmp_sign := by
    intro a b n
    induction n generalizing a b with
    | zero => rfl
    | succ n ih =>
      simp only [strncmpSign]
      split
      · rfl
      · split
        · rfl
        · split
          · rfl
          · exact ih _ _
  clkTck := 100
  enableOpaque := false
  libOpaque :=
    { register := fun _ _ _ _ => (1, [])
      createCredentialRequest := fun _ _ => (1, [], [])
      createCredentialResponse := fun _ _ _ _ _ _ => (1, [], [], [])
      recoverCredentials := fun _ _ _ _ _ _ => (1, [], [])
      userAuth := fun _ _ _ => 1
      userSessionPublicLen := 0
      serverSessionLen := 0
      authLen := 0
      lens_le := by decide }

section Memory

variable (P : Platform)

/-- `mem[i]`. -/
def byteAt (mem : Bytes) (i : ℕ) : UInt8 :=
  mem.getD i (P.beyond mem i)

/-- The `n` bytes of `mem` from `offset` on, as `memcpy` and the copy loops read them. -/
def readBytes (mem : Bytes) (offset n : ℕ) : Bytes :=
  (List.range n).map fun i => byteAt P mem (offset + i)

/-- `leShortToHost(&mem[offset])` on a little-endian host. -/
def leShortToHost (mem : Bytes) (offset : ℕ) : UInt16 :=
  ofLe16 (byteAt P mem offset) (byteAt P mem (offset + 1))

/-- `leLongToHost(&mem[offset])` on a little-endian host. -/
def leLongToHost (mem : Bytes) (offset : ℕ) : UInt32 :=
  ofLe32 (byteAt P mem offset) (byteAt P mem (offset + 1)) (byteAt P mem (offset + 2))
    (byteAt P mem (offset + 3))

end Memory

/-- `hostShortTole`. -/
def hostShortToLe (v : UInt16) : Bytes := le16 v

/-- `hostLongToLe`. -/
def hostLongToLe (v : UInt32) : Bytes := le32 v

/-- The array `mem` after `bytes` were written from `offset` on; what would land past the
end of the array is not part of it. -/
def store (mem : Bytes) (offset : ℕ) (bytes : Bytes) : Bytes :=
  mem.take offset ++ bytes.take (mem.length - offset) ++ mem.drop (offset + bytes.length)

/-- `allocateRastaByteArray`: a zeroed array. -/
def allocateRastaByteArray (length : ℕ) : Bytes := List.replicate length 0

section MemoryLemmas

variable (P : Platform)

@[simp]
theorem length_readBytes (mem : Bytes) (offset n : ℕ) :
    (readBytes P mem offset n).length = n := by
  simp [readBytes]

theorem readBytes_eq_take_drop (mem : Bytes) (offset n : ℕ) (h : offset + n ≤ mem.length) :
    readBytes P mem offset n = (mem.drop offset).take n := by
  apply List.ext_getElem
  · simp only [length_readBytes, List.length_take, List.length_drop]
    omega
  · intro i hleft hright
    have hi : i < n := by simpa using hleft
    have hmem : offset + i < mem.length := by omega
    simp [readBytes, byteAt, List.getElem_take, List.getElem_drop, hmem]

theorem readBytes_all (mem : Bytes) : readBytes P mem 0 mem.length = mem := by
  rw [readBytes_eq_take_drop P mem 0 mem.length (by omega)]
  simp

theorem readBytes_append_middle (front middle back : Bytes) :
    readBytes P (front ++ (middle ++ back)) front.length middle.length = middle := by
  rw [readBytes_eq_take_drop]
  · rw [List.drop_left, List.take_left]
  · simp

theorem readBytes_append_front (front back : Bytes) :
    readBytes P (front ++ back) 0 front.length = front := by
  rw [readBytes_eq_take_drop]
  · simp
  · simp

theorem readBytes_add (mem : Bytes) (offset m n : ℕ) :
    readBytes P mem offset (m + n) =
      readBytes P mem offset m ++ readBytes P mem (offset + m) n := by
  simp only [readBytes, List.range_add, List.map_append, List.map_map]
  congr 1
  apply List.map_congr_left
  intro i _
  simp [Function.comp, Nat.add_assoc]

theorem leShortToHost_append (front rest : Bytes) (v : UInt16) :
    leShortToHost P (front ++ (hostShortToLe v ++ rest)) front.length = v := by
  have hfirst : byteAt P (front ++ (hostShortToLe v ++ rest)) front.length =
      UInt8.ofNat v.toNat := by
    simp [byteAt, hostShortToLe, le16]
  have hsecond : byteAt P (front ++ (hostShortToLe v ++ rest)) (front.length + 1) =
      UInt8.ofNat (v.toNat / 2 ^ 8) := by
    simp [byteAt, hostShortToLe, le16]
  rw [leShortToHost, hfirst, hsecond]
  exact LibRasta.Lib.ofLe16_le16 v

end MemoryLemmas

end LibRasta.Util
