/-
Module: LibRasta/Util/Crc.lean
source: src/c/util/rastacrc.c
digest: The five CRC option sets of the redundancy layer and the table driven CRC computation.
-/

import LibRasta.Util.Packet

set_option autoImplicit false
set_option relaxedAutoImplicit false

namespace LibRasta.Util

/-- The loop of `reflect`; `i` runs down from the highest bit, so 64 rounds always suffice. -/
def reflectLoop (crcIn : UInt64) : ℕ → UInt64 → UInt64 → UInt64 → UInt64
  | 0, _, _, crcOut => crcOut
  | rounds + 1, i, j, crcOut =>
    if i = 0 then crcOut
    else reflectLoop crcIn rounds (i >>> 1) (j <<< 1)
      (if crcIn &&& i ≠ 0 then crcOut ||| j else crcOut)

/-- `reflect`: the lower `n` bits of `crcIn` in reverse order. -/
def reflect (crcIn : UInt64) (n : ℕ) : UInt64 :=
  reflectLoop crcIn 64 ((1 : UInt64) <<< (UInt64.ofNat (n - 1))) 1 0

/-- The mask and the high bit every option set with a CRC computes from its width. -/
def withWidth (options : CrcOptions) (width : UInt16) : CrcOptions :=
  let highBit : UInt64 := (1 : UInt64) <<< (UInt64.ofNat (width.toNat - 1))
  { options with
    width := width
    crcMask := ((highBit - 1) <<< 1) ||| 1
    crcHighBit := highBit
    isTableGenerated := false }

/-- `crc_init_opt_a`: no CRC. -/
def crcInitOptA : CrcOptions where
  width := 0
  polynom := 0
  initial := 0
  initialOptimized := 0
  refin := false
  refout := false
  finalXor := 0
  crcMask := 0
  crcHighBit := 0
  isTableGenerated := false
  table := List.replicate 256 0

/-- `crc_init_opt_b`. -/
def crcInitOptB : CrcOptions :=
  withWidth { crcInitOptA with polynom := 0xEE5B42FD } 32

/-- `crc_init_opt_c`. -/
def crcInitOptC : CrcOptions :=
  withWidth
    { crcInitOptA with
      polynom := 0x1EDC6F41
      initial := 0x2A26F826
      initialOptimized := 0xFFFFFFFF
      refin := true
      refout := true
      finalXor := 0xFFFFFFFF } 32

/-- `crc_init_opt_d`. -/
def crcInitOptD : CrcOptions :=
  withWidth { crcInitOptA with polynom := 0x1021, refin := true, refout := true } 16

/-- `crc_init_opt_e`. -/
def crcInitOptE : CrcOptions :=
  withWidth { crcInitOptA with polynom := 0x8005, refin := true, refout := true } 16

/-- One round of the inner loop of `crc_generate_table`. -/
def tableRound (options : CrcOptions) (crc : UInt64) : UInt64 :=
  if crc &&& options.crcHighBit ≠ 0 then (crc <<< 1) ^^^ options.polynom else crc <<< 1

/-- The entry `crc_generate_table` computes for index `i`. -/
def tableEntry (options : CrcOptions) (i : ℕ) : UInt64 :=
  let start : UInt64 := UInt64.ofNat i
  let reflected := if options.refin then reflect start 8 else start
  let shifted := reflected <<< (UInt64.ofNat options.width.toNat - 8)
  let divided := (List.range 8).foldl (fun crc _ => tableRound options crc) shifted
  let result := if options.refin then reflect divided options.width.toNat else divided
  result &&& options.crcMask

/-- `crc_generate_table`. -/
def crcGenerateTable (options : CrcOptions) : CrcOptions :=
  { options with
    table := (List.range 256).map (tableEntry options)
    isTableGenerated := true }

/-- One byte of the main loop of `crc_calculate`. -/
def crcByte (options : CrcOptions) (crc : UInt64) (byte : UInt8) : UInt64 :=
  if options.refin then
    (crc >>> 8) ^^^ options.table.getD ((crc &&& 0xff) ^^^ byte.toUInt64).toNat 0
  else
    (crc <<< 8) ^^^
      options.table.getD
        (((crc >>> (UInt64.ofNat options.width.toNat - 8)) &&& 0xff) ^^^ byte.toUInt64).toNat 0

/-- `crc_calculate`. Every caller passes its own copy of the options, so the generated
table does not outlive the call. -/
def crcCalculate (options : CrcOptions) (data : Bytes) : UInt64 :=
  let options := if options.isTableGenerated then options else crcGenerateTable options
  let start :=
    if options.refin then reflect options.initialOptimized options.width.toNat
    else options.initialOptimized
  let crc := data.foldl (crcByte options) start
  let crc := if options.refout != options.refin then reflect crc options.width.toNat else crc
  (crc ^^^ options.finalXor) &&& options.crcMask

end LibRasta.Util
